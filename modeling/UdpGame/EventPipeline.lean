import UdpGame.Game
import UdpGame.Lib.Run
import Mathlib.Data.List.DropRight

/-!
# The event pipeline

A game loop behind its receive callback, fed with datagrams and ticks in any
order.  Each accepted datagram becomes one event, and each event one call of the
handler of its type, at the next tick (`event_pipeline`).
-/

namespace UdpGame

/-- What `recvfrom` returns: the sender and at most a buffer full of bytes. -/
structure Datagram where
  source : SockAddr
  bytes : List UInt8
  fits : bytes.length ≤ kNetworkBufferSize
  deriving DecidableEq, Repr

inductive Input where
  | recv (datagram : Datagram)
  | tick (env : Nat → Env)

/-- One call into a game loop. -/
def Game.step {σ : Type} (inet : Inet) (handlers : Handlers σ) :
    Input → Game σ → Checked (Game σ × List SendCall)
  | .recv datagram, game => do
    let game ← game.onRecv (.received inet datagram.source datagram.bytes)
    return (game, [])
  | .tick env, game => do
    let (_, game, sends) ← game.tick handlers env
    return (game, sends)

/-! ## From a datagram to an event -/

/-- The event of a datagram that both decoders accept: the one for any message
and the one for the type its action names. -/
def Datagram.event? (inet : Inet) (datagram : Datagram) : Option Event :=
  let msg := NetworkMessage.received inet datagram.source datagram.bytes
  match Message.deserialize datagram.bytes with
  | .ok (some message) =>
    match message.action with
    | .login =>
      match LoginMessage.deserialize datagram.bytes with
      | .ok (some login) => some (.login { msg := msg, action := .login, login := login })
      | _ => none
    | .ping =>
      match PingMessage.deserialize datagram.bytes with
      | .ok (some ping) => some (.ping { msg := msg, action := .ping, ping := ping })
      | _ => none
    | .acknowledge =>
      match AcknowledgeMessage.deserialize datagram.bytes with
      | .ok (some ack) => some (.acknowledge { msg := msg, action := .acknowledge, ack := ack })
      | _ => none
    | _ => none
  | _ => none

/-- The tag of the event is that of its dynamic type. -/
def Event.Tagged : Event → Prop
  | .login ev => ev.action = .login
  | .ping ev => ev.action = .ping
  | .acknowledge ev => ev.action = .acknowledge

/-- The event holds the bytes, the source and the fields of the datagram, and
its tag, its dynamic type and the action it decoded are one. -/
def Event.Carries (inet : Inet) (ev : Event) (datagram : Datagram) : Prop :=
  ev.base.msg.buffer.bytes = datagram.bytes ∧
    ev.base.msg.address = addressToString inet datagram.source.address ∧
    ev.base.msg.port = datagram.source.port.toUInt32 ∧
    match ev with
    | .login ev => ev.action = .login ∧ ev.login.message.action = .login ∧
        LoginMessage.deserialize datagram.bytes = .ok (some ev.login)
    | .ping ev => ev.action = .ping ∧ ev.ping.message.action = .ping ∧
        PingMessage.deserialize datagram.bytes = .ok (some ev.ping)
    | .acknowledge ev => ev.action = .acknowledge ∧ ev.ack.message.action = .acknowledge ∧
        AcknowledgeMessage.deserialize datagram.bytes = .ok (some ev.ack)

theorem Event.Carries.tagged {inet : Inet} {ev : Event} {datagram : Datagram}
    (carries : ev.Carries inet datagram) : ev.Tagged := by
  cases ev with
  | login ev => exact carries.2.2.2.1
  | ping ev => exact carries.2.2.2.1
  | acknowledge ev => exact carries.2.2.2.1

theorem Datagram.carries_of_event? {inet : Inet} {datagram : Datagram} {ev : Event}
    (accepted : datagram.event? inet = some ev) : ev.Carries inet datagram := by
  have bytes : (NetworkMessage.received inet datagram.source datagram.bytes).buffer.bytes =
      datagram.bytes := NetworkBuffer.bytes_holding datagram.fits
  simp only [Datagram.event?] at accepted
  split at accepted
  case h_2 => cases accepted
  split at accepted
  case h_1 =>
    split at accepted
    case h_2 => cases accepted
    rename_i login decoded
    cases accepted
    exact ⟨bytes, rfl, rfl, rfl, Serializer.decodes_login.action_of_some decoded, decoded⟩
  case h_2 =>
    split at accepted
    case h_2 => cases accepted
    rename_i ping decoded
    cases accepted
    exact ⟨bytes, rfl, rfl, rfl, Serializer.decodes_ping.action_of_some decoded, decoded⟩
  case h_3 =>
    split at accepted
    case h_2 => cases accepted
    rename_i ack decoded
    cases accepted
    exact ⟨bytes, rfl, rfl, rfl, Serializer.decodes_acknowledge.action_of_some decoded, decoded⟩
  case h_4 => cases accepted

/-- The header an encoder fills in for a login. -/
def LoginMessage.sealedHeader (login : LoginMessage) : MessageHeader :=
  Wire.sealedHeader login.message (Wire.loginBytes login) (List.replicate kMessageHeaderSize 0)

/-- A login with that header. -/
def LoginMessage.sealed (login : LoginMessage) : LoginMessage :=
  { login with message := { login.message with header := login.sealedHeader } }

/-- An encoded login arrives as it was sent, unless its hash came out as zero. -/
theorem Datagram.event?_of_login {inet : Inet} {datagram : Datagram} {login : LoginMessage}
    (typed : login.message.action = .login) (bytes : datagram.bytes = login.datagram) :
    datagram.event? inet =
      if login.sealedHeader.hash ≠ 0 then
        some (.login
          { msg := .received inet datagram.source datagram.bytes
            action := .login
            login := login.sealed })
      else none := by
  have frame : datagram.bytes = Wire.frame login.sealedHeader login.message
      (Wire.loginBytes login) := bytes
  have length : datagram.bytes.length = kLoginMessageSize := by
    rw [frame, Wire.length_frame, Wire.length_loginBytes]
    rfl
  have shape : WellFormed datagram.bytes ↔ login.sealedHeader.hash ≠ 0 := by
    rw [frame]
    exact wellFormed_frame (by rw [Wire.length_loginBytes]; decide)
  have action : Wire.action datagram.bytes = .login := by
    rw [frame, Wire.action_frame, typed]
  have message : (Wire.message datagram.bytes).action = .login := action
  have value : Wire.login datagram.bytes = login.sealed := by
    rw [frame, Wire.login_frame, LoginMessage.sealed]
  by_cases hash : login.sealedHeader.hash ≠ 0
  · rw [if_pos hash, Datagram.event?, Message.deserialize_eq, if_pos (shape.mpr hash)]
    simp only [message]
    rw [LoginMessage.deserialize_eq, if_pos ⟨shape.mpr hash, action, length.ge⟩]
    simp only [value]
  · rw [if_neg hash, Datagram.event?, Message.deserialize_eq, if_neg (hash ∘ shape.mp)]

/-- Only a datagram that says so becomes a login. -/
theorem Datagram.action_of_event? {inet : Inet} {datagram : Datagram} {ev : LoginEvent}
    (accepted : datagram.event? inet = some (.login ev)) :
    Wire.action datagram.bytes = .login := by
  rcases Datagram.carries_of_event? accepted with ⟨-, -, -, -, -, decoded⟩
  exact (Serializer.decodes_login.eq_some decoded).2.1

/-- The callback pushes the event of the datagram, if it has one. -/
theorem Game.onRecv_eq {σ : Type} (inet : Inet) (datagram : Datagram) (game : Game σ) :
    game.onRecv (.received inet datagram.source datagram.bytes) =
      .ok ((datagram.event? inet).elim game game.push) := by
  have bytes : (NetworkMessage.received inet datagram.source datagram.bytes).buffer.bytes =
      datagram.bytes := NetworkBuffer.bytes_holding datagram.fits
  rw [Game.onRecv, bytes, Datagram.event?, Message.deserialize_eq, Checked.ok_bind]
  by_cases shape : WellFormed datagram.bytes
  swap
  · rw [if_neg shape]
    rfl
  rw [if_pos shape]
  simp only [Game.onMessage, bytes]
  cases (Wire.message datagram.bytes).action with
  | login =>
      rw [LoginMessage.deserialize_eq]
      by_cases typed : WellFormed datagram.bytes ∧ Wire.action datagram.bytes = .login ∧
        kLoginMessageSize ≤ datagram.bytes.length
      · rw [if_pos typed]
        rfl
      · rw [if_neg typed]
        rfl
  | ping =>
      rw [PingMessage.deserialize_eq]
      by_cases typed : WellFormed datagram.bytes ∧ Wire.action datagram.bytes = .ping ∧
        kPingMessageSize ≤ datagram.bytes.length
      · rw [if_pos typed]
        rfl
      · rw [if_neg typed]
        rfl
  | acknowledge =>
      rw [AcknowledgeMessage.deserialize_eq]
      by_cases typed : WellFormed datagram.bytes ∧ Wire.action datagram.bytes = .acknowledge ∧
        kAckMessageSize ≤ datagram.bytes.length
      · rw [if_pos typed]
        rfl
      · rw [if_neg typed]
        rfl
  | none => rfl
  | other value unnamed => rfl

/-! ## From an event to a handler call -/

/-- On an event whose tag is right the casts in `Tick` are valid. -/
theorem Handlers.dispatch_of_tagged {σ : Type} (handlers : Handlers σ) (env : Env) {ev : Event}
    (tagged : ev.Tagged) (loop : σ) :
    handlers.dispatch env ev loop = handlers.handle env ev loop := by
  cases ev with
  | login ev =>
      have tag : (Event.login ev).base.action = .login := tagged
      rw [dispatch, tag]
      rfl
  | ping ev =>
      have tag : (Event.ping ev).base.action = .ping := tagged
      rw [dispatch, tag]
      rfl
  | acknowledge ev =>
      have tag : (Event.acknowledge ev).base.action = .acknowledge := tagged
      rw [dispatch, tag]
      rfl

/-- The handlers of a loop, logging their calls: an entry is the event a handler
was called with, under the handler it was called on. -/
def Handlers.traced {σ : Type} (handlers : Handlers σ) : Handlers (σ × List Event) where
  handleLogin env ev loop := do
    let (next, sends) ← handlers.handleLogin env ev loop.1
    return ((next, loop.2 ++ [.login ev]), sends)
  handlePing env ev loop := do
    let (next, sends) ← handlers.handlePing env ev loop.1
    return ((next, loop.2 ++ [.ping ev]), sends)
  handleAcknowledge env ev loop := do
    let (next, sends) ← handlers.handleAcknowledge env ev loop.1
    return ((next, loop.2 ++ [.acknowledge ev]), sends)

section Trace

variable {σ : Type} (inet : Inet) (handlers : Handlers σ)

theorem Handlers.traced_handle (env : Env) (ev : Event) (loop : σ) (log : List Event) :
    handlers.traced.handle env ev (loop, log) = do
      let (next, sends) ← handlers.handle env ev loop
      return ((next, log ++ [ev]), sends) := by
  cases ev <;> rfl

/-- Draining a queue calls the handlers on its events in order. -/
theorem Game.drain_traced {env : Nat → Env} {events : List Event}
    (tagged : ∀ ev ∈ events, ev.Tagged) (loop : σ) (log : List Event) :
    drain handlers.traced env events (loop, log) = do
      let (next, sends) ← drain handlers env events loop
      return ((next, log ++ events), sends) := by
  induction events generalizing env loop log with
  | nil => simp only [drain, Checked.pure_eq_ok, Checked.ok_bind, List.append_nil]
  | cons ev events ih =>
      have first := tagged ev List.mem_cons_self
      simp only [drain, Handlers.dispatch_of_tagged _ _ first, Handlers.traced_handle]
      cases handlers.handle (env 0) ev loop with
      | error fault => rfl
      | ok handled =>
          simp only [Checked.ok_bind, Checked.pure_eq_ok,
            ih (fun ev member => tagged ev (List.mem_cons_of_mem _ member))]
          cases drain handlers (fun i => env (i + 1)) events handled.1 with
          | error fault => rfl
          | ok rest =>
              simp only [Checked.ok_bind, List.append_assoc, List.singleton_append]

/-- The events of a queue with the worlds they are handled in. -/
def stamped (env : Nat → Env) (events : List Event) : List (Env × Event) :=
  events.mapIdx fun i ev => (env i, ev)

theorem mem_of_mem_stamped {env : Nat → Env} {events : List Event} {input : Env × Event}
    (member : input ∈ stamped env events) : input.2 ∈ events := by
  rcases List.mem_mapIdx.mp member with ⟨i, inside, rfl⟩
  exact List.getElem_mem inside

theorem map_snd_stamped (env : Nat → Env) (events : List Event) :
    (stamped env events).map Prod.snd = events :=
  List.ext_getElem (by simp [stamped]) (by simp [stamped])

/-- A queue of one event drains by its handler. -/
theorem Game.drain_singleton {env : Nat → Env} {ev : Event} {loop loop' : σ}
    {sends : List SendCall} (tagged : ev.Tagged)
    (handled : handlers.handle (env 0) ev loop = .ok (loop', sends)) :
    drain handlers env [ev] loop = .ok (loop', sends) := by
  simp only [drain, Handlers.dispatch_of_tagged _ _ tagged, handled, Checked.ok_bind,
    Checked.pure_eq_ok, List.append_nil]

/-- Draining a queue is a run of its events. -/
theorem Game.drain_eq_run (env : Nat → Env) {events : List Event}
    (tagged : ∀ ev ∈ events, ev.Tagged) (loop : σ) :
    drain handlers env events loop =
      Run.run (fun input => handlers.handle input.1 input.2) (stamped env events) loop := by
  induction events generalizing env loop with
  | nil => rfl
  | cons ev events ih =>
      have first := tagged ev List.mem_cons_self
      simp only [drain, Handlers.dispatch_of_tagged _ _ first, stamped, List.mapIdx_cons, Run.run]
      cases handlers.handle (env 0) ev loop with
      | error fault => rfl
      | ok handled =>
          obtain ⟨next, out⟩ := handled
          have later := ih (fun i => env (i + 1))
            (fun ev member => tagged ev (List.mem_cons_of_mem _ member)) next
          simp only [stamped] at later
          simp only [Checked.ok_bind, later]
          cases Run.run (fun input => handlers.handle input.1 input.2)
            (events.mapIdx fun i ev => (env (i + 1), ev)) next <;> rfl

/-! ## Whole runs -/

def Input.isRecv : Input → Bool
  | .recv _ => true
  | .tick _ => false

def Input.datagram? : Input → Option Datagram
  | .recv datagram => some datagram
  | .tick _ => none

/-- The datagrams received before the last tick. -/
def beforeLastTick (inputs : List Input) : List Datagram :=
  (inputs.rdropWhile Input.isRecv).filterMap Input.datagram?

/-- The datagrams received since. -/
def sinceLastTick (inputs : List Input) : List Datagram :=
  (inputs.rtakeWhile Input.isRecv).filterMap Input.datagram?

theorem beforeLastTick_recv (past : List Input) (datagram : Datagram) :
    beforeLastTick (past ++ [.recv datagram]) = beforeLastTick past := by
  rw [beforeLastTick, List.rdropWhile_concat_pos _ _ _ rfl, beforeLastTick]

theorem sinceLastTick_recv (past : List Input) (datagram : Datagram) :
    sinceLastTick (past ++ [.recv datagram]) = sinceLastTick past ++ [datagram] := by
  rw [sinceLastTick, List.rtakeWhile_concat_pos _ _ _ rfl, List.filterMap_append]
  rfl

theorem beforeLastTick_tick (past : List Input) (env : Nat → Env) :
    beforeLastTick (past ++ [.tick env]) = beforeLastTick past ++ sinceLastTick past := by
  rw [beforeLastTick, List.rdropWhile_concat_neg _ _ _ Bool.false_ne_true, beforeLastTick,
    sinceLastTick, ← List.filterMap_append, List.rdropWhile_append_rtakeWhile,
    List.filterMap_append]
  exact List.append_nil _

theorem sinceLastTick_tick (past : List Input) (env : Nat → Env) :
    sinceLastTick (past ++ [.tick env]) = [] := by
  rw [sinceLastTick, List.rtakeWhile_concat_neg _ _ _ Bool.false_ne_true]
  rfl

/-- The events of a list of datagrams. -/
def events (datagrams : List Datagram) : List Event :=
  datagrams.filterMap (Datagram.event? inet)

theorem tagged_of_mem_events {datagrams : List Datagram} {ev : Event}
    (member : ev ∈ events inet datagrams) : ev.Tagged := by
  rcases List.mem_filterMap.mp member with ⟨datagram, -, accepted⟩
  exact (Datagram.carries_of_event? accepted).tagged

theorem Game.step_recv (datagram : Datagram) (game : Game σ) :
    Game.step inet handlers (.recv datagram) game =
      .ok ({ game with mEvents := game.mEvents ++ (datagram.event? inet).toList }, []) := by
  simp only [Game.step, Game.onRecv_eq, Checked.ok_bind, Checked.pure_eq_ok]
  cases datagram.event? inet with
  | none => simp
  | some ev => rfl

theorem Game.tick_eq_ok {env : Nat → Env} {game game' : Game σ} {result : Bool}
    {sends : List SendCall} :
    game.tick handlers env = .ok (result, game', sends) ↔
      ∃ loop, drain handlers env game.mEvents game.loop = .ok (loop, sends) ∧
        result = true ∧ game' = { mEvents := [], loop := loop } := by
  simp only [Game.tick]
  cases drain handlers env game.mEvents game.loop with
  | error fault => simp
  | ok drained =>
      obtain ⟨loop, out⟩ := drained
      simp only [Checked.ok_bind, Checked.pure_eq_ok, Except.ok.injEq, Prod.mk.injEq]
      constructor
      · rintro ⟨rfl, rfl, rfl⟩
        exact ⟨loop, ⟨rfl, rfl⟩, rfl, rfl⟩
      · rintro ⟨_, ⟨rfl, rfl⟩, rfl, rfl⟩
        exact ⟨rfl, rfl, rfl⟩

/-- A tick is a run of the queue. -/
theorem Game.tick_eq_ok_run {env : Nat → Env} {game game' : Game σ} {result : Bool}
    {sends : List SendCall} (tagged : ∀ ev ∈ game.mEvents, ev.Tagged) :
    game.tick handlers env = .ok (result, game', sends) ↔
      ∃ loop, Run.run (fun input => handlers.handle input.1 input.2) (stamped env game.mEvents)
          game.loop = .ok (loop, sends) ∧
        result = true ∧ game' = { mEvents := [], loop := loop } := by
  rw [Game.tick_eq_ok, Game.drain_eq_run handlers env tagged]

theorem Game.step_tick_eq_ok {env : Nat → Env} {game game' : Game σ} {sends : List SendCall} :
    Game.step inet handlers (.tick env) game = .ok (game', sends) ↔
      ∃ loop, drain handlers env game.mEvents game.loop = .ok (loop, sends) ∧
        game' = { mEvents := [], loop := loop } := by
  rw [Game.step, Checked.bind_eq_ok]
  constructor
  · intro done
    rcases done with ⟨⟨result, after, out⟩, ticked, done⟩
    cases done
    rcases (Game.tick_eq_ok handlers).mp ticked with ⟨loop, drained, -, rfl⟩
    exact ⟨loop, drained, rfl⟩
  · intro done
    rcases done with ⟨loop, drained, rfl⟩
    exact ⟨_, (Game.tick_eq_ok handlers).mpr ⟨loop, drained, rfl, rfl⟩, rfl⟩

/-- In every run the handlers have seen the events received before the last
tick, and the queue holds those received since. -/
theorem run_events {inputs : List Input} {loop : σ} {game : Game σ} {sends : List SendCall}
    (ran : Run.run (Game.step inet handlers) inputs { loop := loop } = .ok (game, sends)) :
    game.mEvents = events inet (sinceLastTick inputs) ∧
      Run.run (Game.step inet handlers.traced) inputs { loop := (loop, []) } =
        .ok ({ mEvents := game.mEvents, loop := (game.loop, events inet (beforeLastTick inputs)) },
          sends) := by
  refine Run.run_induction (motive := fun inputs sends game =>
    game.mEvents = events inet (sinceLastTick inputs) ∧
      Run.run (Game.step inet handlers.traced) inputs { loop := (loop, []) } =
        .ok ({ mEvents := game.mEvents, loop := (game.loop, events inet (beforeLastTick inputs)) },
          sends)) ⟨rfl, rfl⟩ ?_ ran
  rintro past outs game input game' out - ⟨queue, traced⟩ stepped
  cases input with
  | recv datagram =>
      rw [Game.step_recv] at stepped
      cases stepped
      constructor
      · rw [queue, sinceLastTick_recv, events, events, List.filterMap_append]
        simp only [List.filterMap_cons, List.filterMap_nil]
        cases datagram.event? inet <;> rfl
      · refine Run.run_snoc_eq_ok.mpr ⟨_, _, _, traced, ?_, rfl⟩
        rw [Game.step_recv, beforeLastTick_recv]
  | tick env =>
      rcases (Game.step_tick_eq_ok inet handlers).mp stepped with ⟨next, drained, rfl⟩
      have tagged : ∀ ev ∈ game.mEvents, ev.Tagged := fun ev member =>
        tagged_of_mem_events inet (queue ▸ member)
      constructor
      · rw [sinceLastTick_tick]
        rfl
      · refine Run.run_snoc_eq_ok.mpr ⟨_, _, _, traced,
          (Game.step_tick_eq_ok inet handlers.traced).mpr
            ⟨(next, events inet (beforeLastTick past) ++ game.mEvents), ?_, ?_⟩, rfl⟩
        · rw [Game.drain_traced handlers tagged, drained]
          rfl
        · rw [beforeLastTick_tick, queue, events, events, events, List.filterMap_append]

/-- No run stops for a bad cast or an assertion of the queue's own: a fault is
one of a handler. -/
theorem handler_of_run_eq_error {inputs : List Input} {loop : σ} {fault : Fault}
    (failed : Run.run (Game.step inet handlers) inputs { loop := loop } = .error fault) :
    ∃ env ev loop, handlers.handle env ev loop = .error fault := by
  rcases Run.exists_of_run_eq_error failed with ⟨past, input, rest, game, outs, -, ran, stopped⟩
  have queue := (run_events inet handlers ran).1
  cases input with
  | recv datagram =>
      rw [Game.step_recv] at stopped
      cases stopped
  | tick env =>
      have tagged : ∀ ev ∈ game.mEvents, ev.Tagged := fun ev member =>
        tagged_of_mem_events inet (queue ▸ member)
      simp only [Game.step, Game.tick, Game.drain_eq_run handlers env tagged] at stopped
      cases drained : Run.run (fun input => handlers.handle input.1 input.2)
          (stamped env game.mEvents) game.loop with
      | ok rest => simp only [drained, Checked.ok_bind, Checked.pure_eq_ok, reduceCtorEq] at stopped
      | error fault' =>
          rw [drained] at stopped
          cases stopped
          obtain ⟨past, ⟨env', ev⟩, rest, loop', outs, -, -, failed⟩ :=
            Run.exists_of_run_eq_error drained
          exact ⟨env', ev, loop', failed⟩

/-! ## Runs as runs of the handlers -/

/-- The events that the ticks of a run handle, with the worlds they are handled
in; at first the queue is `queue`. -/
def handled : List Event → List Input → List (Env × Event)
  | _, [] => []
  | queue, .recv datagram :: inputs => handled (queue ++ (datagram.event? inet).toList) inputs
  | queue, .tick env :: inputs => stamped env queue ++ handled [] inputs

/-- The queue at the end. -/
def waiting : List Event → List Input → List Event
  | queue, [] => queue
  | queue, .recv datagram :: inputs => waiting (queue ++ (datagram.event? inet).toList) inputs
  | _, .tick _ :: inputs => waiting [] inputs

theorem handled_append (queue : List Event) (first second : List Input) :
    handled inet queue (first ++ second) =
      handled inet queue first ++ handled inet (waiting inet queue first) second := by
  induction first generalizing queue with
  | nil => rfl
  | cons input first ih =>
      cases input with
      | recv datagram => exact ih _
      | tick env =>
          simp only [List.cons_append, handled, waiting, ih, List.append_assoc]

theorem waiting_append (queue : List Event) (first second : List Input) :
    waiting inet queue (first ++ second) = waiting inet (waiting inet queue first) second := by
  induction first generalizing queue with
  | nil => rfl
  | cons input first ih =>
      cases input with
      | recv datagram => exact ih _
      | tick env => exact ih []

/-- What is handled is what was received before the last tick. -/
theorem handled_eq_events (inputs : List Input) :
    (handled inet [] inputs).map Prod.snd = events inet (beforeLastTick inputs) ∧
      waiting inet [] inputs = events inet (sinceLastTick inputs) := by
  induction inputs using List.reverseRecOn with
  | nil => exact ⟨rfl, rfl⟩
  | append_singleton past input ih =>
      rcases ih with ⟨before, since⟩
      rw [handled_append, waiting_append, List.map_append, before, since]
      cases input with
      | recv datagram =>
          rw [beforeLastTick_recv, sinceLastTick_recv]
          constructor
          · exact List.append_nil _
          · simp only [waiting, events, List.filterMap_append, List.filterMap_cons,
              List.filterMap_nil]
            cases datagram.event? inet <;> rfl
      | tick env =>
          rw [beforeLastTick_tick, sinceLastTick_tick]
          constructor
          · simp only [handled, List.append_nil, map_snd_stamped, events, List.filterMap_append]
          · rfl

/-- A run of a game loop is a run of its handlers. -/
theorem Game.run_eq_handled (inputs : List Input) {game : Game σ}
    (tagged : ∀ ev ∈ game.mEvents, ev.Tagged) :
    Run.run (Game.step inet handlers) inputs game = do
      let (loop, sends) ← Run.run (fun input => handlers.handle input.1 input.2)
        (handled inet game.mEvents inputs) game.loop
      return ({ mEvents := waiting inet game.mEvents inputs, loop := loop }, sends) := by
  induction inputs generalizing game with
  | nil => rfl
  | cons input inputs ih =>
      cases input with
      | recv datagram =>
          have tagged' : ∀ ev ∈ game.mEvents ++ (datagram.event? inet).toList, ev.Tagged := by
            intro ev member
            rcases List.mem_append.mp member with old | new
            · exact tagged ev old
            · exact (Datagram.carries_of_event? (Option.mem_toList.mp new)).tagged
          rw [Run.run, Game.step_recv, handled, waiting]
          simp only [@ih { game with mEvents := _ } tagged', List.nil_append]
          cases Run.run (fun input => handlers.handle input.1 input.2)
            (handled inet (game.mEvents ++ (datagram.event? inet).toList) inputs) game.loop <;> rfl
      | tick env =>
          rw [Run.run, Game.step, Game.tick, Game.drain_eq_run handlers env tagged, handled,
            waiting, Run.run_append]
          cases Run.run (fun input => handlers.handle input.1 input.2) (stamped env game.mEvents)
              game.loop with
          | error fault => rfl
          | ok after =>
              simp only [Checked.ok_bind, Checked.pure_eq_ok,
                @ih { mEvents := [], loop := after.1 }
                  (fun ev member => absurd member List.not_mem_nil)]
              cases Run.run (fun input => handlers.handle input.1 input.2)
                (handled inet [] inputs) after.1 <;> rfl

end Trace

/-- Handler calls are the accepted datagrams, once each and in order. -/
theorem event_pipeline {σ : Type} (inet : Inet) (handlers : Handlers σ) (loop : σ)
    (inputs : List Input) :
    (∀ game sends, Run.run (Game.step inet handlers) inputs { loop := loop } = .ok (game, sends) →
      ∃ log,
        Run.run (Game.step inet handlers.traced) inputs { loop := (loop, []) } =
          .ok ({ mEvents := game.mEvents, loop := (game.loop, log) }, sends) ∧
        log = (beforeLastTick inputs).filterMap (Datagram.event? inet) ∧
        game.mEvents = (sinceLastTick inputs).filterMap (Datagram.event? inet)) ∧
    (∀ fault, Run.run (Game.step inet handlers) inputs { loop := loop } = .error fault →
      ∃ env ev loop, handlers.handle env ev loop = .error fault) ∧
    (∀ (datagram : Datagram) (ev : Event), datagram.event? inet = some ev →
      ev.Carries inet datagram) ∧
    (∀ (datagram : Datagram) (game : Game σ), datagram.event? inet = none →
      Game.step inet handlers (.recv datagram) game = .ok (game, [])) ∧
    (∀ env (game game' : Game σ) sends,
      Game.step inet handlers (.tick env) game = .ok (game', sends) → game'.mEvents = []) := by
  refine ⟨fun game sends ran => ?_, fun fault => handler_of_run_eq_error inet handlers,
    fun datagram ev => Datagram.carries_of_event?, fun datagram game rejected => ?_,
    fun env game game' sends stepped => ?_⟩
  · rcases run_events inet handlers ran with ⟨queue, traced⟩
    exact ⟨_, traced, rfl, queue⟩
  · rw [Game.step_recv, rejected, Option.toList_none, List.append_nil]
  · rcases (Game.step_tick_eq_ok inet handlers).mp stepped with ⟨next, -, rfl⟩
    rfl

/-- Handlers of a loop without state that sends nothing. -/
def Handlers.silent : Handlers Unit where
  handleLogin _ _ _ := return ((), [])
  handlePing _ _ _ := return ((), [])
  handleAcknowledge _ _ _ := return ((), [])

/-- A login datagram of a host; its hash is wrong, but no decoder looks. -/
def loginDatagram : Datagram :=
  { source := ⟨⟨10, 0, 0, 2⟩, 49152⟩, bytes := wrongHash, fits := by decide }

/-- Received twice, with a tick after each, a login is handled twice. -/
theorem event_pipeline_two_logins :
    ∃ log,
      Run.run (Game.step .dottedQuad Handlers.silent.traced)
        [.recv loginDatagram, .tick fun _ => {}, .recv loginDatagram, .tick fun _ => {}]
        { loop := ((), []) } = .ok ({ loop := ((), log) }, []) ∧ log.length = 2 := by
  obtain ⟨log, ran, rfl, -⟩ := (event_pipeline .dottedQuad Handlers.silent ()
    [.recv loginDatagram, .tick fun _ => {}, .recv loginDatagram, .tick fun _ => {}]).1 _ _ rfl
  exact ⟨_, ran, by decide⟩

end UdpGame
