import UdpGame.BufferOwnership
import UdpGame.EventPipeline
import UdpGame.MessageLog

/-!
# The buffers of a server

Where the buffers of a server live, and for how long.  A datagram is received
into a local message, whose buffer an event takes over if there is one; the
event goes when it has been handled.  A reply is built in a local buffer, which
the player it went to takes over if the send succeeded.  Run on the heap, the
operations that do this leave one block for each event that waits and one for
each message that is kept (`server_memory`).
-/

namespace UdpGame

open UniquePtr ByteWindow

/-- The message of the receive loop, the events by number, the local of a
handler, and `messages[messageId]` of a player. -/
inductive BufferName where
  | msg
  | event (number : Nat)
  | buffer
  | message (player messageId : UInt32)
  deriving DecidableEq, Repr

/-! ## The operations -/

/-- `Game::OnMessage` on a message with these bytes: the event that is made has a
buffer of its own until it is assigned that of the message. -/
def Game.onMessageOps (number : Nat) (action : Action) (data : List UInt8) :
    List (BufferOp BufferName) :=
  let take := [.construct (.event number), .moveAssign (.event number) .msg]
  .read .msg ::
    match action with
    | .login => match LoginMessage.deserialize data with
      | .ok (some _) => take
      | _ => []
    | .ping => match PingMessage.deserialize data with
      | .ok (some _) => take
      | _ => []
    | .acknowledge => match AcknowledgeMessage.deserialize data with
      | .ok (some _) => take
      | _ => []
    | _ => []

/-- The callback that `main` registers with `OnRecv`. -/
def Game.onRecvOps (number : Nat) (data : List UInt8) : List (BufferOp BufferName) :=
  .read .msg ::
    match Message.deserialize data with
    | .ok (some message) => onMessageOps number message.action data
    | _ => []

/-- One turn of the receive loop of `UdpServer::Run`. -/
def UdpServer.receiveOps (number : Nat) (datagram : Datagram) : List (BufferOp BufferName) :=
  [.construct .msg, .write .msg 0 datagram.bytes, .setOffset .msg datagram.bytes.length] ++
    Game.onRecvOps number datagram.bytes ++ [.destroy .msg]

namespace Server

/-- How a handler answers: the buffer is built, sent, and kept if it was sent and
the number is not taken. -/
def replyOps (id : UInt32) (state : PlayerState) (call : SendCall) : List (BufferOp BufferName) :=
  [.construct .buffer, .write .buffer 0 call.buffer.bytes,
    .setOffset .buffer call.buffer.bytes.length, .read .buffer] ++
  (if call.result ∧ state.messages.find? state.nextMessage = none then
    [.moveConstruct (.message id state.nextMessage) .buffer] else []) ++
  [.destroy .buffer]

def handleOps (inet : Inet) (env : Env) (ev : Event) (game : GameState) :
    Checked (List (BufferOp BufferName)) :=
  match ev with
  | .login ev => do
    let (id, _, game) ← game.createPlayer env (loginEndpoint inet ev).1 (loginEndpoint inet ev).2
    let state ← Checked.deref (game.getPlayerById id)
    return replyOps id state (loginReply inet env ev id state.nextMessage)
  | .ping ev =>
    if ev.ping.playerId = kInvalidPlayer then return []
    else match game.getPlayerById ev.ping.playerId with
      | none => return []
      | some state => return replyOps ev.ping.playerId state (pingReply inet env ev state)
  | .acknowledge _ => return []

/-- `Game::Tick`, which starts with event `number`. -/
def drainOps (inet : Inet) :
    (Nat → Env) → Nat → List Event → GameState → Checked (List (BufferOp BufferName))
  | _, _, [], _ => return []
  | env, number, ev :: events, game => do
    let ops ← handleOps inet (env 0) ev game
    let (game, _) ← (gameLoop inet).dispatch (env 0) ev game
    let rest ← drainOps inet (fun i => env (i + 1)) (number + 1) events game
    return ops ++ .destroy (.event number) :: rest

/-- A server and the number of events it has handled. -/
structure Ledger where
  game : Game GameState
  handled : Nat := 0

/-- One call into the server, with what it does to the buffers. -/
def Ledger.step (inet : Inet) (input : Input) (ledger : Ledger) :
    Checked (Ledger × List (BufferOp BufferName)) := do
  let (game, _) ← Game.step inet (gameLoop inet) input ledger.game
  match input with
  | .recv datagram =>
    return ({ ledger with game := game },
      UdpServer.receiveOps (ledger.handled + ledger.game.mEvents.length) datagram)
  | .tick env =>
    let ops ← drainOps inet env ledger.handled ledger.game.mEvents ledger.game.loop
    return ({ game := game, handled := ledger.handled + ledger.game.mEvents.length }, ops)

end Server

/-! ## Filling and reading a buffer -/

def NetworkBuffer.value (buffer : NetworkBuffer) : Option Memory × NetworkBuffer.Members :=
  (some buffer.mBuffer, { mSize := buffer.mSize, mOffset := buffer.mOffset })

section Fill

variable {κ : Type} [DecidableEq κ] {k : κ} {v : BufferValues κ} {bytes : List UInt8}

theorem run_fill (dead : v k = none) (fits : bytes.length ≤ kNetworkBufferSize) :
    Run.run BufferValues.step [.construct k, .write k 0 bytes, .setOffset k bytes.length] v =
      .ok (Function.update v k (some (NetworkBuffer.holding bytes).value), []) := by
  have room : 0 + bytes.length ≤ (List.replicate kNetworkBufferSize (0 : UInt8)).length := by
    rw [List.length_replicate, Nat.zero_add]
    exact fits
  have wrote : BufferValues.store k 0 bytes (Function.update v k (some BufferValues.fresh)) =
      .ok (Function.update v k (some (some (NetworkBuffer.holding bytes).mBuffer,
        BufferValues.fresh.2))) := by
    unfold BufferValues.store
    rw [Function.update_self, alive_some, ok_bind]
    by_cases empty : bytes = []
    · rw [if_pos empty, empty]
      rfl
    · simp only [if_neg empty, View.deref, Function.update_self, alive_some, ok_bind,
        BufferValues.fresh, pure_eq_ok, if_pos room, Function.update_idem]
      rfl
  simp only [Run.run, BufferValues.step, BufferValues.construct, dead, ok_bind, wrote, pure_eq_ok,
    BufferValues.setOffset, Function.update_self, alive_some, Function.update_idem]
  rfl

theorem step_read (held : v k = some (NetworkBuffer.holding bytes).value)
    (fits : bytes.length ≤ kNetworkBufferSize) :
    BufferValues.step (.read k) v = .ok (v, [(bytes, kNetworkBufferSize)]) := by
  have read : BufferValues.bytes k v = .ok bytes := by
    unfold BufferValues.bytes
    rw [held, alive_some, ok_bind]
    by_cases empty : bytes = []
    · rw [empty]
      rfl
    · have size : bytes.length ≠ 0 := mt List.length_eq_zero_iff.mp empty
      have room : bytes.length ≤ (NetworkBuffer.holding bytes).mBuffer.length := by
        have zeros : 0 + bytes.length ≤ (List.replicate kNetworkBufferSize (0 : UInt8)).length := by
          rw [List.length_replicate, Nat.zero_add]
          exact fits
        rw [NetworkBuffer.holding, length_overwrite zeros, List.length_replicate]
        exact fits
      have same : window (NetworkBuffer.holding bytes).mBuffer 0 bytes.length = bytes :=
        NetworkBuffer.bytes_holding fits
      have offset : (NetworkBuffer.holding bytes).mOffset = bytes.length := rfl
      simp only [View.deref, held, alive_some, ok_bind, NetworkBuffer.value, offset, if_neg size,
        pure_eq_ok, if_pos room, same]
  simp only [BufferValues.step, read, held, alive_some, ok_bind, pure_eq_ok]
  rfl

end Fill

/-! ## What the operations come to -/

/-- The buffer of an event is that of its datagram. -/
theorem Datagram.buffer_of_event? {inet : Inet} {datagram : Datagram} {ev : Event}
    (accepted : datagram.event? inet = some ev) :
    ev.base.msg.buffer = .holding datagram.bytes := by
  simp only [Datagram.event?] at accepted
  split at accepted
  case h_2 => cases accepted
  split at accepted
  case h_4 => cases accepted
  all_goals
    split at accepted
    · cases accepted
      rfl
    · cases accepted

/-- The message is read, and its buffer goes to the event if there is one. -/
theorem onRecvOps_eq (inet : Inet) (datagram : Datagram) (number : Nat) :
    ∃ reads : List (BufferOp BufferName), (∀ op ∈ reads, op = .read .msg) ∧
      Game.onRecvOps number datagram.bytes = reads ++ (datagram.event? inet).elim [] fun _ =>
        [.construct (.event number), .moveAssign (.event number) .msg] := by
  unfold Game.onRecvOps Datagram.event? Game.onMessageOps
  have once : ∀ op ∈ [BufferOp.read BufferName.msg], op = .read .msg := by simp
  have twice : ∀ op ∈ [BufferOp.read BufferName.msg, .read .msg], op = .read .msg := by simp
  cases Message.deserialize datagram.bytes with
  | error fault => exact ⟨_, once, rfl⟩
  | ok decoded =>
      cases decoded with
      | none => exact ⟨_, once, rfl⟩
      | some message =>
          simp only
          cases message.action with
          | login =>
              rcases LoginMessage.deserialize datagram.bytes with fault | _ | login <;>
                exact ⟨_, twice, rfl⟩
          | ping =>
              rcases PingMessage.deserialize datagram.bytes with fault | _ | ping <;>
                exact ⟨_, twice, rfl⟩
          | acknowledge =>
              rcases AcknowledgeMessage.deserialize datagram.bytes with fault | _ | ack <;>
                exact ⟨_, twice, rfl⟩
          | none => exact ⟨_, twice, rfl⟩
          | other value unnamed => exact ⟨_, twice, rfl⟩

theorem UdpServer.tidy_receiveOps (inet : Inet) (number : Nat) (datagram : Datagram) :
    BufferValues.Tidy (receiveOps number datagram) := by
  obtain ⟨reads, all, ops⟩ := onRecvOps_eq inet datagram number
  have tidy : BufferValues.Tidy (Game.onRecvOps number datagram.bytes) := by
    rw [ops]
    refine .append (.of_forall fun op member => ?_) ?_
    · simp [all op member]
    · cases datagram.event? inet <;> exact .of_forall (by simp)
  have gone : BufferValues.Tidy [.destroy BufferName.msg] := .of_forall (by simp)
  rw [receiveOps, List.append_assoc]
  exact .fill _ _ _ (tidy.append gone)

section Receive

variable {v : BufferValues BufferName} {number : Nat}

/-- Reads change nothing and show what the buffer holds. -/
theorem run_reads {κ : Type} [DecidableEq κ] {k : κ} {v : BufferValues κ} {bytes : List UInt8}
    (held : v k = some (NetworkBuffer.holding bytes).value)
    (fits : bytes.length ≤ kNetworkBufferSize) {reads : List (BufferOp κ)}
    (all : ∀ op ∈ reads, op = .read k) :
    ∃ outs, Run.run BufferValues.step reads v = .ok (v, outs) ∧
      ∀ out ∈ outs, out = (bytes, kNetworkBufferSize) := by
  induction reads with
  | nil => exact ⟨[], rfl, by simp⟩
  | cons op reads ih =>
      rcases List.forall_mem_cons.mp all with ⟨rfl, later⟩
      obtain ⟨outs, ran, same⟩ := ih later
      refine ⟨_, Run.run_cons_eq_ok.mpr ⟨v, _, outs, step_read held fits, ran, rfl⟩, ?_⟩
      intro out member
      rcases List.mem_append.mp member with here | there
      · exact List.mem_singleton.mp here
      · exact same out there

/-- A message takes its buffer along when it goes. -/
theorem run_destroy {κ : Type} [DecidableEq κ] {k : κ} {v : BufferValues κ}
    {value : Option Memory × NetworkBuffer.Members} (held : v k = some value) :
    Run.run BufferValues.step [.destroy k] v = .ok (Function.update v k none, []) := by
  simp only [Run.run, BufferValues.step, BufferValues.destroy, held, alive_some, ok_bind,
    pure_eq_ok]
  rfl

/-- Nothing is left of a buffer whose value went elsewhere. -/
theorem run_destroy_give {κ : Type} [DecidableEq κ] {k other : κ} {v : BufferValues κ}
    (value : Option Memory × NetworkBuffer.Members) (apart : k ≠ other) (dead : v other = none)
    (o : Option (Option Memory × NetworkBuffer.Members)) :
    Run.run BufferValues.step [.destroy other]
        (BufferValues.give k other value (Function.update v other o)) =
      .ok (Function.update v k (some value), []) := by
  have moved : BufferValues.give k other value (Function.update v other o) other =
      some BufferValues.moved := by
    rw [BufferValues.give, Function.update_of_ne apart.symm, Function.update_self]
  have back : Function.update (BufferValues.give k other value (Function.update v other o)) other
      none = Function.update v k (some value) := by
    have gone : Function.update v other none = v := Function.update_eq_self_iff.mpr dead.symm
    rw [BufferValues.give, Function.update_idem, Function.update_comm apart,
      Function.update_idem, gone]
  rw [run_destroy moved, back]

/-- An event is made, and takes the buffer of the message. -/
theorem run_take {κ : Type} [DecidableEq κ] {k other : κ} {v : BufferValues κ}
    {value : Option Memory × NetworkBuffer.Members} (apart : k ≠ other) (dead : v k = none)
    (held : v other = some value) :
    Run.run BufferValues.step [.construct k, .moveAssign k other] v =
      .ok (BufferValues.give k other value v, []) := by
  have same : BufferValues.give k other value (Function.update v k (some BufferValues.fresh)) =
      BufferValues.give k other value v :=
    Buffers.give_congr value fun k' first _ => Function.update_of_ne first ..
  simp only [Run.run, BufferValues.step, BufferValues.construct, dead, BufferValues.moveAssign,
    Function.update_self, Function.update_of_ne apart.symm, held, alive_some, ok_bind, pure_eq_ok,
    same]
  rfl

/-- What becomes of the message of a datagram. -/
theorem run_receiveOps (inet : Inet) (datagram : Datagram) (msg : v .msg = none)
    (free : v (.event number) = none) :
    ∃ reads, Run.run BufferValues.step (UdpServer.receiveOps number datagram) v =
        .ok (Function.update v (.event number)
          ((datagram.event? inet).map fun ev => ev.base.msg.buffer.value), reads) ∧
      ∀ read ∈ reads, read = (datagram.bytes, kNetworkBufferSize) := by
  obtain ⟨reads, all, ops⟩ := onRecvOps_eq inet datagram number
  have filled := run_fill msg datagram.fits
  have held : Function.update v .msg (some (NetworkBuffer.holding datagram.bytes).value) .msg =
      some (NetworkBuffer.holding datagram.bytes).value := Function.update_self ..
  obtain ⟨outs, read, same⟩ := run_reads held datagram.fits all
  have apart : BufferName.event number ≠ .msg := by simp
  refine ⟨outs, ?_, same⟩
  rw [UdpServer.receiveOps, ops, List.append_assoc, List.append_assoc]
  cases accepted : datagram.event? inet with
  | none =>
      have rest := run_destroy held
      have back : Function.update (Function.update v .msg
          (some (NetworkBuffer.holding datagram.bytes).value)) .msg none =
          Function.update v (.event number) none := by
        rw [Function.update_idem, Function.update_eq_self_iff.mpr msg.symm,
          Function.update_eq_self_iff.mpr free.symm]
      rw [back] at rest
      have whole := Run.run_append_of filled (Run.run_append_of read rest)
      rw [List.append_nil] at whole
      exact whole
  | some ev =>
      have dead : Function.update v .msg (some (NetworkBuffer.holding datagram.bytes).value)
          (.event number) = none := by rw [Function.update_of_ne apart, free]
      have took := run_take apart dead held
      have rest := run_destroy_give (NetworkBuffer.holding datagram.bytes).value apart msg
        (some (NetworkBuffer.holding datagram.bytes).value)
      rw [Option.map_some, Datagram.buffer_of_event? accepted]
      have whole := Run.run_append_of filled
        (Run.run_append_of read (Run.run_append_of took rest))
      rw [List.append_nil, List.append_nil] at whole
      exact whole

end Receive

section Reply

variable {id : UInt32} {state : PlayerState} {call : SendCall} {bytes : List UInt8}
  {v : BufferValues BufferName}

theorem run_moveConstruct {κ : Type} [DecidableEq κ] {k other : κ} {v : BufferValues κ}
    {value : Option Memory × NetworkBuffer.Members} (dead : v k = none)
    (held : v other = some value) :
    Run.run BufferValues.step [.moveConstruct k other] v =
      .ok (BufferValues.give k other value v, []) := by
  simp only [Run.run, BufferValues.step, BufferValues.moveConstruct, dead, held, alive_some,
    ok_bind, pure_eq_ok]
  rfl

theorem Server.tidy_replyOps (id : UInt32) (state : PlayerState) (call : SendCall) :
    BufferValues.Tidy (replyOps id state call) := by
  have gone : BufferValues.Tidy [.destroy BufferName.buffer] := .of_forall (by simp)
  rw [replyOps, List.append_assoc]
  split
  · exact .fill _ _ _ (.cons (by simp) (.cons (by simp) gone))
  · exact .fill _ _ _ (.cons (by simp) gone)

/-- What becomes of a reply: it is kept as the player's state says. -/
theorem Server.run_replyOps (dead : v .buffer = none)
    (kept : v (.message id state.nextMessage) =
      (state.messages.find? state.nextMessage).map NetworkBuffer.value)
    (holds : call.buffer = .holding bytes) (fits : bytes.length ≤ kNetworkBufferSize) :
    ∃ reads, Run.run BufferValues.step (replyOps id state call) v =
        .ok (Function.update v (.message id state.nextMessage)
          (((answered call state).messages.find? state.nextMessage).map NetworkBuffer.value),
          reads) ∧
      ∀ read ∈ reads, read.2 = kNetworkBufferSize := by
  have shown : call.buffer.bytes = bytes := by rw [holds, NetworkBuffer.bytes_holding fits]
  have filled := run_fill dead fits
  have held : Function.update v .buffer (some (NetworkBuffer.holding bytes).value) .buffer =
      some (NetworkBuffer.holding bytes).value := Function.update_self ..
  have read : Run.run BufferValues.step [.read .buffer]
      (Function.update v .buffer (some (NetworkBuffer.holding bytes).value)) =
      .ok (Function.update v .buffer (some (NetworkBuffer.holding bytes).value),
        [(bytes, kNetworkBufferSize)]) := by
    rw [Run.run, step_read held fits]
    rfl
  have built := Run.run_append_of filled read
  have apart : BufferName.message id state.nextMessage ≠ .buffer := by simp
  refine ⟨[(bytes, kNetworkBufferSize)], ?_, by simp⟩
  rw [replyOps, shown]
  by_cases keeps : call.result = true ∧ state.messages.find? state.nextMessage = none
  · rw [if_pos keeps]
    obtain ⟨sent, free⟩ := keeps
    have stored : (answered call state).messages.find? state.nextMessage = some call.buffer := by
      rw [messages_answered, if_pos sent, UnorderedMap.find?_tryEmplace_self free]
    have dead' : Function.update v .buffer (some (NetworkBuffer.holding bytes).value)
        (.message id state.nextMessage) = none := by
      rw [Function.update_of_ne apart, kept, free, Option.map_none]
    have moved := run_moveConstruct dead' held
    rw [stored, holds]
    have rest := run_destroy_give (NetworkBuffer.holding bytes).value apart dead
      (some (NetworkBuffer.holding bytes).value)
    exact Run.run_append_of (Run.run_append_of built moved) rest
  · rw [if_neg keeps]
    have same : (answered call state).messages.find? state.nextMessage =
        state.messages.find? state.nextMessage := by
      rw [messages_answered]
      split
      · rename_i sent
        cases taken : state.messages.find? state.nextMessage with
        | none => exact absurd ⟨sent, taken⟩ keeps
        | some buffer => rw [UnorderedMap.tryEmplace_of_taken taken, taken]
      · rfl
    have rest := run_destroy held
    have back : Function.update (Function.update v .buffer
        (some (NetworkBuffer.holding bytes).value)) .buffer none =
        Function.update v (.message id state.nextMessage)
          ((state.messages.find? state.nextMessage).map NetworkBuffer.value) := by
      rw [Function.update_idem, Function.update_eq_self_iff.mpr dead.symm,
        Function.update_eq_self_iff.mpr kept.symm]
    rw [back, ← same] at rest
    exact Run.run_append_of built rest

end Reply

/-! ## The buffers between two calls -/

namespace Server

open GameState

/-- The message a player keeps under a number. -/
def kept (game : GameState) (id messageId : UInt32) :
    Option (Option Memory × NetworkBuffer.Members) :=
  (game.getPlayerById id).bind fun state =>
    (state.messages.find? messageId).map NetworkBuffer.value

/-- The buffers of a server that waits for a call: those of its events, the first
of which is event `handled`, and those of its players. -/
def bufferValues (handled : Nat) (events : List Event) (game : GameState) :
    BufferValues BufferName
  | .msg => none
  | .event number =>
      if number < handled then none
      else (events[number - handled]?).map fun ev => ev.base.msg.buffer.value
  | .buffer => none
  | .message id messageId => kept game id messageId

section Handle

variable {inet : Inet} {env : Env} {game after : GameState} {out : List SendCall} {handled : Nat}
  {events : List Event} {id : UInt32} {state : PlayerState}

/-- A player that changes one message. -/
theorem bufferValues_update (held : game.getPlayerById id = some state)
    {f : PlayerState → PlayerState} (messageId : UInt32)
    (others : ∀ key, key ≠ messageId → (f state).messages.find? key = state.messages.find? key) :
    bufferValues handled events (game.update id f) =
      Function.update (bufferValues handled events game) (.message id messageId)
        (((f state).messages.find? messageId).map NetworkBuffer.value) := by
  funext name
  by_cases here : name = .message id messageId
  · subst here
    rw [Function.update_self]
    simp only [bufferValues, kept, getPlayerById_update_self f held, Option.bind_some]
  rw [Function.update_of_ne here]
  cases name with
  | msg => rfl
  | buffer => rfl
  | event number => rfl
  | message id' messageId' =>
      by_cases same : id' = id
      · subst same
        have other : messageId' ≠ messageId := fun same => here (by rw [same])
        simp only [bufferValues, kept, getPlayerById_update_self f held, held, Option.bind_some,
          others messageId' other]
      · have apart : (game.update id f).getPlayerById id' = game.getPlayerById id' :=
          UnorderedMap.find?_modify_ne same
        simp only [bufferValues, kept, apart]

/-- A new player has no messages. -/
theorem bufferValues_createPlayer (keyed : game.Keyed) {endpoint : Endpoint} {created : Bool}
    (entry : game.createPlayer env endpoint.1 endpoint.2 = .ok (id, created, after)) :
    bufferValues handled events after = bufferValues handled events game := by
  rcases createPlayer_cases env keyed entry with ⟨-, -, -, -, rfl⟩ | ⟨-, free, rfl, -, rfl⟩
  · rfl
  · funext name
    cases name with
    | msg => rfl
    | buffer => rfl
    | event number => rfl
    | message id' messageId' =>
        by_cases same : id' = game.mNextPlayerId
        · subst same
          simp only [bufferValues, kept, getPlayerById_enter_self env free, free,
            Option.bind_some, Option.bind_none]
          rfl
        · have apart : (game.enter env endpoint).getPlayerById id' = game.getPlayerById id' :=
            UnorderedMap.find?_tryEmplace_ne same
          simp only [bufferValues, kept, apart]

theorem find?_answered_ne (call : SendCall) {key : UInt32} (other : key ≠ state.nextMessage) :
    (answered call state).messages.find? key = state.messages.find? key := by
  rw [messages_answered]
  split
  · exact UnorderedMap.find?_tryEmplace_ne other
  · rfl

/-- A reply to a player, kept or not. -/
theorem run_reply (held : game.getPlayerById id = some state) {call : SendCall}
    {bytes : List UInt8} (holds : call.buffer = .holding bytes)
    (fits : bytes.length ≤ kNetworkBufferSize) (f : PlayerState → PlayerState)
    (answers : (f state).messages = (answered call state).messages) :
    ∃ reads, Run.run BufferValues.step (replyOps id state call)
        (bufferValues handled events game) =
          .ok (bufferValues handled events (game.update id f), reads) ∧
      ∀ read ∈ reads, read.2 = kNetworkBufferSize := by
  have there : bufferValues handled events game (.message id state.nextMessage) =
      (state.messages.find? state.nextMessage).map NetworkBuffer.value := by
    simp only [bufferValues, kept, held, Option.bind_some]
  obtain ⟨reads, ran, sizes⟩ := run_replyOps rfl there holds fits
  refine ⟨reads, ?_, sizes⟩
  rw [bufferValues_update held state.nextMessage, answers]
  · exact ran
  · intro key other
    rw [answers]
    exact find?_answered_ne call other

/-- What a handler that returns does to the buffers. -/
theorem run_handleOps (handled : Nat) (events : List Event) (keyed : game.Keyed) {ev : Event}
    (stepped : step inet (env, ev) game = .ok (after, out)) :
    ∃ ops reads, handleOps inet env ev game = .ok ops ∧
      Run.run BufferValues.step ops (bufferValues handled events game) =
        .ok (bufferValues handled events after, reads) ∧
      ∀ read ∈ reads, read.2 = kNetworkBufferSize := by
  cases ev with
  | login ev =>
      obtain ⟨game', id, created, state, entry, keyed', held, -, -, rfl⟩ :=
        handleLogin_cases keyed stepped
      have call : (loginReply inet env ev id state.nextMessage).buffer = .holding _ := rfl
      obtain ⟨reads, ran, sizes⟩ := run_reply held call
        (Serializer.encodes_login.datagram_fits _) (answered _) rfl
      refine ⟨replyOps id state (loginReply inet env ev id state.nextMessage), reads, ?_, ?_, sizes⟩
      · simp only [handleOps, entry, Checked.ok_bind, held, Checked.deref_some, Checked.pure_eq_ok]
      · rw [← bufferValues_createPlayer keyed entry]
        exact ran
  | ping ev =>
      rcases handlePing_cases inet env ev game with ⟨ran, dropped⟩ | ⟨state, valid, held, ran⟩
      · cases ran.symm.trans stepped
        refine ⟨[], [], ?_, rfl, by simp⟩
        rcases dropped with invalid | unknown
        · exact if_pos invalid
        · simp only [handleOps, unknown, Checked.pure_eq_ok, ite_self]
      · cases ran.symm.trans stepped
        have call : (pingReply inet env ev state).buffer = .holding _ := rfl
        have answers : (answered (pingReply inet env ev state) (state.seen env.now)).messages =
            (answered (pingReply inet env ev state) state).messages := by
          rw [messages_answered, messages_answered]
          rfl
        obtain ⟨reads, ran, sizes⟩ := run_reply held call
          (Serializer.encodes_acknowledge.datagram_fits _)
          (fun state' => answered (pingReply inet env ev state) (state'.seen env.now)) answers
        refine ⟨replyOps ev.ping.playerId state (pingReply inet env ev state), reads, ?_, ran,
          sizes⟩
        simp only [handleOps, if_neg valid, held, Checked.pure_eq_ok]
  | acknowledge ev =>
      cases stepped
      exact ⟨[], [], rfl, rfl, by simp⟩

theorem tidy_handleOps {ev : Event} {ops : List (BufferOp BufferName)}
    (made : handleOps inet env ev game = .ok ops) : BufferValues.Tidy ops := by
  cases ev with
  | login ev =>
      simp only [handleOps, Checked.bind_eq_ok, Checked.pure_eq_ok] at made
      obtain ⟨⟨id, created, game'⟩, -, state, -, same⟩ := made
      cases same
      exact tidy_replyOps ..
  | ping ev =>
      simp only [handleOps] at made
      split at made
      · cases made
        exact .nil
      · split at made
        · cases made
          exact .nil
        · cases made
          exact tidy_replyOps ..
  | acknowledge ev =>
      cases made
      exact .nil

theorem tidy_drainOps {env : Nat → Env} {handled : Nat} {ops : List (BufferOp BufferName)}
    (made : drainOps inet env handled events game = .ok ops) : BufferValues.Tidy ops := by
  induction events generalizing env handled game ops with
  | nil =>
      cases made
      exact .nil
  | cons ev events ih =>
      simp only [drainOps, Checked.bind_eq_ok, Checked.pure_eq_ok] at made
      obtain ⟨first, handles, ⟨game', sends⟩, -, rest, later, same⟩ := made
      cases same
      exact (tidy_handleOps handles).append (.cons (by simp) (ih later))

/-- The first event is gone. -/
theorem bufferValues_destroy (ev : Event) :
    Function.update (bufferValues handled (ev :: events) game) (.event handled) none =
      bufferValues (handled + 1) events game := by
  funext name
  by_cases here : name = .event handled
  · subst here
    rw [Function.update_self]
    exact (if_pos (Nat.lt_succ_self handled)).symm
  rw [Function.update_of_ne here]
  cases name with
  | msg => rfl
  | buffer => rfl
  | message id messageId => rfl
  | event number =>
      have other : number ≠ handled := fun same => here (by rw [same])
      by_cases gone : number < handled
      · simp only [bufferValues, if_pos gone, if_pos (Nat.lt_succ_of_lt gone)]
      · have later : ¬ number < handled + 1 := by omega
        have place : number - handled = number - (handled + 1) + 1 := by omega
        simp only [bufferValues, if_neg gone, if_neg later, place, List.getElem?_cons_succ]

/-- A tick handles the events and destroys them one after another. -/
theorem run_drainOps (handled : Nat) {env : Nat → Env} (keyed : game.Keyed)
    (tagged : ∀ ev ∈ events, ev.Tagged)
    (drained : Game.drain (gameLoop inet) env events game = .ok (after, out)) :
    ∃ ops reads, drainOps inet env handled events game = .ok ops ∧
      Run.run BufferValues.step ops (bufferValues handled events game) =
        .ok (bufferValues (handled + events.length) [] after, reads) ∧
      ∀ read ∈ reads, read.2 = kNetworkBufferSize := by
  induction events generalizing env handled game out with
  | nil =>
      cases drained
      exact ⟨[], [], rfl, rfl, by simp⟩
  | cons ev events ih =>
      rcases List.forall_mem_cons.mp tagged with ⟨first, others⟩
      obtain ⟨⟨mid, sends⟩, dispatched, rest⟩ := Checked.bind_eq_ok.mp drained
      obtain ⟨⟨last, sends'⟩, later, same⟩ := Checked.bind_eq_ok.mp rest
      cases same
      have handledEvent : step inet (env 0, ev) game = .ok (mid, sends) :=
        (Handlers.dispatch_of_tagged (gameLoop inet) (env 0) first game).symm.trans dispatched
      obtain ⟨ops, reads, made, ran, sizes⟩ :=
        run_handleOps handled (ev :: events) keyed handledEvent
      obtain ⟨ops', reads', made', ran', sizes'⟩ :
          ∃ ops reads, drainOps inet (fun i => env (i + 1)) (handled + 1) events mid = .ok ops ∧ _ :=
        ih (handled + 1) (keyed_step keyed handledEvent) others later
      have here : bufferValues handled (ev :: events) mid (.event handled) =
          some ev.base.msg.buffer.value := by
        simp only [bufferValues, Nat.lt_irrefl, if_false, Nat.sub_self, List.getElem?_cons_zero,
          Option.map_some]
      have destroyed := run_destroy here
      rw [bufferValues_destroy] at destroyed
      refine ⟨ops ++ ([.destroy (.event handled)] ++ ops'), reads ++ ([] ++ reads'), ?_, ?_, ?_⟩
      · simp only [drainOps, made, Checked.ok_bind, dispatched, made', Checked.pure_eq_ok]
        rfl
      · have length : handled + (ev :: events).length = handled + 1 + events.length := by
          rw [List.length_cons, Nat.add_right_comm, Nat.add_assoc]
        rw [length]
        exact Run.run_append_of ran (Run.run_append_of destroyed ran')
      · intro read member
        rcases List.mem_append.mp member with member | member
        · exact sizes read member
        · exact sizes' read member

end Handle

/-! ## How many messages are kept -/

section Count

variable {inet : Inet} {env : Env} {game after : GameState} {out : List SendCall} {count : Nat}
  {id : UInt32} {state : PlayerState}

/-- The number of messages that are kept. -/
def keptCount (game : GameState) : Nat :=
  (game.mPlayers.entries.map fun entry => entry.2.messages.size).sum

/-- After `count` sends no player's next number is taken. -/
structure Counted (count : Nat) (game : GameState) : Prop where
  next : ∀ {id state}, game.getPlayerById id = some state → state.nextMessage.toNat ≤ count
  free : ∀ {id state key buffer}, game.getPlayerById id = some state →
    state.messages.find? key = some buffer → key.toNat < state.nextMessage.toNat

theorem counted_initial (params : Params) : Counted 0 { mParams := params } :=
  ⟨fun held => (nomatch held), fun held => (nomatch held)⟩

theorem size_answered (call : SendCall)
    (free : state.messages.find? state.nextMessage = none) :
    (answered call state).messages.size =
      state.messages.size + [call].countP fun call => call.result := by
  rw [messages_answered]
  cases sent : call.result with
  | false => simp [sent]
  | true =>
      rw [if_pos rfl, UnorderedMap.size, (UnorderedMap.tryEmplace_of_fresh free).1]
      simp [sent, UnorderedMap.size]

/-- A reply counts, and is kept if it was sent. -/
theorem counted_reply (counted : Counted count game) (few : count + 1 < 2 ^ 32)
    (held : game.getPlayerById id = some state) {call : SendCall} (f : PlayerState → PlayerState)
    (next : (f state).nextMessage = state.nextMessage + 1)
    (answers : (f state).messages = (answered call state).messages) :
    Counted (count + 1) (game.update id f) ∧
      keptCount (game.update id f) =
        keptCount game + [call].countP fun call => call.result := by
  have below := counted.next held
  have number : (state.nextMessage + 1).toNat = state.nextMessage.toNat + 1 := by
    rw [UInt32.toNat_add]
    exact Nat.mod_eq_of_lt (Nat.lt_of_le_of_lt (Nat.succ_le_succ below) few)
  have free : state.messages.find? state.nextMessage = none := by
    rw [Option.eq_none_iff_forall_ne_some]
    intro buffer taken
    exact Nat.lt_irrefl _ (counted.free held taken)
  refine ⟨⟨?_, ?_⟩, ?_⟩
  · intro id' state' held'
    by_cases same : id' = id
    · subst same
      rw [getPlayerById_update_self f held] at held'
      cases held'
      rw [next, number]
      exact Nat.succ_le_succ below
    · have apart : (game.update id f).getPlayerById id' = game.getPlayerById id' :=
        UnorderedMap.find?_modify_ne same
      exact Nat.le_succ_of_le (counted.next (apart ▸ held'))
  · intro id' state' key buffer held' taken
    by_cases same : id' = id
    · subst same
      rw [getPlayerById_update_self f held] at held'
      cases held'
      rw [next, number]
      rw [answers] at taken
      by_cases here : key = state.nextMessage
      · rw [here]
        exact Nat.lt_succ_self _
      · rw [find?_answered_ne call here] at taken
        exact Nat.lt_succ_of_lt (counted.free held taken)
    · have apart : (game.update id f).getPlayerById id' = game.getPlayerById id' :=
        UnorderedMap.find?_modify_ne same
      exact counted.free (apart ▸ held') taken
  · have sum := UnorderedMap.sum_modify (f := f) (fun state => state.messages.size) held
    have grown := size_answered call free
    rw [← answers] at grown
    simp only [keptCount, update]
    omega

theorem counted_createPlayer (keyed : game.Keyed) (counted : Counted count game)
    {endpoint : Endpoint} {created : Bool}
    (entry : game.createPlayer env endpoint.1 endpoint.2 = .ok (id, created, after)) :
    Counted count after ∧ keptCount after = keptCount game := by
  rcases createPlayer_cases env keyed entry with ⟨-, -, -, -, rfl⟩ | ⟨-, free, rfl, -, rfl⟩
  · exact ⟨counted, rfl⟩
  · have split : ∀ {id state}, (game.enter env endpoint).getPlayerById id = some state →
        game.getPlayerById id = some state ∨
          state = freshState env game.mNextPlayerId endpoint := by
      intro id state held
      by_cases same : id = game.mNextPlayerId
      · subst same
        rw [getPlayerById_enter_self env free] at held
        exact .inr (Option.some.inj held).symm
      · have apart : (game.enter env endpoint).getPlayerById id = game.getPlayerById id :=
          UnorderedMap.find?_tryEmplace_ne same
        exact .inl (apart ▸ held)
    refine ⟨⟨fun held => ?_, fun held taken => ?_⟩, ?_⟩
    · rcases split held with old | rfl
      · exact counted.next old
      · exact Nat.zero_le _
    · rcases split held with old | rfl
      · exact counted.free old taken
      · cases taken
    · rw [keptCount, keptCount, entries_enter env free, List.map_append, List.sum_append]
      rfl

/-- An event that is handled. -/
theorem counted_step (keyed : game.Keyed) (counted : Counted count game) {input : Env × Event}
    (stepped : step inet input game = .ok (after, out)) (few : count + out.length < 2 ^ 32) :
    Counted (count + out.length) after ∧
      keptCount after = keptCount game + out.countP fun call => call.result := by
  obtain ⟨env, ev⟩ := input
  cases ev with
  | login ev =>
      obtain ⟨game', id, created, state, entry, -, held, -, rfl, rfl⟩ :=
        handleLogin_cases keyed stepped
      obtain ⟨counted', same⟩ := counted_createPlayer keyed counted entry
      rw [← same]
      exact counted_reply counted' few held _ (nextMessage_answered ..) rfl
  | ping ev =>
      rcases handlePing_cases inet env ev game with ⟨ran, -⟩ | ⟨state, -, held, ran⟩
      · cases ran.symm.trans stepped
        exact ⟨counted, rfl⟩
      · cases ran.symm.trans stepped
        refine counted_reply counted few held _ (nextMessage_answered ..) ?_
        rw [messages_answered, messages_answered]
        rfl
  | acknowledge ev =>
      cases stepped
      exact ⟨counted, rfl⟩

/-- A queue of events that is handled. -/
theorem counted_run {inputs : List (Env × Event)} (keyed : game.Keyed)
    (counted : Counted count game) (ran : Run.run (step inet) inputs game = .ok (after, out))
    (few : count + out.length < 2 ^ 32) :
    Counted (count + out.length) after ∧
      keptCount after = keptCount game + out.countP fun call => call.result := by
  induction inputs generalizing game count out with
  | nil =>
      cases ran
      exact ⟨counted, rfl⟩
  | cons input inputs ih =>
      obtain ⟨mid, first, rest, stepped, later, rfl⟩ := Run.run_cons_eq_ok.mp ran
      rw [List.length_append] at few ⊢
      obtain ⟨counted', kept'⟩ := counted_step keyed counted stepped (by omega)
      obtain ⟨counted'', kept''⟩ := ih (keyed_step keyed stepped) counted' later (by omega)
      refine ⟨by rw [← Nat.add_assoc]; exact counted'', ?_⟩
      rw [kept'', kept', List.countP_append, Nat.add_assoc]

end Count

/-! ## Whole runs -/

section Run

variable {inet : Inet} {params : Params} {inputs : List Input} {game game' : Game GameState}
  {calls : List SendCall}

theorem bufferValues_initial : bufferValues 0 [] { mParams := params } = fun _ => none := by
  funext name
  cases name with
  | msg => rfl
  | buffer => rfl
  | message id messageId => rfl
  | event number => simp only [bufferValues, List.getElem?_nil, Option.map_none, ite_self]

/-- The number of the next event is not in use. -/
theorem bufferValues_next (handled : Nat) (events : List Event) (loop : GameState) :
    bufferValues handled events loop (.event (handled + events.length)) = none := by
  simp only [bufferValues, Nat.not_lt.mpr (Nat.le_add_right ..), if_false, Nat.add_sub_cancel_left,
    List.getElem?_eq_none (Nat.le_refl _), Option.map_none]

/-- An event that comes in. -/
theorem bufferValues_push (handled : Nat) (events : List Event) (ev : Event) (loop : GameState) :
    Function.update (bufferValues handled events loop) (.event (handled + events.length))
        (some ev.base.msg.buffer.value) = bufferValues handled (events ++ [ev]) loop := by
  funext name
  by_cases here : name = .event (handled + events.length)
  · subst here
    rw [Function.update_self]
    simp only [bufferValues, Nat.not_lt.mpr (Nat.le_add_right ..), if_false,
      Nat.add_sub_cancel_left, List.getElem?_concat_length, Option.map_some]
  rw [Function.update_of_ne here]
  cases name with
  | msg => rfl
  | buffer => rfl
  | message id messageId => rfl
  | event number =>
      have other : number ≠ handled + events.length := fun same => here (by rw [same])
      by_cases gone : number < handled
      · simp only [bufferValues, if_pos gone]
      · have place : number - handled ≠ events.length := by omega
        have same : (events ++ [ev])[number - handled]? = events[number - handled]? := by
          rcases Nat.lt_or_gt_of_ne place with inside | beyond
          · rw [List.getElem?_append_left inside]
          · rw [List.getElem?_eq_none (Nat.le_of_lt beyond), List.getElem?_eq_none]
            rw [List.length_append, List.length_singleton]
            exact beyond
        simp only [bufferValues, if_neg gone, same]

/-- A call and what it does to the buffers. -/
theorem step_ledger {input : Input} (keyed : game.loop.Keyed)
    (tagged : ∀ ev ∈ game.mEvents, ev.Tagged)
    (stepped : Game.step inet (gameLoop inet) input game = .ok (game', calls)) (handled : Nat) :
    game'.loop.Keyed ∧ (∀ ev ∈ game'.mEvents, ev.Tagged) ∧
    ∃ handled' ops reads,
      Ledger.step inet input { game := game, handled := handled } =
        .ok ({ game := game', handled := handled' }, ops) ∧
      Run.run BufferValues.step ops (bufferValues handled game.mEvents game.loop) =
        .ok (bufferValues handled' game'.mEvents game'.loop, reads) ∧
      ∀ read ∈ reads, read.2 = kNetworkBufferSize := by
  have ledger := stepped
  cases input with
  | recv datagram =>
      rw [Game.step_recv] at stepped
      cases stepped
      obtain ⟨reads, ran, same⟩ := run_receiveOps inet datagram rfl
        (bufferValues_next handled game.mEvents game.loop)
      refine ⟨keyed, ?_, handled,
        UdpServer.receiveOps (handled + game.mEvents.length) datagram, reads, ?_, ?_,
        fun read member => by rw [same read member]⟩
      · intro ev member
        rcases List.mem_append.mp member with old | new
        · exact tagged ev old
        · exact (Datagram.carries_of_event? (Option.mem_toList.mp new)).tagged
      · simp only [Ledger.step, ledger, Checked.ok_bind, Checked.pure_eq_ok]
      · rw [ran]
        cases datagram.event? inet with
        | none =>
            have same : Function.update (bufferValues handled game.mEvents game.loop)
                (.event (handled + game.mEvents.length)) none =
                bufferValues handled game.mEvents game.loop :=
              Function.update_eq_self_iff.mpr (bufferValues_next ..).symm
            simp only [Option.map_none, Option.toList_none, List.append_nil, same]
        | some ev =>
            simp only [Option.map_some, Option.toList_some, bufferValues_push]
  | tick env =>
      obtain ⟨loop, drained, rfl⟩ := (Game.step_tick_eq_ok inet (gameLoop inet)).mp stepped
      obtain ⟨ops, reads, made, ran, sizes⟩ := run_drainOps handled keyed tagged drained
      refine ⟨?_, fun ev member => absurd member List.not_mem_nil, _, ops, reads, ?_, ran, sizes⟩
      · rw [Game.drain_eq_run _ _ tagged] at drained
        exact Run.run_invariant keyed_step keyed drained
      · simp only [Ledger.step, ledger, made, Checked.ok_bind, Checked.pure_eq_ok]

/-- A server sets no offset but that of a buffer it has just filled. -/
theorem tidy_ledger {ledger : Ledger} {start : Game GameState}
    {ops : List (BufferOp BufferName)}
    (ran : Run.run (Ledger.step inet) inputs { game := start } = .ok (ledger, ops)) :
    BufferValues.Tidy ops := by
  refine Run.run_induction (motive := fun _ ops _ => BufferValues.Tidy ops) .nil ?_ ran
  intro past ops ledger input ledger' out _ tidy stepped
  refine tidy.append ?_
  simp only [Ledger.step, Checked.bind_eq_ok] at stepped
  obtain ⟨⟨game, sends⟩, -, stepped⟩ := stepped
  cases input with
  | recv datagram =>
      cases stepped
      exact UdpServer.tidy_receiveOps inet _ datagram
  | tick env =>
      simp only [Checked.bind_eq_ok] at stepped
      obtain ⟨ops', made, same⟩ := stepped
      cases same
      exact tidy_drainOps made

/-- Every run of the server is one of its buffers. -/
theorem run_ledger
    (ran : Run.run (Game.step inet (gameLoop inet)) inputs { loop := { mParams := params } } =
      .ok (game, calls)) :
    game.loop.Keyed ∧ (∀ ev ∈ game.mEvents, ev.Tagged) ∧
    ∃ handled ops reads,
      Run.run (Ledger.step inet) inputs { game := { loop := { mParams := params } } } =
        .ok ({ game := game, handled := handled }, ops) ∧
      Run.run BufferValues.step ops (fun _ => none) =
        .ok (bufferValues handled game.mEvents game.loop, reads) ∧
      ∀ read ∈ reads, read.2 = kNetworkBufferSize := by
  refine Run.run_induction (motive := fun inputs _ game =>
    game.loop.Keyed ∧ (∀ ev ∈ game.mEvents, ev.Tagged) ∧
    ∃ handled ops reads,
      Run.run (Ledger.step inet) inputs { game := { loop := { mParams := params } } } =
        .ok ({ game := game, handled := handled }, ops) ∧
      Run.run BufferValues.step ops (fun _ => none) =
        .ok (bufferValues handled game.mEvents game.loop, reads) ∧
      ∀ read ∈ reads, read.2 = kNetworkBufferSize) ?_ ?_ ran
  · refine ⟨keyed_initial params, fun ev member => absurd member List.not_mem_nil, 0, [], [], rfl,
      ?_, by simp⟩
    rw [bufferValues_initial]
    rfl
  · rintro past outs game input game' out - ⟨keyed, tagged, handled, ops, reads, ran, values, sizes⟩
      stepped
    obtain ⟨keyed', tagged', handled', ops', reads', ran', values', sizes'⟩ :=
      step_ledger keyed tagged stepped handled
    refine ⟨keyed', tagged', handled', ops ++ ops', reads ++ reads',
      Run.run_snoc_eq_ok.mpr ⟨_, _, _, ran, ran', rfl⟩, Run.run_append_of values values', ?_⟩
    intro read member
    rcases List.mem_append.mp member with member | member
    · exact sizes read member
    · exact sizes' read member

/-- The names of the buffers there are. -/
def bufferNames (handled : Nat) (events : List Event) (game : GameState) : List BufferName :=
  (List.range events.length).map (fun i => .event (handled + i)) ++
    game.mPlayers.entries.flatMap fun entry =>
      entry.2.messages.entries.map fun message => .message entry.1 message.1

theorem nodup_bufferNames (handled : Nat) (events : List Event) (game : GameState) :
    (bufferNames handled events game).Nodup := by
  refine List.Nodup.append ?_ ?_ ?_
  · refine List.nodup_range.map fun i j same => ?_
    exact Nat.add_left_cancel (BufferName.event.inj same)
  · refine List.nodup_flatMap.mpr ⟨fun entry _ => ?_, ?_⟩
    · have keys := entry.2.messages.nodup.map fun key key' same =>
        (BufferName.message.inj same : entry.1 = entry.1 ∧ key = key').2
      rw [List.map_map] at keys
      exact keys
    · refine (List.pairwise_map.mp game.mPlayers.nodup).imp fun apart name left right => ?_
      obtain ⟨message, -, rfl⟩ := List.mem_map.mp left
      obtain ⟨message', -, same⟩ := List.mem_map.mp right
      exact apart (BufferName.message.inj same).1.symm
  · intro name left right
    obtain ⟨i, -, rfl⟩ := List.mem_map.mp left
    obtain ⟨entry, -, member⟩ := List.mem_flatMap.mp right
    obtain ⟨message, -, same⟩ := List.mem_map.mp member
    cases same

theorem exists_block_iff {o : Option NetworkBuffer} :
    (∃ block members, o.map NetworkBuffer.value = some (some block, members)) ↔
      ∃ buffer, o = some buffer := by
  constructor
  · rintro ⟨block, members, shown⟩
    obtain ⟨buffer, there, -⟩ := Option.map_eq_some_iff.mp shown
    exact ⟨buffer, there⟩
  · rintro ⟨buffer, rfl⟩
    exact ⟨buffer.mBuffer, _, rfl⟩

theorem mem_bufferNames {handled : Nat} {events : List Event} {game : GameState}
    {name : BufferName} :
    name ∈ bufferNames handled events game ↔
      ∃ block members, bufferValues handled events game name = some (some block, members) := by
  simp only [bufferNames, List.mem_append, List.mem_map, List.mem_range, List.mem_flatMap]
  cases name with
  | msg => simp [bufferValues]
  | buffer => simp [bufferValues]
  | event number =>
      have values : bufferValues handled events game (.event number) =
          (if number < handled then none
            else (events[number - handled]?).map fun ev => ev.base.msg.buffer).map
              NetworkBuffer.value := by
        simp only [bufferValues]
        split
        · rfl
        · rw [Option.map_map]
          rfl
      rw [values, exists_block_iff]
      constructor
      · rintro (⟨i, inside, same⟩ | ⟨entry, -, message, -, same⟩)
        · cases same
          refine ⟨events[i].base.msg.buffer, ?_⟩
          rw [if_neg (Nat.not_lt.mpr (Nat.le_add_right ..)), Nat.add_sub_cancel_left,
            List.getElem?_eq_getElem inside, Option.map_some]
        · cases same
      · rintro ⟨buffer, there⟩
        split at there
        · cases there
        · rename_i waits
          obtain ⟨ev, there, -⟩ := Option.map_eq_some_iff.mp there
          obtain ⟨inside, -⟩ := List.getElem?_eq_some_iff.mp there
          exact .inl ⟨number - handled, inside, by rw [Nat.add_sub_cancel' (Nat.not_lt.mp waits)]⟩
  | message id messageId =>
      have values : bufferValues handled events game (.message id messageId) =
          ((game.getPlayerById id).bind fun state => state.messages.find? messageId).map
            NetworkBuffer.value := by
        rw [Option.map_bind]
        rfl
      rw [values, exists_block_iff]
      constructor
      · rintro (⟨i, -, same⟩ | ⟨⟨id', state⟩, player, ⟨messageId', buffer⟩, message, same⟩)
        · cases same
        · cases same
          exact ⟨buffer, by rw [getPlayerById_eq_some.mpr player, Option.bind_some,
            UnorderedMap.find?_eq_some.mpr message]⟩
      · rintro ⟨buffer, there⟩
        obtain ⟨state, player, message⟩ := Option.bind_eq_some_iff.mp there
        exact .inr ⟨(id, state), getPlayerById_eq_some.mp player, (messageId, buffer),
          UnorderedMap.find?_eq_some.mp message, rfl⟩

/-- The server keeps what it has sent. -/
theorem keptCount_of_run
    (ran : Run.run (Game.step inet (gameLoop inet)) inputs { loop := { mParams := params } } =
      .ok (game, calls)) (few : calls.length < 2 ^ 32) :
    keptCount game.loop = calls.countP fun call => call.result := by
  have none : ∀ ev ∈ ({ loop := { mParams := params } } : Game GameState).mEvents, ev.Tagged :=
    fun ev member => absurd member List.not_mem_nil
  rw [Game.run_eq_handled inet (gameLoop inet) inputs none] at ran
  obtain ⟨⟨loop, sends⟩, handled, same⟩ := Checked.bind_eq_ok.mp ran
  cases same
  have counted := counted_run (keyed_initial params) (counted_initial params) handled
    (by rw [Nat.zero_add]; exact few)
  rw [counted.2]
  exact Nat.zero_add _

/-- Whatever a server has received and handled, its buffers on the heap are those
of the events that wait and those of the messages that it keeps, each at an
address of its own; and no buffer was read that had been moved from. -/
theorem server_memory
    (ran : Run.run (Game.step inet (gameLoop inet)) inputs { loop := { mParams := params } } =
      .ok (game, calls)) :
    ∃ handled ops s reads,
      Run.run (Ledger.step inet) inputs { game := { loop := { mParams := params } } } =
        .ok ({ game := game, handled := handled }, ops) ∧
      Run.run Buffers.step ops Store.empty = .ok (s, reads) ∧
      (∀ read ∈ reads, read.2 = kNetworkBufferSize) ∧
      s.view = bufferValues handled game.mEvents game.loop ∧
      ∃ addresses : List Nat, addresses.Nodup ∧ (∀ p, s.heap p ≠ none ↔ p ∈ addresses) ∧
        addresses.length = game.mEvents.length + keptCount game.loop ∧
        (calls.length < 2 ^ 32 → keptCount game.loop = calls.countP fun call => call.result) := by
  obtain ⟨-, -, handled, ops, reads, ledger, values, sizes⟩ := run_ledger ran
  obtain ⟨s, heap, owned, view⟩ := Buffers.exists_run ((tidy_ledger ledger).along _) values
  obtain ⟨addresses, distinct, length, there⟩ :=
    owned.exists_addresses (nodup_bufferNames handled game.mEvents game.loop) fun name => by
      rw [mem_bufferNames, view]
  refine ⟨handled, ops, s, reads, ledger, heap, sizes, view, addresses, distinct, there, ?_,
    keptCount_of_run ran⟩
  rw [length, bufferNames, List.length_append, List.length_map, List.length_range,
    List.length_flatMap]
  simp only [List.length_map]
  rfl

/-- A login that was answered, and one that waits: two blocks. -/
theorem server_memory_answered_and_waiting :
    ∃ (game : Game GameState) (calls : List SendCall) (handled : Nat)
      (ops : List (BufferOp BufferName)) (s : Buffers BufferName) (reads : List (List UInt8 × Nat))
      (addresses : List Nat),
      Run.run (Game.step .dottedQuad (gameLoop .dottedQuad))
          [.recv loginDatagram, .tick fun _ => {}, .recv loginDatagram] { loop := {} } =
        .ok (game, calls) ∧
      Run.run (Ledger.step .dottedQuad)
          [.recv loginDatagram, .tick fun _ => {}, .recv loginDatagram]
          { game := { loop := {} } } = .ok ({ game := game, handled := handled }, ops) ∧
      Run.run Buffers.step ops Store.empty = .ok (s, reads) ∧
      (∀ p, s.heap p ≠ none ↔ p ∈ addresses) ∧ addresses.length = 2 := by
  have count : (Run.run (Game.step .dottedQuad (gameLoop .dottedQuad))
      [.recv loginDatagram, .tick fun _ => {}, .recv loginDatagram] { loop := {} }).toOption.map
        (fun done => done.1.mEvents.length + keptCount done.1.loop) = some 2 := by
    decide +kernel
  obtain ⟨⟨game, calls⟩, returned, two⟩ := Option.map_eq_some_iff.mp count
  have ran : Run.run (Game.step .dottedQuad (gameLoop .dottedQuad))
      [.recv loginDatagram, .tick fun _ => {}, .recv loginDatagram] { loop := {} } =
        .ok (game, calls) := by
    revert returned
    generalize Run.run (Game.step .dottedQuad (gameLoop .dottedQuad))
      [.recv loginDatagram, .tick fun _ => {}, .recv loginDatagram] { loop := {} } = result
    intro returned
    cases result with
    | error fault => cases returned
    | ok done =>
        cases returned
        rfl
  obtain ⟨handled, ops, s, reads, ledger, heap, -, -, addresses, -, there, length,
    -⟩ := server_memory ran
  exact ⟨game, calls, handled, ops, s, reads, addresses, ran, ledger, heap, there,
    length.trans two⟩

end Run

end Server

end UdpGame
