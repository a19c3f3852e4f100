import UdpGame.UdpServer
import UdpGame.Client
import UdpGame.Registry

/-!
# The loops of the two programs

What `main` of the server and of the client end up in: `UdpServer::Run` over a
game, once it has made its assertions.  What the loop hands to the game, and how
it comes to an end, is up to the socket, the clock and `Shutdown` alone (`signals`,
`finish`), so that a run of a loop is a run of its game over that list
(`run_eq_signals`).  For the server this comes down to its handlers on the
accepted datagrams (`server_process`), and no datagram makes the client fail
(`exists_process`).
-/

namespace UdpGame

namespace UdpServer

section Loop

variable {σ : Type} {ω : Type*}

/-- What the loop hands to its two functions. -/
inductive Signal (ω : Type*) where
  | recv (datagram : Datagram)
  | tick (world : ω)

/-- One call of `mRecvFn` or of `tick`. -/
def Callbacks.step (inet : Inet) (callbacks : Callbacks σ ω) :
    Signal ω → σ → Checked (σ × List SendCall)
  | .recv datagram, app => do
    let app ← callbacks.mRecvFn (.received inet datagram.source datagram.bytes) app
    return (app, [])
  | .tick world, app => do
    let (_, app, sends) ← callbacks.tick world app
    return (app, sends)

/-! ## What the socket decides -/

/-- The datagrams the inner loop reads before it is left. -/
def consumed : List Outcome → List Datagram
  | [] => []
  | .error err :: outcomes =>
    if err = WSAEWOULDBLOCK then []
    else if err ≠ WSAECONNRESET ∧ err ≠ WSAECONNREFUSED then consumed outcomes
    else []
  | .datagram datagram :: outcomes => datagram :: consumed outcomes

/-- How it is left. -/
def exitOf : List Outcome → Exit
  | [] => .reading
  | .error err :: outcomes =>
    if err = WSAEWOULDBLOCK then .drained outcomes
    else if err ≠ WSAECONNRESET ∧ err ≠ WSAECONNREFUSED then exitOf outcomes
    else .returned outcomes
  | .datagram _ :: outcomes => exitOf outcomes

/-- The datagrams a pass reads. -/
def Round.reads (round : Round ω) : List Datagram :=
  if round.mShutdown then []
  else
    match round.select with
    | .readable outcomes => consumed outcomes
    | _ => []

/-- Whether a pass gets to its end, where the tick is. -/
def Round.verdict (round : Round ω) : Next :=
  if round.mShutdown then .stopped
  else
    match round.select with
    | .error err => if err ≠ WSAEINTR then .stopped else .again
    | .timeout => .again
    | .readable outcomes =>
      match exitOf outcomes with
      | .reading => .reading
      | .drained _ => .again
      | .returned _ => .stopped

/-- The calls that `Run` makes. -/
def signals (interval : Time) : List (Round ω) → Time → List (Signal ω)
  | [], _ => []
  | round :: rounds, lastTick =>
    round.reads.map .recv ++
      match round.verdict with
      | .again =>
        if round.now - lastTick > interval then
          .tick round.world :: signals interval rounds round.done
        else signals interval rounds lastTick
      | _ => []

/-- How `Run` ends. -/
def finish : List (Round ω) → Next
  | [] => .again
  | round :: rounds =>
    match round.verdict with
    | .again => finish rounds
    | next => next

/-- `lastTick` at the end. -/
def lastTickOf (interval : Time) : List (Round ω) → Time → Time
  | [], lastTick => lastTick
  | round :: rounds, lastTick =>
    match round.verdict with
    | .again =>
      lastTickOf interval rounds (if round.now - lastTick > interval then round.done else lastTick)
    | _ => lastTick

/-! ## A run of the loop is a run of the game -/

variable (inet : Inet) (callbacks : Callbacks σ ω) (interval : Time)

theorem drain_eq (mRecvFn : NetworkMessage → σ → Checked σ) (outcomes : List Outcome) (app : σ) :
    drain inet mRecvFn outcomes app = do
      let app ← deliver mRecvFn ((consumed outcomes).map fun datagram =>
        .received inet datagram.source datagram.bytes) app
      return (exitOf outcomes, app) := by
  induction outcomes generalizing app with
  | nil => rfl
  | cons outcome outcomes ih =>
      cases outcome with
      | error err =>
          rw [drain, consumed, exitOf]
          split
          · rfl
          split
          · exact ih app
          · rfl
      | datagram datagram =>
          simp only [drain, consumed, exitOf, List.map_cons, deliver, List.foldlM_cons]
          cases mRecvFn (.received inet datagram.source datagram.bytes) app with
          | error fault => rfl
          | ok next =>
              simp only [Checked.ok_bind]
              exact ih next

theorem pass_eq (round : Round ω) (loop : Loop σ) :
    pass inet callbacks interval round loop = do
      let app ← deliver callbacks.mRecvFn (round.reads.map fun datagram =>
        .received inet datagram.source datagram.bytes) loop.app
      match round.verdict with
      | .again => tickIfDue callbacks interval round { loop with app := app }
      | next => return (next, { loop with app := app }, []) := by
  rw [pass, Round.reads, Round.verdict]
  split
  · rfl
  cases round.select with
  | timeout => rfl
  | error err =>
      dsimp only
      split <;> rfl
  | readable outcomes =>
      simp only [drain_eq, bind_assoc, Checked.pure_eq_ok]
      cases deliver callbacks.mRecvFn ((consumed outcomes).map fun datagram =>
        .received inet datagram.source datagram.bytes) loop.app with
      | error fault => rfl
      | ok app => cases exitOf outcomes <;> rfl

/-- Receptions hand their messages on. -/
theorem run_recv (datagrams : List Datagram) (app : σ) :
    Run.run (callbacks.step inet) (datagrams.map .recv) app = do
      let app ← deliver callbacks.mRecvFn (datagrams.map fun datagram =>
        .received inet datagram.source datagram.bytes) app
      return (app, []) := by
  induction datagrams generalizing app with
  | nil => rfl
  | cons datagram datagrams ih =>
      simp only [List.map_cons, Run.run, Callbacks.step, deliver, List.foldlM_cons]
      cases callbacks.mRecvFn (.received inet datagram.source datagram.bytes) app with
      | error fault => rfl
      | ok next =>
          simp only [Checked.ok_bind, Checked.pure_eq_ok, ih next, deliver]
          cases List.foldlM (fun app msg => callbacks.mRecvFn msg app) next
            (datagrams.map fun datagram => .received inet datagram.source datagram.bytes) <;> rfl

/-- The application of a run never asks for its end. -/
structure Steady (holds : σ → Prop) : Prop where
  recv : ∀ {datagram : Datagram} {app app' : σ}, holds app →
    callbacks.mRecvFn (.received inet datagram.source datagram.bytes) app = .ok app' → holds app'
  tick : ∀ {world : ω} {app app' : σ} {result : Bool} {sends : List SendCall}, holds app →
    callbacks.tick world app = .ok (result, app', sends) → result = true ∧ holds app'

variable {inet callbacks} {holds : σ → Prop}

theorem Steady.deliver (steady : Steady inet callbacks holds) {datagrams : List Datagram}
    {app app' : σ} (held : holds app)
    (delivered : UdpServer.deliver callbacks.mRecvFn (datagrams.map fun datagram =>
      .received inet datagram.source datagram.bytes) app = .ok app') : holds app' := by
  induction datagrams generalizing app with
  | nil =>
      cases delivered
      exact held
  | cons datagram datagrams ih =>
      simp only [List.map_cons, UdpServer.deliver, List.foldlM_cons,
        Checked.bind_eq_ok] at delivered
      obtain ⟨next, received, later⟩ := delivered
      exact ih (steady.recv held received) later

theorem Steady.tickIfDue_eq (steady : Steady inet callbacks holds) (round : Round ω)
    (loop : Loop σ) (held : holds loop.app) :
    tickIfDue callbacks interval round loop =
      if round.now - loop.lastTick > interval then do
        let (app, sends) ← callbacks.step inet (.tick round.world) loop.app
        return (.again, { lastTick := round.done, app := app }, sends)
      else .ok (.again, loop, []) := by
  rw [tickIfDue]
  split
  · rw [Callbacks.step]
    cases ticked : callbacks.tick round.world loop.app with
    | error fault => rfl
    | ok after =>
        obtain ⟨result, app, sends⟩ := after
        have on := (steady.tick held ticked).1
        subst on
        rfl
  · rfl

/-- A run of the loop is a run of the application over its signals. -/
theorem Steady.run_eq_signals (steady : Steady inet callbacks holds) (rounds : List (Round ω))
    (loop : Loop σ) (held : holds loop.app) :
    run inet callbacks interval rounds loop = do
      let (app, sends) ← Run.run (callbacks.step inet) (signals interval rounds loop.lastTick)
        loop.app
      return (finish rounds, { lastTick := lastTickOf interval rounds loop.lastTick, app := app },
        sends) := by
  induction rounds generalizing loop with
  | nil => rfl
  | cons round rounds ih =>
      rw [run, pass_eq, signals, finish, lastTickOf, Run.run_append, run_recv]
      cases delivered : UdpServer.deliver callbacks.mRecvFn (round.reads.map fun datagram =>
        .received inet datagram.source datagram.bytes) loop.app with
      | error fault => rfl
      | ok app =>
          have kept := steady.deliver held delivered
          simp only [Checked.ok_bind, Checked.pure_eq_ok, List.nil_append]
          cases round.verdict with
          | reading => rfl
          | stopped => rfl
          | again =>
              simp only [steady.tickIfDue_eq interval round { loop with app := app } kept]
              by_cases due : round.now - loop.lastTick > interval
              · simp only [if_pos due, Run.run]
                cases ticked : callbacks.step inet (.tick round.world) app with
                | error fault => rfl
                | ok after =>
                    obtain ⟨next, sends⟩ := after
                    have kept' : holds next := by
                      rw [Callbacks.step, Checked.bind_eq_ok] at ticked
                      obtain ⟨⟨result, next', sends'⟩, ran, same⟩ := ticked
                      cases same
                      exact (steady.tick kept ran).2
                    simp only [Checked.ok_bind, Checked.pure_eq_ok, ih ⟨round.done, next⟩ kept']
                    cases Run.run (callbacks.step inet) (signals interval rounds round.done)
                      next <;> rfl
              · simp only [if_neg due, Checked.ok_bind, ih ⟨loop.lastTick, app⟩ kept]
                cases Run.run (callbacks.step inet) (signals interval rounds loop.lastTick)
                  app <;> rfl

end Loop


/-! ## The server -/

section Server

variable (inet : Inet)

/-- A signal as an input of a game loop. -/
def Signal.input : Signal (Nat → Env) → Input
  | .recv datagram => .recv datagram
  | .tick env => .tick env

theorem step_callbacks {σ : Type} (handlers : Handlers σ) (signal : Signal (Nat → Env))
    (game : Game σ) :
    (callbacks handlers).step inet signal game = Game.step inet handlers signal.input game := by
  cases signal <;> rfl

/-- `Game::Tick` always returns `true`. -/
theorem steady_callbacks {σ : Type} (handlers : Handlers σ) :
    Steady inet (callbacks handlers) fun _ => True where
  recv _ _ := trivial
  tick := by
    intro env game game' result sends _ ticked
    obtain ⟨loop, -, on, -⟩ := (Game.tick_eq_ok handlers).mp ticked
    exact ⟨on, trivial⟩

/-- The datagrams that are received before the last tick of a run. -/
def heard (interval : Time) (rounds : List (Round (Nat → Env))) : List Datagram :=
  beforeLastTick ((signals interval rounds 0).map Signal.input)

/-- The events a run of the loop handles, with their worlds. -/
def handledEvents (interval : Time) (rounds : List (Round (Nat → Env))) : List (Env × Event) :=
  handled inet [] ((signals interval rounds 0).map Signal.input)

theorem map_snd_handledEvents (interval : Time) (rounds : List (Round (Nat → Env))) :
    (handledEvents inet interval rounds).map Prod.snd =
      (heard interval rounds).filterMap (Datagram.event? inet) :=
  (handled_eq_events inet _).1

/-- `Run` over a game is a run of its handlers on the datagrams it has heard. -/
theorem run_callbacks_eq {σ : Type} (handlers : Handlers σ) (interval : Time)
    (rounds : List (Round (Nat → Env))) (start : σ) :
    run inet (callbacks handlers) interval rounds { app := { loop := start } } = do
      let (loop, sends) ← Run.run (fun input => handlers.handle input.1 input.2)
        (handledEvents inet interval rounds) start
      return (finish rounds,
        { lastTick := lastTickOf interval rounds 0
          app :=
            { mEvents := waiting inet [] ((signals interval rounds 0).map Signal.input)
              loop := loop } },
        sends) := by
  have steps : (callbacks handlers).step inet = fun signal => Game.step inet handlers
      signal.input := by
    funext signal game
    exact step_callbacks inet handlers signal game
  rw [(steady_callbacks inet handlers).run_eq_signals interval rounds _ trivial, steps,
    ← Run.run_map, Game.run_eq_handled inet handlers _ fun ev member =>
      absurd member List.not_mem_nil]
  unfold handledEvents
  cases Run.run (fun input => handlers.handle input.1 input.2)
    (handled inet [] ((signals interval rounds 0).map Signal.input)) start <;> rfl

end Server

end UdpServer

namespace Server

open UdpServer FirstCome

variable (inet : Inet)

/-- The endpoints that the accepted login datagrams name. -/
def named (datagrams : List Datagram) : List Endpoint :=
  datagrams.filterMap fun datagram =>
    (datagram.event? inet).bind fun ev => login? inet ({}, ev)

theorem logins_eq_named {events : List (Env × Event)} {datagrams : List Datagram}
    (heard : events.map Prod.snd = datagrams.filterMap (Datagram.event? inet)) :
    logins inet events = named inet datagrams := by
  have timeless : ∀ input : Env × Event, login? inet input = login? inet ({}, input.2) := by
    intro input
    obtain ⟨env, ev⟩ := input
    cases ev <;> rfl
  have split : logins inet events =
      (events.map Prod.snd).filterMap fun ev => login? inet ({}, ev) := by
    rw [List.filterMap_map]
    exact List.filterMap_congr fun input _ => timeless input
  rw [split, heard, List.filterMap_filterMap]
  rfl

/-- The server: `Run`, past its assertions, with the callbacks of its game. -/
def process (params : Params) (interval : Time) (rounds : List (Round (Nat → Env))) :
    Checked (Next × Loop (Game GameState) × List SendCall) :=
  run inet (callbacks (gameLoop inet)) interval rounds { app := { loop := { mParams := params } } }

theorem process_eq (params : Params) (interval : Time) (rounds : List (Round (Nat → Env))) :
    process inet params interval rounds = do
      let (game, sends) ← Run.run (step inet) (handledEvents inet interval rounds)
        { mParams := params }
      return (finish rounds,
        { lastTick := lastTickOf interval rounds 0
          app :=
            { mEvents := waiting inet [] ((signals interval rounds 0).map Signal.input)
              loop := game } },
        sends) :=
  run_callbacks_eq inet (gameLoop inet) interval rounds { mParams := params }

/-- As long as the ids last, the server is its handlers on the accepted datagrams
it has heard, in order, and its registry ranks the endpoints they name. -/
theorem server_process (params : Params) (interval : Time) (rounds : List (Round (Nat → Env)))
    (few : (ofList (named inet (heard interval rounds))).length < 2 ^ 32 - 1) :
    ∃ events loop sends,
      process inet params interval rounds = .ok (finish rounds, loop, sends) ∧
      events.map Prod.snd = (heard interval rounds).filterMap (Datagram.event? inet) ∧
      Run.run (step inet) events { mParams := params } = .ok (loop.app.loop, sends) ∧
      logins inet events = named inet (heard interval rounds) ∧
      Ranked inet events loop.app.loop := by
  have accepted := map_snd_handledEvents inet interval rounds
  have claims := logins_eq_named inet accepted
  rcases run_registers inet params (handledEvents inet interval rounds)
    (by rw [registered, claims]; exact few) with ⟨game, sends, ran, registers⟩
  exact ⟨_, _, sends,
    (process_eq inet ..).trans (Checked.bind_eq_ok.mpr ⟨(game, sends), ran, rfl⟩), accepted, ran,
    claims, registers.ranked⟩

/-- One login is received, and handled in the tick that follows. -/
def oneLogin : List (Round (Nat → Env)) :=
  [{ select := .readable [.datagram loginDatagram, .error WSAEWOULDBLOCK]
     now := milliseconds 31
     world := fun _ => {} }]

theorem server_process_one_login :
    (ofList (named .dottedQuad (heard (milliseconds 30) oneLogin))).length < 2 ^ 32 - 1 ∧
      ∃ events loop sends,
        process .dottedQuad {} (milliseconds 30) oneLogin = .ok (.again, loop, sends) ∧
        events.map Prod.snd = [loginDatagram].filterMap (Datagram.event? .dottedQuad) ∧
        Run.run (step .dottedQuad) events {} = .ok (loop.app.loop, sends) ∧
        logins .dottedQuad events = named .dottedQuad [loginDatagram] ∧
        Ranked .dottedQuad events loop.app.loop := by
  have few : (ofList (named .dottedQuad (heard (milliseconds 30) oneLogin))).length <
      2 ^ 32 - 1 := by decide +kernel
  exact ⟨few, server_process .dottedQuad {} (milliseconds 30) oneLogin few⟩

theorem exists_process {params : Params} {interval : Time} {rounds : List (Round (Nat → Env))}
    (room : (ofList (named inet (heard interval rounds))).length ≤ 2 ^ 32) :
    ∃ loop sends, process inet params interval rounds = .ok (finish rounds, loop, sends) := by
  rw [← logins_eq_named inet (map_snd_handledEvents inet interval rounds)] at room
  rcases run_numbered inet params _ room with ⟨game, sends, handled, -⟩
  exact ⟨_, sends, (process_eq inet ..).trans
    (Checked.bind_eq_ok.mpr ⟨(game, sends), handled, rfl⟩)⟩

/-- No traffic makes the server fail but more endpoints than there are ids. -/
theorem server_process_returns_iff (params : Params) (interval : Time)
    (rounds : List (Round (Nat → Env))) :
    (∃ loop sends, process inet params interval rounds = .ok (finish rounds, loop, sends)) ↔
      (ofList (named inet (heard interval rounds))).length ≤ 2 ^ 32 := by
  constructor
  · intro returned
    rcases returned with ⟨loop, sends, ran⟩
    rw [process_eq, Checked.bind_eq_ok] at ran
    obtain ⟨⟨game, sends'⟩, handled, -⟩ := ran
    rw [← logins_eq_named inet (map_snd_handledEvents inet interval rounds)]
    exact (numbered_of_run handled).room
  · exact exists_process inet

end Server

/-! ## The client -/

namespace Client

open UdpServer

section Steps

variable {inet : Inet}

/-- The callbacks `main` sets up for a client. -/
def callbacks (inet : Inet) : Callbacks (Game GameLoop) ((Nat → Env) × Env) where
  mRecvFn := Game.onRecv
  tick world game := tick inet world.1 world.2 game

/-- A signal as an input of a client. -/
def signalInput : Signal ((Nat → Env) × Env) → Input
  | .recv datagram => .recv datagram
  | .tick world => .tick world.1 world.2

theorem step_callbacks (signal : Signal ((Nat → Env) × Env)) (game : Game GameLoop) :
    (callbacks inet).step inet signal game = step inet (signalInput signal) game := by
  cases signal <;> rfl

/-- A client that is new or logged in does not end its loop. -/
theorem result_of_afterEvents {env : Env} {loop loop' : GameLoop} {result : Bool}
    {calls : List SendCall} (sound : loop.Sound)
    (ran : afterEvents inet env true loop = .ok (result, loop', calls)) : result = true := by
  by_cases new : loop.mState = .new
  · rw [afterEvents_new new, Checked.bind_eq_ok] at ran
    obtain ⟨after, -, same⟩ := ran
    cases same
    rfl
  · rw [afterEvents_past new, (sound.past new).1] at ran
    cases ran
    rfl

theorem steady_callbacks : Steady inet (callbacks inet) Sound where
  recv := by
    intro datagram game game' sound received
    have stepped : step inet (.recv datagram) game = .ok (game', []) :=
      Checked.bind_eq_ok.mpr ⟨game', received, rfl⟩
    exact sound_recv sound stepped
  tick := by
    intro world game game' result sends sound ticked
    have stepped : step inet (.tick world.1 world.2) game = .ok (game', sends) :=
      Checked.bind_eq_ok.mpr ⟨(result, game', sends), ticked, rfl⟩
    refine ⟨?_, sound_step sound stepped⟩
    change tick inet world.1 world.2 game = _ at ticked
    rw [tick, Checked.bind_eq_ok] at ticked
    obtain ⟨⟨result', found, out⟩, first, rest⟩ := ticked
    rw [Checked.bind_eq_ok] at rest
    obtain ⟨⟨result'', loop, calls⟩, last, same⟩ := rest
    cases same
    obtain ⟨-, -, on, -⟩ := (Game.tick_eq_ok (gameLoop inet)).mp first
    subst on
    exact result_of_afterEvents (sound_found sound first).loop last

/-- A call into a client whose parameters are in order returns, and sends
nothing but requests to the server. -/
theorem step_total {params : Params} {address : Address}
    (clientPort : params.clientPort ≤ 65535)
    (resolved : inet.pton params.clientAddress = some address)
    (serverPort : params.serverPort ≤ 65535) (input : Input) (game : Game GameLoop)
    (holds : Sound game ∧ game.loop.mParams = params) :
    ∃ game' sends, step inet input game = .ok (game', sends) ∧
      (Sound game' ∧ game'.loop.mParams = params) ∧
      ∀ call ∈ sends, ∃ env, call = loginRequest inet env params address := by
  rcases holds with ⟨sound, same⟩
  cases input with
  | recv datagram =>
      have stepped := Game.step_recv inet (gameLoop inet) datagram game
      exact ⟨_, _, stepped, ⟨sound_recv sound stepped, same⟩,
        fun call member => absurd member List.not_mem_nil⟩
  | tick env last =>
      have ungranted : ∀ id, game.loop.mThisPlayer = some id → True := fun _ _ => trivial
      have ungranted' : ∀ input ∈ stamped env game.mEvents, ∀ reply, input.2 = .login reply →
          True := fun _ _ _ _ => trivial
      obtain ⟨loop, drained, -, params', -⟩ := run_handle sound.loop ungranted ungranted'
      rw [same] at params'
      obtain ⟨⟨result, loop', calls⟩, after⟩ := @exists_afterEvents inet last loop
        (params' ▸ clientPort) address (params' ▸ resolved) (params' ▸ serverPort) true
      have ticked : game.tick (gameLoop inet) env = .ok (true, { loop := loop }, []) :=
        (Game.tick_eq_ok_run (gameLoop inet) sound.tagged).mpr ⟨loop, drained, rfl, rfl⟩
      have stepped := step_tick_eq_ok.mpr
        ⟨true, { loop := loop }, [], result, loop', calls, ticked, after, rfl, rfl⟩
      refine ⟨_, _, stepped, ⟨sound_step sound stepped, ?_⟩, ?_⟩
      · rcases afterEvents_cases after with ⟨rfl, -⟩ | ⟨address', -, -, -, rfl, -⟩
        · exact params'
        · unfold attempted
          split <;> exact params'
      · rcases afterEvents_cases after with ⟨-, rfl⟩ | ⟨address', -, resolved', -, -, rfl⟩
        · exact fun call member => absurd member List.not_mem_nil
        · rw [params', resolved, Option.some.injEq] at resolved'
          intro call member
          rw [List.nil_append, List.mem_singleton] at member
          exact ⟨last, by rw [member, params', resolved']⟩

end Steps

variable (inet : Inet)

/-- The client: `Run`, past its assertions, with the callbacks of its game. -/
def process (params : Params) (interval : Time)
    (rounds : List (Round ((Nat → Env) × Env))) :
    Checked (Next × Loop (Game GameLoop) × List SendCall) :=
  run inet (callbacks inet) interval rounds { app := { loop := .initial params } }

theorem process_eq (params : Params) (interval : Time)
    (rounds : List (Round ((Nat → Env) × Env))) :
    process inet params interval rounds = do
      let (game, sends) ← Run.run (step inet) ((signals interval rounds 0).map signalInput)
        { loop := .initial params }
      return (finish rounds, { lastTick := lastTickOf interval rounds 0, app := game }, sends) := by
  have steps : (callbacks inet).step inet = fun signal => step inet (signalInput signal) := by
    funext signal game
    exact step_callbacks signal game
  have start : Sound { loop := GameLoop.initial params } :=
    ⟨fun _ member => absurd member List.not_mem_nil, sound_initial params⟩
  rw [process, steady_callbacks.run_eq_signals interval rounds _ start, steps, ← Run.run_map]

/-- A client whose parameters are in order gets through any run, and speaks to
the server only. -/
theorem exists_process {params : Params} {address : Address}
    (clientPort : params.clientPort ≤ 65535)
    (resolved : inet.pton params.clientAddress = some address)
    (serverPort : params.serverPort ≤ 65535) (interval : Time)
    (rounds : List (Round ((Nat → Env) × Env))) :
    ∃ loop sends, process inet params interval rounds = .ok (finish rounds, loop, sends) ∧
      ∀ call ∈ sends, ∃ env, call = loginRequest inet env params address := by
  have start : Sound { loop := GameLoop.initial params } ∧
      (GameLoop.initial params).mParams = params :=
    ⟨⟨fun _ member => absurd member List.not_mem_nil, sound_initial params⟩, rfl⟩
  obtain ⟨game, sends, ran, -, aimed⟩ := Run.run_total
    (step_total clientPort resolved serverPort)
    ((signals interval rounds 0).map signalInput) start
  exact ⟨_, sends, (process_eq inet ..).trans
    (Checked.bind_eq_ok.mpr ⟨(game, sends), ran, rfl⟩), aimed⟩

end Client

end UdpGame
