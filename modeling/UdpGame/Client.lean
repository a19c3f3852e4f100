import UdpGame.EventPipeline
import UdpGame.Server

/-!
# `Client::GameLoop`

The handlers of the client and its `Tick`, which logs in and keeps alive after
the events are handled.
-/

namespace UdpGame

/-- `address = …; port = …`. -/
def PlayerState.locate (address : String) (port : UInt32) (state : PlayerState) : PlayerState :=
  { state with address := address, port := port }

namespace Client

inductive State where
  | new
  | loggedIn
  | timedOut
  | disconnected
  deriving DecidableEq, Repr

structure Params where
  commonParams : UdpGame.Params := {}
  clientAddress : String
  clientPort : UInt32
  serverAddress : String
  serverPort : UInt32

/-- The members of `Client::GameLoop`, with the part of `Game` they work on. -/
structure GameLoop where
  game : GameState
  mParams : Params
  mState : State := .new
  mThisPlayer : Option UInt32 := none
  mLoginAttemptTime : Time := 0
  mLastPing : Time := 0

def GameLoop.initial (params : Params) : GameLoop where
  game := { mParams := params.commonParams }
  mParams := params

/-- `mThisPlayer->player->GetId()`. -/
def GameLoop.playerId (loop : GameLoop) : Option UInt32 := do
  let id ← loop.mThisPlayer
  let state ← loop.game.getPlayerById id
  let player ← state.player
  return player.getId

/-! ## Handlers -/

def handleLogin (inet : Inet) (env : Env) (ev : LoginEvent) (loop : GameLoop) :
    Checked (GameLoop × List SendCall) :=
  let login := ev.login
  let address := addressToString inet login.address
  if loop.mState = .new then
    if login.session = kInvalidSession then
      return (loop, [])
    else
      let (player, game) := loop.game.createPlayerById env login.session
      let loop := { loop with game := game, mThisPlayer := player }
      match player with
      | none => return (loop, [])
      | some id => do
        let game := loop.game.update id (PlayerState.locate address login.port.toUInt32)
        let state ← Checked.deref (game.getPlayerById id)
        -- only the log line reads the player
        let _ ← Checked.deref state.player
        return ({ loop with game := game, mState := .loggedIn }, [])
  else
    let (_, game) := loop.game.createPlayerById env login.session
    return ({ loop with game := game }, [])

def handlePing (_ : Env) (_ : PingEvent) (loop : GameLoop) :
    Checked (GameLoop × List SendCall) :=
  return (loop, [])

def handleAcknowledge (_ : Env) (_ : AcknowledgeEvent) (loop : GameLoop) :
    Checked (GameLoop × List SendCall) :=
  return (loop, [])

def gameLoop (inet : Inet) : Handlers GameLoop where
  handleLogin := handleLogin inet
  handlePing := handlePing
  handleAcknowledge := handleAcknowledge

/-! ## `Tick` -/

def tryLogin (inet : Inet) (env : Env) (loop : GameLoop) :
    Checked (GameLoop × List SendCall) :=
  if loop.mState ≠ .new then
    return (loop, [])
  else if env.now < loop.mLoginAttemptTime + milliseconds 500 then
    return (loop, [])
  else do
    let address ← toSockAddr inet loop.mParams.clientAddress loop.mParams.clientPort
    let addr4 ← Checked.deref address
    let login : LoginMessage :=
      { message := { action := .login, messageId := 0 }
        session := 0
        address := addr4.address
        port := loop.mParams.clientPort.toUInt16 }
    let buffer ← Serializer.login.encode login
    let call ← sendMessage inet env loop.mParams.serverAddress loop.mParams.serverPort buffer
    if call.result then
      return ({ loop with mLoginAttemptTime := env.done }, [call])
    else
      return (loop, [call])

/-- The first guard is the one of `TryLogin`. -/
def tryPing (inet : Inet) (env : Env) (loop : GameLoop) :
    Checked (GameLoop × List SendCall) :=
  if loop.mState ≠ .new then
    return (loop, [])
  else if env.now < loop.mLastPing + milliseconds 100 then
    return (loop, [])
  else do
    let id ← Checked.deref loop.mThisPlayer
    let state ← Checked.deref (loop.game.getPlayerById id)
    let messageId := state.nextMessage
    let loop := { loop with game := loop.game.update id PlayerState.advance }
    let player ← Checked.deref state.player
    let ping : PingMessage :=
      { message := { action := .ping, messageId := messageId }
        messageId := state.ackCount.toUInt64
        playerId := player.getId }
    let buffer ← Serializer.ping.encode ping
    let call ← sendMessage inet env loop.mParams.serverAddress loop.mParams.serverPort buffer
    if call.result then
      return ({ loop with mLastPing := env.done }, [call])
    else
      return (loop, [call])

/-- `Tick` after `Game::Tick` has returned `result`. -/
def afterEvents (inet : Inet) (env : Env) (result : Bool) (loop : GameLoop) :
    Checked (Bool × GameLoop × List SendCall) := do
  let (result, loop, logins) ←
    match loop.mState with
    | .new => do
      let (loop, calls) ← tryLogin inet env loop
      pure (result, loop, calls)
    | .loggedIn => pure (result, loop, [])
    | .disconnected => pure (false, loop, [])
    | .timedOut => pure (result, loop, [])
  if result ∧ loop.mState ≠ .new then
    let (loop, pings) ← tryPing inet env loop
    return (result, loop, logins ++ pings)
  else
    return (result, loop, logins)

/-- `Client::GameLoop::Tick`: the worlds of the events, and the one after
them. -/
def tick (inet : Inet) (env : Nat → Env) (last : Env) (game : Game GameLoop) :
    Checked (Bool × Game GameLoop × List SendCall) := do
  let (result, game, sends) ← game.tick (gameLoop inet) env
  let (result, loop, calls) ← afterEvents inet last result game.loop
  return (result, { game with loop := loop }, sends ++ calls)

inductive Input where
  | recv (datagram : Datagram)
  | tick (env : Nat → Env) (last : Env)

/-- One call into a client. -/
def step (inet : Inet) : Input → Game GameLoop → Checked (Game GameLoop × List SendCall)
  | .recv datagram, game => Game.step inet (gameLoop inet) (.recv datagram) game
  | .tick env last, game => do
    let (_, game, sends) ← tick inet env last game
    return (game, sends)

/-! ## What the handlers do -/

/-- The state of a player that has just been made under an id. -/
def newcomer (env : Env) (id : UInt32) : PlayerState :=
  { player := some { mId := id }, connectStart := env.now, lastMessage := env.now }

theorem createPlayerById_of_free {game : GameState} (env : Env) {id : UInt32}
    (free : game.getPlayerById id = none) :
    game.createPlayerById env id =
      (some id, { game with mPlayers := (game.mPlayers.tryEmplace id (newcomer env id)).1 }) := by
  simp only [GameState.createPlayerById, free, GameState.update,
    UnorderedMap.modify_tryEmplace _ free]
  rfl

theorem createPlayerById_of_taken {game : GameState} (env : Env) {id : UInt32}
    {state : PlayerState} (taken : game.getPlayerById id = some state) :
    game.createPlayerById env id = (none, game) := by
  simp only [GameState.createPlayerById, taken]

section Handlers

variable {inet : Inet} {env : Env} {loop : GameLoop}

theorem handleLogin_invalid {ev : LoginEvent} (new : loop.mState = .new)
    (invalid : ev.login.session = kInvalidSession) :
    handleLogin inet env ev loop = .ok (loop, []) := by
  simp only [handleLogin, if_pos new, if_pos invalid, Checked.pure_eq_ok]

/-- The table of a client after its first login reply. -/
def joined (inet : Inet) (env : Env) (login : LoginMessage) (game : GameState) : GameState :=
  { game with
    mPlayers := (game.mPlayers.tryEmplace login.session
      ((newcomer env login.session).locate (addressToString inet login.address)
        login.port.toUInt32)).1 }

theorem getPlayerById_joined {login : LoginMessage} {game : GameState}
    (free : game.getPlayerById login.session = none) :
    (joined inet env login game).getPlayerById login.session =
      some ((newcomer env login.session).locate (addressToString inet login.address)
        login.port.toUInt32) :=
  UnorderedMap.find?_tryEmplace_self free

/-- The first login reply makes the session the client's own player. -/
theorem handleLogin_new {ev : LoginEvent} (new : loop.mState = .new)
    (valid : ev.login.session ≠ kInvalidSession)
    (free : loop.game.getPlayerById ev.login.session = none) :
    handleLogin inet env ev loop =
      .ok ({ loop with
        game := joined inet env ev.login loop.game
        mState := .loggedIn
        mThisPlayer := some ev.login.session }, []) := by
  have located : GameState.update
      { loop.game with mPlayers := (loop.game.mPlayers.tryEmplace ev.login.session
        (newcomer env ev.login.session)).1 } ev.login.session
      (PlayerState.locate (addressToString inet ev.login.address) ev.login.port.toUInt32) =
      joined inet env ev.login loop.game := by
    rw [GameState.update, UnorderedMap.modify_tryEmplace _ free, joined]
  simp only [handleLogin, if_pos new, if_neg valid, createPlayerById_of_free env free, located,
    getPlayerById_joined free, Checked.deref_some, Checked.ok_bind, Checked.pure_eq_ok]
  rfl

/-- A client that is past its login only adds players to the table. -/
theorem handleLogin_past {ev : LoginEvent} (past : loop.mState ≠ .new) :
    handleLogin inet env ev loop =
      .ok ({ loop with game := (loop.game.createPlayerById env ev.login.session).2 }, []) := by
  simp only [handleLogin, if_neg past, Checked.pure_eq_ok]

theorem tryPing_past (past : loop.mState ≠ .new) : tryPing inet env loop = .ok (loop, []) :=
  if_pos past

/-- The login request of a client whose address is `address`. -/
def loginRequest (inet : Inet) (env : Env) (params : Params) (address : Address) : SendCall where
  address := params.serverAddress
  port := params.serverPort
  buffer := .holding (LoginMessage.datagram
    { message := { action := .login, messageId := 0 }
      session := 0
      address := address
      port := params.clientPort.toUInt16 })
  target := (inet.pton params.serverAddress).map fun sin_addr =>
    ⟨sin_addr, params.serverPort.toUInt16⟩
  result := env.sent && (inet.pton params.serverAddress).isSome

/-- A client after an attempt to log in. -/
def attempted (env : Env) (call : SendCall) (loop : GameLoop) : GameLoop :=
  if call.result then { loop with mLoginAttemptTime := env.done } else loop

theorem tryLogin_early (early : env.now < loop.mLoginAttemptTime + milliseconds 500) :
    tryLogin inet env loop = .ok (loop, []) := by
  simp only [tryLogin, if_pos early, Checked.pure_eq_ok, ite_self]

/-- An attempt that is due sends one request. -/
theorem tryLogin_due (new : loop.mState = .new)
    (due : ¬ env.now < loop.mLoginAttemptTime + milliseconds 500)
    (clientPort : loop.mParams.clientPort ≤ 65535) {address : Address}
    (resolved : inet.pton loop.mParams.clientAddress = some address)
    (serverPort : loop.mParams.serverPort ≤ 65535) :
    tryLogin inet env loop =
      .ok (attempted env (loginRequest inet env loop.mParams address) loop,
        [loginRequest inet env loop.mParams address]) := by
  have encode : Serializer.login.encode
      { message := { action := .login, messageId := 0 }
        session := 0
        address := address
        port := loop.mParams.clientPort.toUInt16 } =
      .ok (loginRequest inet env loop.mParams address).buffer := LoginMessage.encode_eq _
  have send : sendMessage inet env loop.mParams.serverAddress loop.mParams.serverPort
      (loginRequest inet env loop.mParams address).buffer =
      .ok (loginRequest inet env loop.mParams address) :=
    sendMessage_eq (Serializer.encodes_login.datagram_fits _) serverPort
  simp only [tryLogin, toSockAddr_of_le clientPort, new, ne_eq, not_true_eq_false, if_false,
    if_neg due, resolved, Option.map_some, Checked.deref_some, encode, send, Checked.ok_bind,
    Checked.pure_eq_ok, attempted]
  split <;> rfl

/-- An attempt that is due and returns found its parameters in order. -/
theorem ready_of_tryLogin {loop' : GameLoop} {calls : List SendCall} (new : loop.mState = .new)
    (due : ¬ env.now < loop.mLoginAttemptTime + milliseconds 500)
    (tried : tryLogin inet env loop = .ok (loop', calls)) :
    ∃ address, inet.pton loop.mParams.clientAddress = some address ∧
      loop.mParams.clientPort ≤ 65535 ∧ loop.mParams.serverPort ≤ 65535 := by
  rw [tryLogin, if_neg (not_not_intro new), if_neg due, Checked.bind_eq_ok] at tried
  obtain ⟨storage, converted, tried⟩ := tried
  rw [Checked.bind_eq_ok] at tried
  obtain ⟨addr4, pointer, tried⟩ := tried
  rw [Checked.deref_eq_ok] at pointer
  subst pointer
  rw [toSockAddr_eq_ok, Option.map_eq_some_iff] at converted
  obtain ⟨clientPort, address, resolved, rfl⟩ := converted
  rw [Checked.bind_eq_ok] at tried
  obtain ⟨buffer, -, tried⟩ := tried
  rw [Checked.bind_eq_ok] at tried
  obtain ⟨call, sent, -⟩ := tried
  exact ⟨address, resolved, clientPort, port_le_of_sendMessage sent⟩

/-- An attempt that returns sent nothing, or the request. -/
theorem tryLogin_cases {loop' : GameLoop} {calls : List SendCall}
    (tried : tryLogin inet env loop = .ok (loop', calls)) :
    (loop' = loop ∧ calls = []) ∨
    ∃ address, inet.pton loop.mParams.clientAddress = some address ∧
      loop.mParams.clientPort ≤ 65535 ∧
      loop' = attempted env (loginRequest inet env loop.mParams address) loop ∧
      calls = [loginRequest inet env loop.mParams address] := by
  by_cases new : loop.mState = .new
  swap
  · rw [tryLogin, if_pos new] at tried
    cases tried
    exact .inl ⟨rfl, rfl⟩
  by_cases early : env.now < loop.mLoginAttemptTime + milliseconds 500
  · rw [tryLogin_early early] at tried
    cases tried
    exact .inl ⟨rfl, rfl⟩
  obtain ⟨address, resolved, clientPort, serverPort⟩ := ready_of_tryLogin new early tried
  rw [tryLogin_due new early clientPort resolved serverPort, Except.ok.injEq,
    Prod.mk.injEq] at tried
  exact .inr ⟨address, resolved, clientPort, tried.1.symm, tried.2.symm⟩

theorem mState_attempted (env : Env) (call : SendCall) (loop : GameLoop) :
    (attempted env call loop).mState = loop.mState := by
  unfold attempted
  split <;> rfl

theorem mState_of_tryLogin {loop' : GameLoop} {calls : List SendCall}
    (tried : tryLogin inet env loop = .ok (loop', calls)) : loop'.mState = loop.mState := by
  rcases tryLogin_cases tried with ⟨rfl, -⟩ | ⟨address, -, -, rfl, -⟩
  · rfl
  · exact mState_attempted ..

/-- After the events a new client tries to log in, and any other does nothing:
no client gets past both guards of its ping. -/
theorem afterEvents_new (new : loop.mState = .new) (result : Bool) :
    afterEvents inet env result loop = do
      let (loop, calls) ← tryLogin inet env loop
      return (result, loop, calls) := by
  rw [afterEvents, new]
  cases tried : tryLogin inet env loop with
  | error fault => rfl
  | ok after =>
      obtain ⟨loop', calls⟩ := after
      have still : loop'.mState = .new := (mState_of_tryLogin tried).trans new
      simp only [Checked.ok_bind, Checked.pure_eq_ok, still, ne_eq, not_true_eq_false, and_false,
        if_false]

theorem afterEvents_past (past : loop.mState ≠ .new) (result : Bool) :
    afterEvents inet env result loop =
      .ok (decide (loop.mState ≠ .disconnected) && result, loop, []) := by
  rw [afterEvents]
  cases state : loop.mState with
  | new => exact absurd state past
  | loggedIn => cases result <;> simp [state, tryPing_past past]
  | timedOut => cases result <;> simp [state, tryPing_past past]
  | disconnected => simp

/-- A client whose parameters resolve gets through its tick. -/
theorem exists_afterEvents (clientPort : loop.mParams.clientPort ≤ 65535) {address : Address}
    (resolved : inet.pton loop.mParams.clientAddress = some address)
    (serverPort : loop.mParams.serverPort ≤ 65535) (result : Bool) :
    ∃ after, afterEvents inet env result loop = .ok after := by
  by_cases new : loop.mState = .new
  · rw [afterEvents_new new]
    by_cases early : env.now < loop.mLoginAttemptTime + milliseconds 500
    · exact ⟨_, by rw [tryLogin_early early, Checked.ok_bind]; rfl⟩
    · exact ⟨_, by rw [tryLogin_due new early clientPort resolved serverPort, Checked.ok_bind]; rfl⟩
  · exact ⟨_, afterEvents_past new result⟩

end Handlers

/-! ## What every run keeps -/

/-- A new client has no players; one that is logged in is a player of its own
table.  No ping has been sent. -/
structure GameLoop.Sound (loop : GameLoop) : Prop where
  new : loop.mState = .new → loop.mThisPlayer = none ∧ loop.game.mPlayers = ∅
  past : loop.mState ≠ .new → loop.mState = .loggedIn ∧ ∃ id state,
    loop.mThisPlayer = some id ∧ loop.game.getPlayerById id = some state ∧
      state.player = some { mId := id }
  unpinged : loop.mLastPing = 0

/-- The table of a new client has no entry. -/
theorem GameLoop.Sound.free {loop : GameLoop} (sound : loop.Sound) (new : loop.mState = .new)
    (id : UInt32) : loop.game.getPlayerById id = none := by
  rw [GameState.getPlayerById, (sound.new new).2, UnorderedMap.find?_empty]

/-- The client's player is the one under its pointer's key. -/
theorem GameLoop.Sound.playerId {loop : GameLoop} (sound : loop.Sound) :
    loop.playerId = loop.mThisPlayer := by
  by_cases new : loop.mState = .new
  · rw [GameLoop.playerId, (sound.new new).1]
    rfl
  · rcases sound.past new with ⟨-, id, state, own, held, player⟩
    simp only [GameLoop.playerId, own, held, player, Option.bind_eq_bind, Option.bind_some]
    rfl

theorem sound_initial (params : Params) : (GameLoop.initial params).Sound :=
  ⟨fun _ => ⟨rfl, rfl⟩, fun past => absurd rfl past, rfl⟩

/-- A player stays in the table when another is added. -/
theorem getPlayerById_createPlayerById {game : GameState} {id : UInt32} {state : PlayerState}
    (held : game.getPlayerById id = some state) (env : Env) (other : UInt32) :
    (game.createPlayerById env other).2.getPlayerById id = some state := by
  cases taken : game.getPlayerById other with
  | some state' =>
      rw [createPlayerById_of_taken env taken]
      exact held
  | none =>
      have ne : id ≠ other := by
        rintro rfl
        cases held.symm.trans taken
      rw [createPlayerById_of_free env taken]
      exact (UnorderedMap.find?_tryEmplace_ne ne).trans held

/-- The handlers always return, send nothing, and a client becomes a player by
the first login reply only. -/
theorem handle_cases {loop : GameLoop} (sound : loop.Sound) (inet : Inet) (env : Env)
    (ev : Event) :
    ∃ loop', (gameLoop inet).handle env ev loop = .ok (loop', []) ∧ loop'.Sound ∧
      loop'.mParams = loop.mParams ∧
      ((loop'.mState = loop.mState ∧ loop'.mThisPlayer = loop.mThisPlayer) ∨
        ∃ reply, ev = .login reply ∧ loop.mState = .new ∧
          loop'.mThisPlayer = some reply.login.session) := by
  cases ev with
  | login ev =>
      by_cases new : loop.mState = .new
      · by_cases invalid : ev.login.session = kInvalidSession
        · exact ⟨loop, handleLogin_invalid new invalid, sound, rfl, .inl ⟨rfl, rfl⟩⟩
        · have free := sound.free new ev.login.session
          refine ⟨_, handleLogin_new new invalid free, ⟨fun still => ?_, fun _ => ?_,
            sound.unpinged⟩, rfl, .inr ⟨ev, rfl, new, rfl⟩⟩
          · cases still
          · exact ⟨rfl, _, _, rfl, getPlayerById_joined free, rfl⟩
      · rcases sound.past new with ⟨loggedIn, id, state, own, held, player⟩
        refine ⟨_, handleLogin_past new, ⟨fun again => absurd again new, fun _ => ?_,
          sound.unpinged⟩, rfl, .inl ⟨rfl, rfl⟩⟩
        exact ⟨loggedIn, id, state, own, getPlayerById_createPlayerById held env _, player⟩
  | ping ev => exact ⟨loop, rfl, sound, rfl, .inl ⟨rfl, rfl⟩⟩
  | acknowledge ev => exact ⟨loop, rfl, sound, rfl, .inl ⟨rfl, rfl⟩⟩

theorem sound_handle {inet : Inet} {input : Env × Event} {loop loop' : GameLoop}
    {calls : List SendCall} (sound : loop.Sound)
    (handled : (gameLoop inet).handle input.1 input.2 loop = .ok (loop', calls)) :
    loop'.Sound := by
  rcases handle_cases sound inet input.1 input.2 with ⟨after, ran, kept, -⟩
  cases ran.symm.trans handled
  exact kept

/-- A client's player is the one it had, or else the session of one of the
replies it handled. -/
theorem run_handle {inet : Inet} {loop : GameLoop} (sound : loop.Sound)
    {granted : UInt32 → Prop} (own : ∀ id, loop.mThisPlayer = some id → granted id)
    {inputs : List (Env × Event)}
    (grants : ∀ input ∈ inputs, ∀ reply, input.2 = .login reply → granted reply.login.session) :
    ∃ loop', Run.run (fun input => (gameLoop inet).handle input.1 input.2) inputs loop =
        .ok (loop', []) ∧
      loop'.Sound ∧ loop'.mParams = loop.mParams ∧
      (∀ id, loop'.mThisPlayer = some id → granted id) ∧
      ∀ id, loop.mThisPlayer = some id → loop'.mThisPlayer = some id := by
  induction inputs generalizing loop with
  | nil => exact ⟨loop, rfl, sound, rfl, own, fun _ same => same⟩
  | cons input inputs ih =>
      rcases handle_cases sound inet input.1 input.2 with ⟨next, handled, sound', params, change⟩
      have first := grants input List.mem_cons_self
      have own' : ∀ id, next.mThisPlayer = some id → granted id := by
        intro id same
        rcases change with ⟨-, kept⟩ | ⟨reply, login, -, taken⟩
        · exact own id (kept ▸ same)
        · cases taken.symm.trans same
          exact first reply login
      have stays : ∀ id, loop.mThisPlayer = some id → next.mThisPlayer = some id := by
        intro id same
        rcases change with ⟨-, kept⟩ | ⟨reply, -, new, -⟩
        · exact kept.trans same
        · cases (sound.new new).1.symm.trans same
      obtain ⟨loop', ran, sound'', params', own'', stays'⟩ :=
        ih sound' own' fun input member => grants input (List.mem_cons_of_mem _ member)
      exact ⟨loop', Run.run_cons_eq_ok.mpr ⟨next, [], [], handled, ran, rfl⟩, sound'',
        params'.trans params, own'', fun id same => stays' id (stays id same)⟩

theorem sound_attempted {loop : GameLoop} (sound : loop.Sound) (env : Env) (call : SendCall) :
    (attempted env call loop).Sound := by
  unfold attempted
  split
  · exact ⟨sound.new, sound.past, sound.unpinged⟩
  · exact sound

/-- What is left of a tick after the events. -/
theorem afterEvents_cases {inet : Inet} {env : Env} {result result' : Bool}
    {loop loop' : GameLoop} {calls : List SendCall}
    (ran : afterEvents inet env result loop = .ok (result', loop', calls)) :
    (loop' = loop ∧ calls = []) ∨
    ∃ address, loop.mState = .new ∧ inet.pton loop.mParams.clientAddress = some address ∧
      loop.mParams.clientPort ≤ 65535 ∧
      loop' = attempted env (loginRequest inet env loop.mParams address) loop ∧
      calls = [loginRequest inet env loop.mParams address] := by
  by_cases new : loop.mState = .new
  · rw [afterEvents_new new, Checked.bind_eq_ok] at ran
    obtain ⟨⟨after, sent⟩, tried, same⟩ := ran
    cases same
    rcases tryLogin_cases tried with none | ⟨address, resolved, range, here, there⟩
    · exact .inl none
    · exact .inr ⟨address, new, resolved, range, here, there⟩
  · rw [afterEvents_past new] at ran
    cases ran
    exact .inl ⟨rfl, rfl⟩

/-- The queue of a sound client holds tagged events. -/
structure Sound (game : Game GameLoop) : Prop where
  tagged : ∀ ev ∈ game.mEvents, ev.Tagged
  loop : game.loop.Sound

theorem sound_recv {inet : Inet} {datagram : Datagram} {game game' : Game GameLoop}
    {sends : List SendCall} (sound : Sound game)
    (stepped : step inet (.recv datagram) game = .ok (game', sends)) : Sound game' := by
  rw [step, Game.step_recv] at stepped
  cases stepped
  refine ⟨fun ev member => ?_, sound.loop⟩
  rcases List.mem_append.mp member with old | new
  · exact sound.tagged ev old
  · exact (Datagram.carries_of_event? (Option.mem_toList.mp new)).tagged

/-- The client that `Game::Tick` leaves for the rest of `Tick`. -/
theorem sound_found {inet : Inet} {env : Nat → Env} {game found : Game GameLoop}
    {result : Bool} {sends : List SendCall} (sound : Sound game)
    (ticked : game.tick (gameLoop inet) env = .ok (result, found, sends)) : Sound found := by
  rcases (Game.tick_eq_ok_run (gameLoop inet) sound.tagged).mp ticked with ⟨loop, ran, -, rfl⟩
  refine ⟨fun ev member => absurd member List.not_mem_nil, ?_⟩
  exact Run.run_invariant sound_handle sound.loop ran

theorem step_tick_eq_ok {inet : Inet} {env : Nat → Env} {last : Env}
    {game game' : Game GameLoop} {sends : List SendCall} :
    step inet (.tick env last) game = .ok (game', sends) ↔
      ∃ result found out result' loop calls,
        game.tick (gameLoop inet) env = .ok (result, found, out) ∧
        afterEvents inet last result found.loop = .ok (result', loop, calls) ∧
        game' = { found with loop := loop } ∧ sends = out ++ calls := by
  constructor
  · intro stepped
    rw [step, tick, Checked.bind_eq_ok] at stepped
    obtain ⟨⟨result', game'', sends'⟩, ticked, same⟩ := stepped
    cases same
    rw [Checked.bind_eq_ok] at ticked
    obtain ⟨⟨result, found, out⟩, first, rest⟩ := ticked
    rw [Checked.bind_eq_ok] at rest
    obtain ⟨⟨result'', loop, calls⟩, last, same⟩ := rest
    cases same
    exact ⟨result, found, out, _, loop, calls, first, last, rfl, rfl⟩
  · intro done
    rcases done with ⟨result, found, out, result', loop, calls, first, last, rfl, rfl⟩
    simp only [step, tick, first, last, Checked.ok_bind, Checked.pure_eq_ok]

/-- A new client with nothing to handle asks when the time has come. -/
theorem step_tick_due {inet : Inet} (env : Nat → Env) {last : Env} {loop : GameLoop}
    (new : loop.mState = .new)
    (due : ¬ last.now < loop.mLoginAttemptTime + milliseconds 500)
    (clientPort : loop.mParams.clientPort ≤ 65535) {address : Address}
    (resolved : inet.pton loop.mParams.clientAddress = some address)
    (serverPort : loop.mParams.serverPort ≤ 65535) :
    step inet (.tick env last) { loop := loop } =
      .ok ({ loop := attempted last (loginRequest inet last loop.mParams address) loop },
        [loginRequest inet last loop.mParams address]) := by
  refine step_tick_eq_ok.mpr ⟨true, { loop := loop }, [], true, _, _, rfl, ?_, rfl, rfl⟩
  rw [afterEvents_new new, tryLogin_due new due clientPort resolved serverPort]
  rfl

theorem sound_step {inet : Inet} {input : Input} {game game' : Game GameLoop}
    {sends : List SendCall} (sound : Sound game)
    (stepped : step inet input game = .ok (game', sends)) : Sound game' := by
  cases input with
  | recv datagram => exact sound_recv sound stepped
  | tick env last =>
      obtain ⟨result, found, out, result', loop, calls, ticked, ran, rfl, -⟩ :=
        step_tick_eq_ok.mp stepped
      have kept := sound_found sound ticked
      rcases afterEvents_cases ran with ⟨rfl, -⟩ | ⟨address, -, -, -, rfl, -⟩
      · exact kept
      · exact ⟨kept.tagged, sound_attempted kept.loop last _⟩

theorem sound_run {inet : Inet} {params : Params} {inputs : List Input} {game : Game GameLoop}
    {sends : List SendCall}
    (ran : Run.run (step inet) inputs { loop := .initial params } = .ok (game, sends)) :
    Sound game :=
  Run.run_invariant sound_step
    ⟨fun _ member => absurd member List.not_mem_nil, sound_initial params⟩ ran

end Client

end UdpGame
