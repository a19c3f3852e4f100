import UdpGame.Client

/-!
# Keep-alive

`Tick` pings for every client that is not new, and `TryPing` returns for every
client that is not new.  So no client ever pings, the time of the last ping stays
the epoch of the clock, and `keep_alive_iff` says what is left of the rule of one
ping every 100 ms.
-/

namespace UdpGame

namespace Client

/-! ## One tick -/

/-- What a client has to do at the moment `last` once a tick has handled the
events: ping if it is logged in and the last ping is 100 ms ago, else not, and
while it is new leave its player alone. -/
structure KeepAlive (inet : Inet) (last : Env) (loop : GameLoop) : Prop where
  due : loop.mState = .loggedIn → loop.mLastPing + milliseconds 100 ≤ last.now →
    ∃ id state player call after state',
      loop.mThisPlayer = some id ∧ loop.game.getPlayerById id = some state ∧
      state.player = some player ∧
      afterEvents inet last true loop = .ok (true, after, [call]) ∧
      (call.address, call.port) = (loop.mParams.serverAddress, loop.mParams.serverPort) ∧
      (∃ ping : PingMessage, ping.playerId = player.getId ∧
        ping.message.messageId = state.nextMessage ∧
        Serializer.ping.encode ping = .ok call.buffer) ∧
      after.game.getPlayerById id = some state' ∧ state'.nextMessage = state.nextMessage + 1
  early : loop.mState = .loggedIn → last.now < loop.mLastPing + milliseconds 100 →
    ∃ after, afterEvents inet last true loop = .ok (true, after, [])
  unread : loop.mState = .new → ∀ player,
    afterEvents inet last true { loop with mThisPlayer := player } =
      (afterEvents inet last true loop).map fun (result, after, calls) =>
        (result, { after with mThisPlayer := player }, calls)
  unbuilt : loop.mState = .new → ∀ result after calls,
    afterEvents inet last true loop = .ok (result, after, calls) →
      ∀ call ∈ calls, ∃ login, Serializer.login.encode login = .ok call.buffer

/-- `TryLogin` does not look at the client's player. -/
theorem tryLogin_unread (inet : Inet) (env : Env) (loop : GameLoop) (player : Option UInt32) :
    tryLogin inet env { loop with mThisPlayer := player } =
      (tryLogin inet env loop).map fun (after, calls) =>
        ({ after with mThisPlayer := player }, calls) := by
  simp only [tryLogin]
  split
  · rfl
  split
  · rfl
  cases toSockAddr inet loop.mParams.clientAddress loop.mParams.clientPort with
  | error fault => rfl
  | ok address =>
      cases address with
      | none => rfl
      | some addr4 =>
          simp only [Checked.ok_bind, Checked.deref_some, LoginMessage.encode_eq]
          cases sendMessage inet env loop.mParams.serverAddress loop.mParams.serverPort
            (.holding (LoginMessage.datagram
              { message := { action := .login, messageId := 0 }
                session := 0
                address := addr4.address
                port := loop.mParams.clientPort.toUInt16 })) with
          | error fault => rfl
          | ok call =>
              simp only [Checked.ok_bind]
              split <;> rfl

/-- A client keeps alive only as long as it need not ping. -/
theorem GameLoop.Sound.keepAlive_iff {loop : GameLoop} (sound : loop.Sound) (inet : Inet)
    (last : Env) :
    KeepAlive inet last loop ↔ (loop.mState = .loggedIn → last.now < milliseconds 100) := by
  have epoch : loop.mLastPing + milliseconds 100 = milliseconds 100 := by
    rw [sound.unpinged, Int.zero_add]
  constructor
  · intro alive loggedIn
    rw [← epoch]
    by_contra late
    have past : loop.mState ≠ .new := by
      rw [loggedIn]
      decide
    rcases alive.due loggedIn (Int.not_lt.mp late) with ⟨_, _, _, call, _, _, -, -, -, pinged, -⟩
    have silent := pinged.symm.trans (afterEvents_past past true)
    simp only [Except.ok.injEq, Prod.mk.injEq, reduceCtorEq, and_false] at silent
  · intro early
    refine ⟨fun loggedIn due => ?_, fun loggedIn _ => ?_, fun new player => ?_, fun new => ?_⟩
    · rw [epoch] at due
      exact absurd (early loggedIn) (Int.not_lt.mpr due)
    · have past : loop.mState ≠ .new := by
        rw [loggedIn]
        decide
      refine ⟨loop, (afterEvents_past past true).trans ?_⟩
      rw [loggedIn]
      rfl
    · have new' : ({ loop with mThisPlayer := player } : GameLoop).mState = .new := new
      rw [afterEvents_new new, afterEvents_new new', tryLogin_unread]
      cases tryLogin inet last loop <;> rfl
    · intro result after calls ran call member
      rcases afterEvents_cases ran with ⟨-, rfl⟩ | ⟨address, -, -, -, -, rfl⟩
      · cases member
      · rw [List.mem_singleton.mp member]
        exact ⟨_, LoginMessage.encode_eq _⟩

/-! ## Runs -/

/-- Something holds of every tick of a run, at its last moment and of the client
that the events have left. -/
def AtTicks (inet : Inet) (params : Params) (inputs : List Input)
    (holds : Env → GameLoop → Prop) : Prop :=
  ∀ past env last rest, inputs = past ++ .tick env last :: rest →
    ∀ game sends found out,
      Run.run (step inet) past { loop := .initial params } = .ok (game, sends) →
      game.tick (gameLoop inet) env = .ok (true, found, out) → holds last found.loop

/-- A run keeps alive if and only if no tick finds the client logged in when the
clock is past 100 ms. -/
theorem keep_alive_iff (inet : Inet) (params : Params) (inputs : List Input) :
    AtTicks inet params inputs (KeepAlive inet) ↔
      AtTicks inet params inputs fun last loop =>
        loop.mState = .loggedIn → last.now < milliseconds 100 := by
  constructor
  · intro alive past env last rest split game sends found out ran ticked
    have sound := sound_found (sound_run ran) ticked
    exact (sound.loop.keepAlive_iff inet last).mp
      (alive past env last rest split game sends found out ran ticked)
  · intro early past env last rest split game sends found out ran ticked
    have sound := sound_found (sound_run ran) ticked
    exact (sound.loop.keepAlive_iff inet last).mpr
      (early past env last rest split game sends found out ran ticked)

/-- A client at 10.0.0.2 of a server at 10.0.0.1. -/
def hostParams : Params where
  clientAddress := "10.0.0.2"
  clientPort := 8081
  serverAddress := "10.0.0.1"
  serverPort := 8088

/-- The server's reply to that client, with session 1. -/
def loginReply : LoginMessage where
  message := { action := .login }
  session := 1
  address := ⟨10, 0, 0, 2⟩
  port := 8081

def replyDatagram : Datagram where
  source := ⟨⟨10, 0, 0, 1⟩, 49152⟩
  bytes := loginReply.datagram
  fits := Serializer.encodes_login.datagram_fits _

/-- One second after its login the client is silent. -/
theorem logged_in_client_is_silent :
    ¬ AtTicks .dottedQuad hostParams
      [.recv replyDatagram, .tick (fun _ => {}) { now := milliseconds 1000 }]
      (KeepAlive .dottedQuad) := by
  intro alive
  have received := Game.step_recv .dottedQuad (gameLoop .dottedQuad) replyDatagram
    { loop := .initial hostParams }
  rw [Datagram.event?_of_login rfl rfl, if_pos (by decide +kernel)] at received
  have second := alive [.recv replyDatagram] _ _ [] rfl _ _ _ _
    (Run.run_cons_eq_ok.mpr ⟨_, _, _, received, rfl, rfl⟩) rfl
  rcases second.due rfl (by decide) with ⟨_, _, _, call, _, _, -, -, -, pinged, -⟩
  cases pinged

end Client

end UdpGame
