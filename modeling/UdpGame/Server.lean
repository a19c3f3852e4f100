import UdpGame.Players
import UdpGame.Lib.Run

/-!
# `Server::GameLoop`

The handlers of the server.  All its state is that of `Game`.
-/

namespace UdpGame

/-- `lastMessage = now`. -/
def PlayerState.seen (now : Time) (state : PlayerState) : PlayerState :=
  { state with lastMessage := now }

/-- `nextMessage++`. -/
def PlayerState.advance (state : PlayerState) : PlayerState :=
  { state with nextMessage := state.nextMessage + 1 }

/-- `messages.try_emplace(messageId, std::move(buffer))`. -/
def PlayerState.keep (messageId : UInt32) (buffer : NetworkBuffer) (state : PlayerState) :
    PlayerState :=
  { state with messages := (state.messages.tryEmplace messageId buffer).1 }

namespace Server

def handleLogin (inet : Inet) (env : Env) (ev : LoginEvent) (game : GameState) :
    Checked (GameState × List SendCall) := do
  let address := addressToString inet ev.login.address
  let (id, _, game) ← game.createPlayer env address ev.login.port.toUInt32
  let state ← Checked.deref (game.getPlayerById id)
  let messageId := state.nextMessage
  let game := game.update id PlayerState.advance
  let player ← Checked.deref state.player
  let login : LoginMessage :=
    { message := { action := .login, messageId := messageId }
      session := player.getId
      address := ev.login.address
      port := ev.login.port }
  let buffer ← Serializer.login.encode login
  let call ← sendMessage inet env address ev.login.port.toUInt32 buffer
  if call.result then
    return (game.update id (PlayerState.keep messageId buffer), [call])
  else
    return (game, [call])

def handlePing (inet : Inet) (env : Env) (ev : PingEvent) (game : GameState) :
    Checked (GameState × List SendCall) :=
  let id := ev.ping.playerId
  if id = kInvalidPlayer then
    return (game, [])
  else
    match game.getPlayerById id with
    | none => return (game, [])
    | some state => do
      let game := game.update id (PlayerState.seen env.now)
      let messageId := state.nextMessage
      let game := game.update id PlayerState.advance
      let ack : AcknowledgeMessage :=
        { message := { action := .acknowledge, messageId := messageId }
          messageId := ev.ping.messageId }
      let buffer ← Serializer.acknowledge.encode ack
      let call ← sendMessage inet env state.address ev.msg.port buffer
      if call.result then
        return (game.update id (PlayerState.keep messageId buffer), [call])
      else
        return (game, [call])

def handleAcknowledge (_ : Env) (_ : AcknowledgeEvent) (game : GameState) :
    Checked (GameState × List SendCall) :=
  return (game, [])

/-- `Server::GameLoop`. -/
def gameLoop (inet : Inet) : Handlers GameState where
  handleLogin := handleLogin inet
  handlePing := handlePing inet
  handleAcknowledge := handleAcknowledge

/-- An event handled at some moment. -/
def step (inet : Inet) (input : Env × Event) (game : GameState) :
    Checked (GameState × List SendCall) :=
  (gameLoop inet).handle input.1 input.2 game

/-! ## What the handlers do -/

/-- The state of a player after a message to it was sent by `call`. -/
def answered (call : SendCall) (state : PlayerState) : PlayerState :=
  if call.result then state.advance.keep state.nextMessage call.buffer else state.advance

theorem keepsIdentity_answered (call : SendCall) : GameState.KeepsIdentity (answered call) := by
  intro state
  unfold answered
  cases call.result <;> exact ⟨rfl, rfl⟩

theorem keepsIdentity_pinged (env : Env) (call : SendCall) :
    GameState.KeepsIdentity fun state => answered call (state.seen env.now) :=
  fun state => keepsIdentity_answered call (state.seen env.now)

/-- The reply to a login: back to the endpoint it names, with the session of its
player. -/
def loginReply (inet : Inet) (env : Env) (ev : LoginEvent) (session messageId : UInt32) :
    SendCall where
  address := addressToString inet ev.login.address
  port := ev.login.port.toUInt32
  buffer := .holding (LoginMessage.datagram
    { message := { action := .login, messageId := messageId }
      session := session
      address := ev.login.address
      port := ev.login.port })
  target := some ⟨ev.login.address, ev.login.port⟩
  result := env.sent

/-- The reply to a ping: to the player's address, at the port the ping came
from. -/
def pingReply (inet : Inet) (env : Env) (ev : PingEvent) (state : PlayerState) : SendCall where
  address := state.address
  port := ev.msg.port
  buffer := .holding (AcknowledgeMessage.datagram
    { message := { action := .acknowledge, messageId := state.nextMessage }
      messageId := ev.ping.messageId })
  target := (inet.pton state.address).map fun sin_addr => ⟨sin_addr, ev.msg.port.toUInt16⟩
  result := env.sent && (inet.pton state.address).isSome

/-- The endpoint a login is about. -/
def loginEndpoint (inet : Inet) (ev : LoginEvent) : Endpoint :=
  (addressToString inet ev.login.address, ev.login.port.toUInt32)

theorem sendMessage_loginReply (inet : Inet) (env : Env) (ev : LoginEvent)
    (session messageId : UInt32) :
    sendMessage inet env (addressToString inet ev.login.address) ev.login.port.toUInt32
        (loginReply inet env ev session messageId).buffer =
      .ok (loginReply inet env ev session messageId) := by
  rw [sendMessage_eq _ (UInt16.toUInt32_le_max _)]
  · simp only [addressToString, inet.pton_ntop, Option.map_some, Option.isSome_some,
      Bool.and_true, UInt16.toUInt16_toUInt32]
    rfl
  · exact Serializer.encodes_login.datagram_fits _

theorem sendMessage_pingReply (inet : Inet) (env : Env) (ev : PingEvent) (state : PlayerState) :
    sendMessage inet env state.address ev.msg.port (pingReply inet env ev state).buffer =
      .ok (pingReply inet env ev state) := by
  rw [sendMessage_eq _ ev.msg.port_le]
  · rfl
  · exact Serializer.encodes_acknowledge.datagram_fits _

section Handlers

variable {inet : Inet} {env : Env} {game game' : GameState} {state : PlayerState} {id : UInt32}

/-- How both handlers end: the message is counted, and kept if it was sent. -/
theorem update_answered (call : SendCall) (held : game.getPlayerById id = some state) :
    (if call.result = true then
        .ok ((game.update id PlayerState.advance).update id
          (PlayerState.keep state.nextMessage call.buffer), [call])
      else .ok (game.update id PlayerState.advance, [call]) :
        Checked (GameState × List SendCall)) =
      .ok (game.update id (answered call), [call]) := by
  cases result : call.result with
  | false =>
      have same : PlayerState.advance state = answered call state := by
        rw [answered, result]
        rfl
      rw [GameState.update_congr held same]
      rfl
  | true =>
      have same : (state.advance).keep state.nextMessage call.buffer = answered call state := by
        rw [answered, result]
        rfl
      rw [GameState.update_update, GameState.update_congr held same]
      rfl

theorem handleLogin_eq {ev : LoginEvent} {created : Bool}
    (entry : game.createPlayer env (loginEndpoint inet ev).1 (loginEndpoint inet ev).2 =
      .ok (id, created, game'))
    (held : game'.getPlayerById id = some state) (player : state.player = some { mId := id }) :
    handleLogin inet env ev game =
      .ok (game'.update id (answered (loginReply inet env ev id state.nextMessage)),
        [loginReply inet env ev id state.nextMessage]) := by
  have send := sendMessage_loginReply inet env ev id state.nextMessage
  have encode : Serializer.login.encode
      { message := { action := .login, messageId := state.nextMessage }
        session := id
        address := ev.login.address
        port := ev.login.port } = .ok (loginReply inet env ev id state.nextMessage).buffer :=
    LoginMessage.encode_eq _
  rw [← update_answered _ held]
  simp only [loginEndpoint] at entry
  simp only [handleLogin, entry, held, player, Checked.ok_bind, Checked.deref_some, encode, send,
    Player.getId, Checked.pure_eq_ok]

theorem handleLogin_of_error {ev : LoginEvent} {fault : Fault}
    (failed : game.createPlayer env (loginEndpoint inet ev).1 (loginEndpoint inet ev).2 =
      .error fault) : handleLogin inet env ev game = .error fault := by
  simp only [loginEndpoint] at failed
  simp only [handleLogin, failed, Checked.error_bind]

theorem handlePing_eq {ev : PingEvent} (valid : ev.ping.playerId ≠ kInvalidPlayer)
    (held : game.getPlayerById ev.ping.playerId = some state) :
    handlePing inet env ev game =
      .ok (game.update ev.ping.playerId (fun state' =>
          answered (pingReply inet env ev state) (state'.seen env.now)),
        [pingReply inet env ev state]) := by
  have send := sendMessage_pingReply inet env ev state
  have encode : Serializer.acknowledge.encode
      { message := { action := .acknowledge, messageId := state.nextMessage }
        messageId := ev.ping.messageId } = .ok (pingReply inet env ev state).buffer :=
    AcknowledgeMessage.encode_eq _
  have seen := GameState.getPlayerById_update_self (PlayerState.seen env.now) held
  rw [← GameState.update_update, ← update_answered _ seen]
  simp only [handlePing, if_neg valid, held, Checked.ok_bind, encode, send, Checked.pure_eq_ok]
  rfl

theorem handlePing_invalid {ev : PingEvent} (invalid : ev.ping.playerId = kInvalidPlayer) :
    handlePing inet env ev game = .ok (game, []) := if_pos invalid

theorem handlePing_unknown {ev : PingEvent}
    (unknown : game.getPlayerById ev.ping.playerId = none) :
    handlePing inet env ev game = .ok (game, []) := by
  simp only [handlePing, unknown, Checked.pure_eq_ok, ite_self]

end Handlers

end Server

end UdpGame
