import UdpGame.Confinement
import UdpGame.Checksum
import UdpGame.MessageLog

/-!
# Joining

Whatever was lost, repeated or refused so far, no client is locked out: from
every reachable world the game can go on to one in which all clients are logged
in but those whose request the decoders do not take (`login_stays_possible`).
The reply may be hit by the same accident, but not three in a row.
-/

namespace UdpGame

open BigEndian

namespace Deployment

variable {inet : Inet} {n : Nat} (d : Deployment inet n)

/-- The server's message to a client, with its id and the message's number. -/
def reply (i : Fin n) (id messageId : UInt32) : LoginMessage where
  message := { action := .login, messageId := messageId }
  session := id
  address := d.host i
  port := (d.params i).clientPort.toUInt16

/-- The request of a client on its way to the server. -/
def hail (i : Fin n) : Datagram where
  source := d.sockAddr i
  bytes := (d.request i).datagram
  fits := Serializer.encodes_login.datagram_fits _

/-- What the server makes of it. -/
def heard (i : Fin n) : LoginEvent where
  msg := .received inet (d.hail i).source (d.hail i).bytes
  action := .login
  login := (d.request i).sealed

theorem event?_hail {i : Fin n} (audible : d.Audible i) :
    (d.hail i).event? inet = some (.login (d.heard i)) :=
  (Datagram.event?_of_login rfl rfl).trans (if_pos audible)

theorem loginEndpoint_heard (i : Fin n) :
    Server.loginEndpoint inet (d.heard i) = d.endpoint i := d.endpoint_sockAddr i

/-! ## The hash of a reply -/

/-- Two replies whose numbers differ in their last byte only have different
hashes. -/
theorem hash_reply_ne {i : Fin n} {id a b : UInt32} (high : a.toNat / 256 = b.toNat / 256)
    (low : a.toNat % 256 ≠ b.toNat % 256) :
    (d.reply i id a).sealedHeader.hash ≠ (d.reply i id b).sealedHeader.hash := by
  have bytes : ∀ messageId : UInt32, (d.reply i id messageId).sealedHeader.hash = fnv1a64
      ((toBytes 4 Action.login.toUInt32.toNat ++ toBytes 3 (messageId.toNat / 256)) ++
        [UInt8.ofNat messageId.toNat] ++ (Wire.loginBytes (d.reply i id 0) ++
          List.replicate kMessageHeaderSize 0)) := by
    intro messageId
    simp only [LoginMessage.sealedHeader, Wire.sealedHeader, Wire.messageBytes, reply,
      toBytes, List.append_assoc, Wire.loginBytes]
  have differ : UInt8.ofNat a.toNat ≠ UInt8.ofNat b.toNat := by
    intro same
    exact low (by simpa using congrArg UInt8.toNat same)
  rw [bytes, bytes, high]
  exact fnv1a64_absorbing.foldl_ne kFnv1aSeed _ _ differ

/-- Of three replies in a row the decoders take one. -/
theorem exists_audible_reply (i : Fin n) (id messageId : UInt32) :
    ∃ k ∈ [messageId, messageId + 1, messageId + 1 + 1],
      (d.reply i id k).sealedHeader.hash ≠ 0 := by
  -- The last byte of a number wraps around in one of two increments at most.
  have next : ∀ a : UInt32, a.toNat % 256 ≠ 255 →
      (d.reply i id a).sealedHeader.hash ≠ 0 ∨ (d.reply i id (a + 1)).sealedHeader.hash ≠ 0 := by
    intro a room
    have value : (a + 1).toNat = a.toNat + 1 := by
      have range := a.toNat_lt
      rw [UInt32.toNat_add, UInt32.toNat_one]
      omega
    by_contra silent
    rw [not_or, not_not, not_not] at silent
    refine @hash_reply_ne _ _ d i id a (a + 1) ?_ ?_ (silent.1.trans silent.2.symm)
    · omega
    · omega
  by_cases last : messageId.toNat % 256 = 255
  · have wrapped : (messageId + 1).toNat % 256 ≠ 255 := by
      rw [UInt32.toNat_add, UInt32.toNat_one]
      omega
    rcases next (messageId + 1) wrapped with heard | heard
    · exact ⟨_, by simp, heard⟩
    · exact ⟨_, by simp, heard⟩
  · rcases next messageId last with heard | heard
    · exact ⟨_, by simp, heard⟩
    · exact ⟨_, by simp, heard⟩

end Deployment

section Joining

variable {inet : Inet} {n : Nat} {d : Deployment inet n}

/-! ## The client asks -/

/-- A client can be ticked so that it has asked, if it is not logged in. -/
theorem exists_asked {w : World n} (agreement : Agreement d w) (i : Fin n) :
    ∃ env last client calls,
      Client.step inet (.tick env last) (w.clients i) = .ok (client, calls) ∧
      client.mEvents = [] ∧
      (client.loop.mState = .new → ⟨d.server, (d.request i).datagram⟩ ∈ packets calls) := by
  have sound := agreement.sound i
  have grants : ∀ input ∈ stamped (fun _ => {}) (w.clients i).mEvents, ∀ reply,
      input.2 = .login reply → Enrolled d w.server.loop i reply.login.session :=
    fun input member => agreement.grants i input.2 (mem_of_mem_stamped member)
  obtain ⟨loop, drained, -, params, -⟩ :=
    Client.run_handle sound.loop (agreement.own i) grants
  rw [agreement.params i] at params
  have ticked : (w.clients i).tick (Client.gameLoop inet) (fun _ => {}) =
      .ok (true, { loop := loop }, []) :=
    (Game.tick_eq_ok_run (Client.gameLoop inet) sound.tagged).mpr ⟨loop, drained, rfl, rfl⟩
  by_cases new : loop.mState = .new
  · let last : Env := { now := loop.mLoginAttemptTime + milliseconds 500 }
    have serverPort : (d.params i).serverPort ≤ 65535 := by
      rw [d.serverPort]
      exact UInt16.toUInt32_le_max _
    have resolved : inet.pton (d.params i).clientAddress = some (d.host i) := by
      rw [d.clientAddress, inet.pton_ntop]
    have tried := @Client.tryLogin_due inet last loop new (lt_irrefl _)
      (params ▸ d.clientPort_le i) (d.host i) (params ▸ resolved) (params ▸ serverPort)
    refine ⟨fun _ => {}, last, _, _, Client.step_tick_eq_ok.mpr ⟨true, _, [], true, _, _, ticked,
      by rw [Client.afterEvents_new new, tried, Checked.ok_bind]; rfl, rfl, rfl⟩, rfl, ?_⟩
    intro _
    rw [params, List.nil_append]
    rcases @target_loginRequest _ _ d i last (d.host i) with ⟨target, result⟩
    have bytes : (Client.loginRequest inet last (d.params i) (d.host i)).buffer.bytes =
        (d.request i).datagram :=
      NetworkBuffer.bytes_holding (Serializer.encodes_login.datagram_fits _)
    exact bytes ▸ mem_packets_of_sent result target
  · refine ⟨fun _ => {}, {}, _, _, Client.step_tick_eq_ok.mpr ⟨true, _, [], _, _, _, ticked,
      Client.afterEvents_past new true, rfl, rfl⟩, rfl, ?_⟩
    intro still
    exact absurd still new

/-! ## The server answers -/

/-- The registry has a client under an id, and the next message to it has a
number. -/
def Awaits (d : Deployment inet n) (game : GameState) (i : Fin n) (id messageId : UInt32) : Prop :=
  ∃ state, game.getPlayerById id = some state ∧ state.endpoint = d.endpoint i ∧
    state.nextMessage = messageId

/-- After a login the server has an entry. -/
theorem exists_awaits {game game' : GameState} {calls : List SendCall} {i : Fin n}
    (keyed : game.Keyed)
    (handled : Server.handleLogin inet {} (d.heard i) game = .ok (game', calls)) :
    ∃ id messageId, Awaits d game' i id messageId := by
  obtain ⟨game'', id, created, state, -, -, held, here, -, rfl⟩ :=
    Server.handleLogin_cases keyed handled
  have kept := (Server.keepsIdentity_answered
    (Server.loginReply inet {} (d.heard i) id state.nextMessage) state).2
  exact ⟨id, _, _, GameState.getPlayerById_update_self _ held,
    kept.trans (here.trans (d.loginEndpoint_heard i)), rfl⟩

/-- A client with an entry gets the next message. -/
theorem answers_of_awaits {game : GameState} {i : Fin n} {id messageId : UInt32}
    (keyed : game.Keyed) (awaits : Awaits d game i id messageId) :
    ∃ game' calls, Server.handleLogin inet {} (d.heard i) game = .ok (game', calls) ∧
      Awaits d game' i id (messageId + 1) ∧
      ⟨d.sockAddr i, (d.reply i id messageId).datagram⟩ ∈ packets calls := by
  obtain ⟨state, held, here, rfl⟩ := awaits
  have entry := GameState.createPlayer_of_registered {} keyed held
    (here.trans (d.loginEndpoint_heard i).symm)
  have handled := Server.handleLogin_eq entry held
    (keyed.player (GameState.getPlayerById_eq_some.mp held))
  refine ⟨_, _, handled, ⟨_, GameState.getPlayerById_update_self _ held, ?_, ?_⟩, ?_⟩
  · exact (Server.keepsIdentity_answered _ state).2.trans here
  · exact Server.nextMessage_answered ..
  · have bytes : (Server.loginReply inet {} (d.heard i) id state.nextMessage).buffer.bytes =
        (d.reply i id state.nextMessage).datagram :=
      NetworkBuffer.bytes_holding (Serializer.encodes_login.datagram_fits _)
    exact bytes ▸ mem_packets_of_sent rfl rfl

/-- The world after an idle server has received a request and handled it. -/
def World.served (w : World n) (game : GameState) (calls : List SendCall) : World n :=
  { w with server := { loop := game }, sent := w.sent ++ packets calls }

section Serve

variable {w : World n} {i : Fin n} (idle : w.server.mEvents = []) (audible : d.Audible i)
  (request : ⟨d.server, (d.request i).datagram⟩ ∈ w.sent)

include idle audible request

theorem steps_served {game : GameState} {calls : List SendCall}
    (handled : Server.handleLogin inet {} (d.heard i) w.server.loop = .ok (game, calls)) :
    Relation.ReflTransGen (Step d) w (w.served game calls) := by
  have received := @Step.serverRecv inet n d w _ _ (d.hail i) request (Game.step_recv ..)
  rw [idle, d.event?_hail audible, packets, List.filterMap_nil, List.append_nil] at received
  have drained := @Game.drain_singleton _ (Server.gameLoop inet) (fun _ => {}) (.login (d.heard i))
    _ _ _ rfl handled
  have ticked := @Step.serverTick inet n d
    { w with server := { mEvents := [.login (d.heard i)], loop := w.server.loop } } _ _ (fun _ => {})
    ((Game.step_tick_eq_ok inet (Server.gameLoop inet)).mpr ⟨_, drained, rfl⟩)
  exact (Relation.ReflTransGen.single received).tail ticked

/-- A client that has an entry can get as many messages as it likes. -/
theorem exists_replies {id messageId : UInt32} (keyed : w.server.loop.Keyed)
    (awaits : Awaits d w.server.loop i id messageId) :
    ∃ w', Relation.ReflTransGen (Step d) w w' ∧ w'.clients = w.clients ∧
      w'.server.mEvents = [] ∧ w.sent ⊆ w'.sent ∧ Awaits d w'.server.loop i id (messageId + 1) ∧
      ⟨d.sockAddr i, (d.reply i id messageId).datagram⟩ ∈ w'.sent := by
  obtain ⟨game, calls, handled, awaits', reply⟩ := answers_of_awaits keyed awaits
  exact ⟨w.served game calls, steps_served idle audible request handled, rfl, rfl,
    List.subset_append_left .., awaits', List.subset_append_right _ _ reply⟩

end Serve

theorem Agreement.keyed {w : World n} (agreement : Agreement d w) : w.server.loop.Keyed := by
  obtain ⟨endpoints, registers, -⟩ := agreement.registry
  exact registers.numbered.keyed

/-- The server can be brought to have handled everything it has received. -/
theorem exists_idle {w : World n} (agreement : Agreement d w) :
    ∃ w', Relation.ReflTransGen (Step d) w w' ∧ w'.clients = w.clients ∧
      w'.server.mEvents = [] ∧ w.sent ⊆ w'.sent := by
  have asks : ∀ input ∈ stamped (fun _ => {}) w.server.mEvents, Asks d input.2 :=
    fun input member => agreement.asks input.2 (mem_of_mem_stamped member)
  obtain ⟨game, calls, drained, -⟩ := server_run agreement.registry asks
  have whole := (Game.drain_eq_run (Server.gameLoop inet) _ agreement.tagged _).trans drained
  exact ⟨_, Relation.ReflTransGen.single (Step.serverTick _
    ((Game.step_tick_eq_ok inet (Server.gameLoop inet)).mpr ⟨game, whole, rfl⟩)), rfl, rfl,
    List.subset_append_left ..⟩

/-- A client that has asked can get a reply that its decoders take. -/
theorem exists_reply {w : World n} (agreement : Agreement d w) {i : Fin n}
    (audible : d.Audible i) (request : ⟨d.server, (d.request i).datagram⟩ ∈ w.sent) :
    ∃ w', Relation.ReflTransGen (Step d) w w' ∧ w'.clients = w.clients ∧ ∃ id messageId,
      (d.reply i id messageId).sealedHeader.hash ≠ 0 ∧
      ⟨d.sockAddr i, (d.reply i id messageId).datagram⟩ ∈ w'.sent := by
  obtain ⟨w₁, steps₁, same₁, idle₁, grown₁⟩ := exists_idle agreement
  have agreement₁ := (agreement_steps agreement steps₁).1
  have asks : Asks d (.login (d.heard i)) := by
    intro login named
    cases named
    exact ⟨i, d.loginEndpoint_heard i⟩
  -- The first login makes the entry, and three more get three replies.
  obtain ⟨game, calls, handled, -⟩ :=
    server_handle agreement₁.registry ({}, .login (d.heard i)) asks
  obtain ⟨id, messageId, awaits₂⟩ := exists_awaits agreement₁.keyed handled
  have steps₂ := steps_served idle₁ audible (grown₁ request) handled
  have agreement₂ := (agreement_steps agreement₁ steps₂).1
  have request₂ : ⟨d.server, (d.request i).datagram⟩ ∈ (w₁.served game calls).sent :=
    List.mem_append_left _ (grown₁ request)
  obtain ⟨w₃, steps₃, same₃, idle₃, grown₃, awaits₃, first⟩ :=
    exists_replies rfl audible request₂ agreement₂.keyed awaits₂
  have agreement₃ := (agreement_steps agreement₂ steps₃).1
  obtain ⟨w₄, steps₄, same₄, idle₄, grown₄, awaits₄, second⟩ :=
    exists_replies idle₃ audible (grown₃ request₂) agreement₃.keyed awaits₃
  have agreement₄ := (agreement_steps agreement₃ steps₄).1
  obtain ⟨w₅, steps₅, same₅, -, grown₅, -, third⟩ :=
    exists_replies idle₄ audible (grown₄ (grown₃ request₂)) agreement₄.keyed awaits₄
  refine ⟨w₅, (((steps₁.trans steps₂).trans steps₃).trans steps₄).trans steps₅,
    same₅.trans (same₄.trans (same₃.trans same₁)), ?_⟩
  rcases d.exists_audible_reply i id messageId with ⟨k, member, heard⟩
  refine ⟨id, k, heard, ?_⟩
  rcases List.mem_cons.mp member with rfl | member
  · exact grown₅ (grown₄ first)
  rcases List.mem_cons.mp member with rfl | member
  · exact grown₅ second
  · rw [List.mem_singleton.mp member]
    exact third

/-! ## The client enters -/

/-- No id in the registry is the invalid one. -/
theorem Enrolled.valid {game : GameState} {i : Fin n} {id : UInt32} (registry : Registry d game)
    (enrolled : Enrolled d game i id) : id ≠ kInvalidSession := by
  obtain ⟨endpoints, registers, -⟩ := registry
  obtain ⟨player, member⟩ := enrolled
  rcases GameState.mem_directory.mp member with ⟨state, held, -, -⟩
  rcases registers.numbered.mem_iff held with ⟨place, inside, -, rfl, -⟩
  have few := registers.few
  intro same
  have value := congrArg UInt32.toNat same
  have top : kInvalidSession.toNat = 2 ^ 32 - 1 := rfl
  rw [Server.toNat_idAt (by omega), top] at value
  omega

/-- A new client that hears a reply logs in. -/
theorem exists_entered {w : World n} (agreement : Agreement d w) {i : Fin n}
    (idle : (w.clients i).mEvents = []) (new : (w.clients i).loop.mState = .new)
    {id messageId : UInt32} (heard : (d.reply i id messageId).sealedHeader.hash ≠ 0)
    (arrived : ⟨d.sockAddr i, (d.reply i id messageId).datagram⟩ ∈ w.sent) :
    ∃ w', Relation.ReflTransGen (Step d) w w' ∧ (w'.clients i).loop.mState = .loggedIn := by
  let datagram : Datagram :=
    { source := d.server
      bytes := (d.reply i id messageId).datagram
      fits := Serializer.encodes_login.datagram_fits _ }
  let ev : LoginEvent :=
    { msg := .received inet datagram.source datagram.bytes
      action := .login
      login := (d.reply i id messageId).sealed }
  have accepted : datagram.event? inet = some (.login ev) :=
    (Datagram.event?_of_login rfl rfl).trans (if_pos heard)
  have enrolled : Enrolled d w.server.loop i id :=
    grants_of_arrived (agreement.wire _ arrived) accepted ev rfl
  obtain ⟨w₁, received, -, queue⟩ := exists_clientRecv (d := d) i datagram arrived
  rw [idle, accepted] at queue
  have handled : Client.handleLogin inet {} ev (w.clients i).loop = _ :=
    Client.handleLogin_new new (enrolled.valid agreement.registry)
      ((agreement.sound i).loop.free new _)
  have ticked : Game.tick (Client.gameLoop inet) (fun _ => {})
      { w.clients i with mEvents := [.login ev] } = .ok (true, { loop := _ }, []) :=
    (Game.tick_eq_ok (Client.gameLoop inet)).mpr
      ⟨_, Game.drain_singleton _ rfl handled, rfl, rfl⟩
  have stepped := Client.step_tick_eq_ok.mpr ⟨true, _, [], true, _, [], ticked,
    @Client.afterEvents_past inet {} _ (fun still => by cases still) true, rfl, rfl⟩
  obtain ⟨w₂, entered, -, there, -⟩ :=
    @exists_clientTick _ _ d w₁ i _ _ (fun _ => {}) {} (queue ▸ stepped)
  exact ⟨w₂, (Relation.ReflTransGen.single received).tail entered, there ▸ rfl⟩

/-! ## Logins -/

/-- A client that is logged in stays so. -/
theorem loggedIn_steps {w w' : World n} (agreement : Agreement d w)
    (steps : Relation.ReflTransGen (Step d) w w') {i : Fin n}
    (loggedIn : (w.clients i).loop.mState = .loggedIn) :
    (w'.clients i).loop.mState = .loggedIn := by
  have past : (w.clients i).loop.mState ≠ .new := by
    rw [loggedIn]
    decide
  rcases (agreement.sound i).loop.past past with ⟨-, id, state, own, -⟩
  rcases agreement_steps agreement steps with ⟨agreement', stays⟩
  refine ((agreement'.sound i).loop.past ?_).1
  intro new
  cases ((agreement'.sound i).loop.new new).1.symm.trans (stays i id own)

theorem audible_of_loggedIn {w : World n} (reached : Reachable d w) {i : Fin n}
    (loggedIn : (w.clients i).loop.mState = .loggedIn) : d.Audible i := by
  have agreement := agreement_of_reachable reached
  have past : (w.clients i).loop.mState ≠ .new := by
    rw [loggedIn]
    decide
  rcases (agreement.sound i).loop.past past with ⟨-, id, state, own, -⟩
  exact (agreement.own i id own).audible (confined_of_reachable reached).enlisted

theorem exists_loggedIn {w : World n} (agreement : Agreement d w) {i : Fin n}
    (audible : d.Audible i) :
    ∃ w', Relation.ReflTransGen (Step d) w w' ∧ (w'.clients i).loop.mState = .loggedIn := by
  obtain ⟨env, last, client, calls, stepped, idle, asks⟩ := exists_asked agreement i
  obtain ⟨w₁, asked, -, here, sent⟩ := exists_clientTick (d := d) i stepped
  have steps₁ := Relation.ReflTransGen.single asked
  have agreement₁ := (agreement_steps agreement steps₁).1
  by_cases new : client.loop.mState = .new
  · obtain ⟨w₂, steps₂, same₂, id, messageId, heard, arrived⟩ :=
      exists_reply agreement₁ audible (sent (asks new))
    have agreement₂ := (agreement_steps agreement₁ steps₂).1
    have here₂ : w₂.clients i = client := by rw [same₂, here]
    obtain ⟨w₃, steps₃, loggedIn⟩ := exists_entered agreement₂ (here₂ ▸ idle) (here₂ ▸ new) heard
      arrived
    exact ⟨w₃, (steps₁.trans steps₂).trans steps₃, loggedIn⟩
  · have sound := (agreement₁.sound i).loop
    rw [here] at sound
    exact ⟨w₁, steps₁, here ▸ (sound.past new).1⟩

/-- One client after the other. -/
theorem exists_all_loggedIn {w : World n} (agreement : Agreement d w) (clients : List (Fin n)) :
    ∃ w', Relation.ReflTransGen (Step d) w w' ∧
      ∀ i ∈ clients, d.Audible i → (w'.clients i).loop.mState = .loggedIn := by
  induction clients with
  | nil => exact ⟨w, .refl, fun i member => absurd member List.not_mem_nil⟩
  | cons i clients ih =>
      obtain ⟨w₁, steps₁, others⟩ := ih
      have agreement₁ := (agreement_steps agreement steps₁).1
      by_cases audible : d.Audible i
      · obtain ⟨w₂, steps₂, loggedIn⟩ := exists_loggedIn agreement₁ audible
        refine ⟨w₂, steps₁.trans steps₂, ?_⟩
        intro j member audible'
        rcases List.mem_cons.mp member with rfl | member
        · exact loggedIn
        · exact loggedIn_steps agreement₁ steps₂ (others j member audible')
      · refine ⟨w₁, steps₁, ?_⟩
        intro j member audible'
        rcases List.mem_cons.mp member with rfl | member
        · exact absurd audible' audible
        · exact others j member audible'

/-- Only clients that can be heard are ever logged in, and from every reachable
world the game can go on until all of them are. -/
theorem login_stays_possible {w : World n} (reached : Reachable d w) :
    (∀ i, (w.clients i).loop.mState = .loggedIn → d.Audible i) ∧
      ∃ w', Relation.ReflTransGen (Step d) w w' ∧
        ∀ i, (w'.clients i).loop.mState = .loggedIn ↔ d.Audible i := by
  refine ⟨fun i => audible_of_loggedIn reached, ?_⟩
  obtain ⟨w', steps, loggedIn⟩ :=
    exists_all_loggedIn (agreement_of_reachable reached) (List.finRange n)
  refine ⟨w', steps, fun i => ⟨audible_of_loggedIn (reached.trans steps), ?_⟩⟩
  exact loggedIn i (List.mem_finRange i)

theorem login_stays_possible_duo :
    ∃ w, Reachable duo w ∧ ∀ i, (w.clients i).loop.mState = .loggedIn := by
  obtain ⟨-, w, steps, all⟩ := login_stays_possible (w := World.initial duo) .refl
  have audible : ∀ i, duo.Audible i := by decide +kernel
  exact ⟨w, steps, fun i => (all i).mpr (audible i)⟩

end Joining

end UdpGame
