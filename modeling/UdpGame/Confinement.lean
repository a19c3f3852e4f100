import UdpGame.LoginAgreement

/-!
# Confinement

What a server and its clients ever exchange.  No client gets to ping, so there
is nothing to acknowledge, and every datagram is a request or a reply
(`only_logins_travel`).  A reply reaches the client it is about and no other, so
that the part of `HandleLogin` that adds the players of other clients never runs
(`clients_stay_strangers`).
-/

namespace UdpGame

open Server (Registers)

namespace Deployment

variable {inet : Inet} {n : Nat} (d : Deployment inet n)

/-- What a client asks with. -/
def request (i : Fin n) : LoginMessage where
  message := { action := .login, messageId := 0 }
  session := 0
  address := d.host i
  port := (d.params i).clientPort.toUInt16

/-- The decoders take a client's request.  They do unless its hash happens to be
zero. -/
def Audible (i : Fin n) : Prop := (d.request i).sealedHeader.hash ≠ 0

instance (i : Fin n) : Decidable (d.Audible i) := inferInstanceAs (Decidable (_ ≠ _))

end Deployment

section Confinement

variable {inet : Inet} {n : Nat} (d : Deployment inet n)

/-- A request to the server, or a login reply to a client. -/
def Exchanged (packet : Packet) : Prop :=
  (packet.target = d.server ∧ ∃ i, packet.bytes = (d.request i).datagram) ∨
  ∃ i, packet.target = d.sockAddr i ∧ ∃ login : LoginMessage,
    login.message.action = .login ∧ packet.bytes = login.datagram

/-- The registry is that of some clients that can be heard. -/
def Enlisted (game : GameState) : Prop :=
  ∃ endpoints, Registers endpoints game ∧
    ∀ endpoint ∈ endpoints, ∃ i, d.endpoint i = endpoint ∧ d.Audible i

/-- The event is a login of a client that can be heard. -/
def Asked (ev : Event) : Prop :=
  ∃ login i, ev = .login login ∧ Server.loginEndpoint inet login = d.endpoint i ∧ d.Audible i

/-- The table of a client holds its own player only. -/
def Alone (loop : Client.GameLoop) : Prop :=
  ∀ id state, loop.game.getPlayerById id = some state → loop.mThisPlayer = some id

/-- What `Agreement` leaves out. -/
structure Confined (w : World n) : Prop where
  enlisted : Enlisted d w.server.loop
  asked : ∀ ev ∈ w.server.mEvents, Asked d ev
  replies : ∀ i, ∀ ev ∈ (w.clients i).mEvents, ∃ login, ev = .login login
  alone : ∀ i, Alone (w.clients i).loop
  wire : ∀ packet ∈ w.sent, Exchanged d packet

variable {d}

theorem Enrolled.unique {game : GameState} {i : Fin n} {id id' : UInt32}
    (enlisted : Enlisted d game) (enrolled : Enrolled d game i id)
    (enrolled' : Enrolled d game i id') : id = id' := by
  obtain ⟨endpoints, registers, -⟩ := enlisted
  obtain ⟨player, member⟩ := enrolled
  obtain ⟨player', member'⟩ := enrolled'
  rcases GameState.mem_directory.mp member with ⟨state, held, -, here⟩
  rcases GameState.mem_directory.mp member' with ⟨state', held', -, here'⟩
  exact registers.numbered.keyed.endpoint held held' (here.trans here'.symm)

/-- Whom the server has in its registry it has heard. -/
theorem Enrolled.audible {game : GameState} {i : Fin n} {id : UInt32}
    (enlisted : Enlisted d game) (enrolled : Enrolled d game i id) : d.Audible i := by
  obtain ⟨endpoints, registers, known⟩ := enlisted
  obtain ⟨player, member⟩ := enrolled
  rcases GameState.mem_directory.mp member with ⟨state, held, -, here⟩
  rcases registers.numbered.mem_iff held with ⟨place, inside, there, -⟩
  rcases known _ (List.getElem_mem inside) with ⟨j, same, audible⟩
  cases d.endpoint_inj (same.trans (there.trans here))
  exact audible

/-! ## The server's part -/

section Server

variable {game game' : GameState}

/-- A call puts nothing on the network that is not exchanged. -/
def Proper (d : Deployment inet n) (call : SendCall) : Prop :=
  ∀ packet, call.packet? = some packet → Exchanged d packet

theorem exchanged_of_proper {calls : List SendCall} (proper : ∀ call ∈ calls, Proper d call) :
    ∀ packet ∈ packets calls, Exchanged d packet := by
  intro packet member
  rcases List.mem_filterMap.mp member with ⟨call, here, made⟩
  exact proper call here packet made

theorem proper_loginReply {env : Env} {ev : LoginEvent} {i : Fin n} {id messageId : UInt32}
    (named : Server.loginEndpoint inet ev = d.endpoint i) :
    Proper d (Server.loginReply inet env ev id messageId) := by
  intro packet made
  have member : packet ∈ packets [Server.loginReply inet env ev id messageId] :=
    List.mem_filterMap.mpr ⟨_, List.mem_singleton_self _, made⟩
  rcases mem_packets_singleton member with ⟨target, resolved, rfl⟩
  cases resolved
  have there : (⟨ev.login.address, ev.login.port⟩ : SockAddr) = d.sockAddr i :=
    SockAddr.endpoint_inj (named.trans (d.endpoint_sockAddr i).symm)
  exact .inr ⟨i, there, _, rfl,
    NetworkBuffer.bytes_holding (Serializer.encodes_login.datagram_fits _)⟩

/-- The server answers those that ask, and enlists them. -/
theorem enlisted_step {input : Env × Event} {calls : List SendCall} (enlisted : Enlisted d game)
    (asked : Asked d input.2) (stepped : Server.step inet input game = .ok (game', calls)) :
    Enlisted d game' ∧ ∀ call ∈ calls, Proper d call := by
  obtain ⟨env, ev⟩ := input
  obtain ⟨login, i, same, named, audible⟩ := asked
  cases same
  obtain ⟨endpoints, registers, known⟩ := enlisted
  have known' : ∀ endpoint ∈ FirstCome.enrol endpoints (Server.loginEndpoint inet login),
      ∃ i, d.endpoint i = endpoint ∧ d.Audible i := by
    intro endpoint member
    rcases FirstCome.mem_enrol.mp member with old | rfl
    · exact known endpoint old
    · exact ⟨i, named.symm, audible⟩
  have few := d.length_lt (FirstCome.nodup_enrol registers.distinct _) fun endpoint member =>
    (known' endpoint member).imp fun _ both => both.1
  obtain ⟨after, messageId, ran, kept⟩ := Server.handleLogin_of_numbered env registers.numbered
    (Nat.le_trans (Nat.le_of_lt few) (Nat.sub_le ..))
  cases ran.symm.trans stepped
  refine ⟨⟨_, kept.registers few, known'⟩, ?_⟩
  intro call member
  rw [List.mem_singleton.mp member]
  exact proper_loginReply named

end Server

/-! ## The clients' part -/

section Client

variable {loop loop' : Client.GameLoop}

/-- A client that only hears of its own session stays alone. -/
theorem alone_handle {granted : UInt32 → Prop}
    (unique : ∀ {id id'}, granted id → granted id' → id = id') {input : Env × Event}
    {calls : List SendCall}
    (holds : loop.Sound ∧ Alone loop ∧ ∀ id, loop.mThisPlayer = some id → granted id)
    (fair : ∀ reply, input.2 = .login reply → granted reply.login.session)
    (handled : (Client.gameLoop inet).handle input.1 input.2 loop = .ok (loop', calls)) :
    loop'.Sound ∧ Alone loop' ∧ ∀ id, loop'.mThisPlayer = some id → granted id := by
  obtain ⟨env, ev⟩ := input
  rcases holds with ⟨sound, alone, own⟩
  have sound' := Client.sound_handle sound handled
  cases ev with
  | ping ev =>
      cases handled
      exact ⟨sound, alone, own⟩
  | acknowledge ev =>
      cases handled
      exact ⟨sound, alone, own⟩
  | login ev =>
      have session := fair ev rfl
      change Client.handleLogin inet env ev loop = _ at handled
      by_cases new : loop.mState = .new
      · by_cases invalid : ev.login.session = kInvalidSession
        · rw [Client.handleLogin_invalid new invalid] at handled
          cases handled
          exact ⟨sound, alone, own⟩
        · rw [Client.handleLogin_new new invalid (sound.free new _)] at handled
          cases handled
          refine ⟨sound', fun id state held => ?_, fun id same => ?_⟩
          · by_contra other
            have ne : id ≠ ev.login.session := fun same => other (congrArg some same.symm)
            have held' : loop.game.mPlayers.find? id = some state :=
              (UnorderedMap.find?_tryEmplace_ne ne).symm.trans held
            cases (sound.free new id).symm.trans held'
          · cases same
            exact session
      · rcases sound.past new with ⟨-, id, state, mine, held, -⟩
        have taken : loop.game.getPlayerById ev.login.session = some state := by
          rw [unique session (own id mine)]
          exact held
        rw [Client.handleLogin_past new, Client.createPlayerById_of_taken env taken] at handled
        cases handled
        exact ⟨sound, alone, own⟩

theorem proper_loginRequest {env : Env} {i : Fin n} {address : Address}
    (resolved : inet.pton (d.params i).clientAddress = some address) :
    Proper d (Client.loginRequest inet env (d.params i) address) := by
  intro packet made
  have member : packet ∈ packets [Client.loginRequest inet env (d.params i) address] :=
    List.mem_filterMap.mpr ⟨_, List.mem_singleton_self _, made⟩
  rcases mem_packets_singleton member with ⟨target, aimed, rfl⟩
  rw [d.clientAddress, inet.pton_ntop, Option.some.injEq] at resolved
  rw [(target_loginRequest address).1, Option.some.injEq] at aimed
  subst aimed resolved
  exact .inl ⟨rfl, i, NetworkBuffer.bytes_holding (Serializer.encodes_login.datagram_fits _)⟩

theorem alone_attempted (alone : Alone loop) (env : Env) (call : SendCall) :
    Alone (Client.attempted env call loop) := by
  unfold Client.attempted
  split
  · exact alone
  · exact alone

/-- What a tick of a client keeps, and what it sends. -/
theorem alone_tick {i : Fin n} {game : GameState} {client client' : Game Client.GameLoop}
    (enlisted : Enlisted d game) (sound : Client.Sound client)
    (params : client.loop.mParams = d.params i)
    (grants : ∀ ev ∈ client.mEvents, Grants d game i ev)
    (own : ∀ id, client.loop.mThisPlayer = some id → Enrolled d game i id)
    (alone : Alone client.loop) {env : Nat → Env} {last : Env} {calls : List SendCall}
    (ran : Client.step inet (.tick env last) client = .ok (client', calls)) :
    client'.mEvents = [] ∧ Alone client'.loop ∧ ∀ call ∈ calls, Proper d call := by
  obtain ⟨result, found, out, result', loop, later, ticked, after, rfl, rfl⟩ :=
    Client.step_tick_eq_ok.mp ran
  obtain ⟨loop', drained, -, rfl⟩ :=
    (Game.tick_eq_ok_run (Client.gameLoop inet) sound.tagged).mp ticked
  have fair : ∀ input ∈ stamped env client.mEvents, ∀ reply, input.2 = .login reply →
      Enrolled d game i reply.login.session := fun input member =>
    grants input.2 (mem_of_mem_stamped member)
  have unique : ∀ {id id'}, Enrolled d game i id → Enrolled d game i id' → id = id' :=
    fun mine mine' => mine.unique enlisted mine'
  obtain ⟨⟨-, alone', -⟩, -⟩ := Run.run_guarded
    (fun holds fair handled => ⟨alone_handle unique holds fair handled, fun _ _ => trivial⟩)
    ⟨sound.loop, alone, own⟩ fair drained
  obtain ⟨loop'', drained', -, params', -⟩ := Client.run_handle sound.loop own fair
  cases drained'.symm.trans drained
  rw [params] at params'
  refine ⟨rfl, ?_, ?_⟩
  · rcases Client.afterEvents_cases after with ⟨rfl, -⟩ | ⟨address, -, -, -, rfl, -⟩
    · exact alone'
    · exact alone_attempted alone' last _
  · rcases Client.afterEvents_cases after with ⟨-, rfl⟩ | ⟨address, -, resolved, -, -, rfl⟩
    · exact fun call member => absurd member List.not_mem_nil
    · intro call member
      rw [List.nil_append, List.mem_singleton, params'] at member
      rw [params'] at resolved
      exact member ▸ proper_loginRequest resolved

end Client

/-! ## Every step keeps the confinement -/

section Steps

variable {w : World n}

/-- What arrives at the server is a request, and only some are heard. -/
theorem asked_of_arrived {datagram : Datagram} {ev : Event}
    (exchanged : Exchanged d ⟨d.server, datagram.bytes⟩)
    (accepted : datagram.event? inet = some ev) : Asked d ev := by
  rcases exchanged with ⟨-, i, bytes⟩ | ⟨i, target, -⟩
  · rw [Datagram.event?_of_login rfl bytes] at accepted
    split at accepted
    · rename_i audible
      cases accepted
      exact ⟨_, i, rfl, d.endpoint_sockAddr i, audible⟩
    · cases accepted
  · exact absurd target.symm (d.sockAddr_ne_server i)

/-- What arrives at a client is a reply. -/
theorem reply_of_arrived {i : Fin n} {datagram : Datagram} {ev : Event}
    (exchanged : Exchanged d ⟨d.sockAddr i, datagram.bytes⟩)
    (accepted : datagram.event? inet = some ev) : ∃ login, ev = .login login := by
  rcases exchanged with ⟨target, -⟩ | ⟨j, -, reply, typed, bytes⟩
  · exact absurd target (d.sockAddr_ne_server i)
  · rw [Datagram.event?_of_login typed bytes] at accepted
    split at accepted
    · cases accepted
      exact ⟨_, rfl⟩
    · cases accepted

theorem Confined.step (confined : Confined d w) (agreement : Agreement d w) {w' : World n}
    (step : Step d w w') : Confined d w' := by
  have wire : ∀ {calls : List SendCall}, (∀ call ∈ calls, Proper d call) →
      ∀ packet ∈ w.sent ++ packets calls, Exchanged d packet := by
    intro calls proper packet member
    rcases List.mem_append.mp member with old | new
    · exact confined.wire packet old
    · exact exchanged_of_proper proper packet new
  cases step with
  | serverRecv datagram arrived ran =>
      rw [Game.step_recv] at ran
      cases ran
      refine ⟨confined.enlisted, ?_, confined.replies, confined.alone,
        wire fun call member => absurd member List.not_mem_nil⟩
      intro ev member
      rcases List.mem_append.mp member with old | new
      · exact confined.asked ev old
      · exact asked_of_arrived (confined.wire _ arrived) (Option.mem_toList.mp new)
  | serverTick env ran =>
      rcases (Game.step_tick_eq_ok inet (Server.gameLoop inet)).mp ran with ⟨loop, drained, rfl⟩
      rw [Game.drain_eq_run _ env agreement.tagged] at drained
      rcases Run.run_guarded enlisted_step confined.enlisted
        (fun input member => confined.asked input.2 (mem_of_mem_stamped member)) drained with
        ⟨enlisted, proper⟩
      exact ⟨enlisted, fun ev member => absurd member List.not_mem_nil, confined.replies,
        confined.alone, wire proper⟩
  | clientRecv i datagram arrived ran =>
      rw [Client.step, Game.step_recv] at ran
      cases ran
      have replies : ∀ ev ∈ (w.clients i).mEvents ++ (datagram.event? inet).toList,
          ∃ login, ev = .login login := by
        intro ev member
        rcases List.mem_append.mp member with old | new
        · exact confined.replies i ev old
        · exact reply_of_arrived (confined.wire _ arrived) (Option.mem_toList.mp new)
      exact ⟨confined.enlisted, confined.asked,
        (Function.forall_update_iff w.clients fun _ (client : Game Client.GameLoop) =>
          ∀ ev ∈ client.mEvents, ∃ login, ev = .login login).mpr
          ⟨replies, fun j _ => confined.replies j⟩,
        (Function.forall_update_iff w.clients fun _ (client : Game Client.GameLoop) =>
          Alone client.loop).mpr ⟨confined.alone i, fun j _ => confined.alone j⟩,
        wire fun call member => absurd member List.not_mem_nil⟩
  | clientTick i env last ran =>
      obtain ⟨empty, alone, proper⟩ := alone_tick confined.enlisted (agreement.sound i)
        (agreement.params i) (agreement.grants i) (agreement.own i) (confined.alone i) ran
      refine ⟨confined.enlisted, confined.asked,
        (Function.forall_update_iff w.clients fun _ (client : Game Client.GameLoop) =>
          ∀ ev ∈ client.mEvents, ∃ login, ev = .login login).mpr
          ⟨?_, fun j _ => confined.replies j⟩,
        (Function.forall_update_iff w.clients fun _ (client : Game Client.GameLoop) =>
          Alone client.loop).mpr ⟨alone, fun j _ => confined.alone j⟩, wire proper⟩
      intro ev member
      rw [empty] at member
      cases member

end Steps

/-! ## Runs -/

theorem confined_initial (d : Deployment inet n) : Confined d (World.initial d) where
  enlisted := ⟨[], (Server.numbered_initial _).registers (by simp), fun _ member =>
    absurd member List.not_mem_nil⟩
  asked _ member := absurd member List.not_mem_nil
  replies _ _ member := absurd member List.not_mem_nil
  alone _ _ _ held := by cases held
  wire _ member := absurd member List.not_mem_nil

theorem confined_of_reachable {w : World n} (reached : Reachable d w) : Confined d w := by
  induction reached with
  | refl => exact confined_initial d
  | tail before step ih => exact ih.step (agreement_of_reachable before) step

/-- Everything on the network is the one request of some client, or a login reply
with the session of the client it goes to. -/
theorem only_logins_travel {w : World n} (reached : Reachable d w) :
    (∀ packet ∈ w.sent,
      (packet.target = d.server ∧ ∃ i, packet.bytes = (d.request i).datagram) ∨
      ∃ i, packet.target = d.sockAddr i ∧ ∃ login : LoginMessage,
        login.message.action = .login ∧ packet.bytes = login.datagram ∧
        ∃ state, (login.session, state) ∈ w.server.loop.mPlayers.entries ∧
          state.endpoint = d.endpoint i) ∧
    (∀ ev ∈ w.server.mEvents, ∃ login, ev = .login login) ∧
    ∀ i, ∀ ev ∈ (w.clients i).mEvents, ∃ login, ev = .login login := by
  have confined := confined_of_reachable reached
  have agreement := agreement_of_reachable reached
  refine ⟨?_, ?_, confined.replies⟩
  · intro packet member
    rcases confined.wire packet member with request | ⟨i, target, login, typed, bytes⟩
    · exact .inl request
    · refine .inr ⟨i, target, ?_⟩
      rcases agreement.wire packet member with
        ⟨server, -⟩ | ⟨j, target', login', typed', ⟨player, listed⟩, bytes'⟩ | other
      · exact absurd (target.symm.trans server) (d.sockAddr_ne_server i)
      · cases d.sockAddr_inj (target.symm.trans target')
        rcases GameState.mem_directory.mp listed with ⟨state, held, -, here⟩
        exact ⟨login', typed', bytes', state, held, here⟩
      · rw [bytes, LoginMessage.datagram, Serializer.datagram, Wire.action_frame] at other
        exact absurd typed other
  · intro ev member
    rcases confined.asked ev member with ⟨login, i, same, -⟩
    exact ⟨login, same⟩

theorem only_logins_travel_duo :
    ∃ w packet, Reachable duo w ∧ packet ∈ w.sent ∧ packet.target = duo.server ∧
      ∃ i, packet.bytes = (duo.request i).datagram := by
  obtain ⟨calls, asks, request⟩ := duo_asks
  obtain ⟨w, asked, -, -, sent⟩ := exists_clientTick (d := duo) (w := World.initial duo) 0 asks
  have reached : Reachable duo w := Relation.ReflTransGen.refl.tail asked
  refine ⟨w, _, reached, sent request, rfl, ?_⟩
  rcases (only_logins_travel reached).1 _ (sent request) with ⟨-, named⟩ | ⟨i, target, -⟩
  · exact named
  · exact absurd target.symm (duo.sockAddr_ne_server i)

/-- The table of a client holds the client's own player and nobody else, and the
server's holds clients only, each once. -/
theorem clients_stay_strangers {w : World n} (reached : Reachable d w) :
    (∀ i id, (∃ state, (w.clients i).loop.game.getPlayerById id = some state) ↔
      (w.clients i).loop.mThisPlayer = some id) ∧
    (∀ id state, (id, state) ∈ w.server.loop.mPlayers.entries →
      ∃ i, state.endpoint = d.endpoint i ∧ d.Audible i) ∧
    (∀ id id' state state', (id, state) ∈ w.server.loop.mPlayers.entries →
      (id', state') ∈ w.server.loop.mPlayers.entries → state.endpoint = state'.endpoint →
      id = id' ∧ state = state') ∧
    w.server.loop.mPlayers.size ≤ n := by
  have confined := confined_of_reachable reached
  have agreement := agreement_of_reachable reached
  obtain ⟨endpoints, registers, known⟩ := confined.enlisted
  refine ⟨fun i id => ⟨?_, ?_⟩, ?_, ?_, ?_⟩
  · intro held
    rcases held with ⟨state, held⟩
    exact confined.alone i id state held
  · intro own
    have past : (w.clients i).loop.mState ≠ .new := by
      intro new
      cases ((agreement.sound i).loop.new new).1.symm.trans own
    rcases (agreement.sound i).loop.past past with ⟨-, id', state, own', held, -⟩
    cases own'.symm.trans own
    exact ⟨state, held⟩
  · intro id state held
    rcases registers.numbered.mem_iff held with ⟨place, inside, there, -⟩
    rcases known _ (List.getElem_mem inside) with ⟨i, same, audible⟩
    exact ⟨i, there.symm.trans same.symm, audible⟩
  · intro id id' state state' held held' same
    obtain rfl : id = id' := registers.numbered.keyed.endpoint held held' same
    exact ⟨rfl, UnorderedMap.eq_of_mem held held'⟩
  · rw [registers.numbered.size]
    have inside : endpoints ⊆ (List.finRange n).map d.endpoint := by
      intro endpoint member
      rcases known endpoint member with ⟨i, rfl, -⟩
      exact List.mem_map_of_mem (List.mem_finRange i)
    have short := (List.Nodup.subperm registers.distinct inside).length_le
    rwa [List.length_map, List.length_finRange] at short

theorem clients_stay_strangers_duo :
    ∃ w id, Reachable duo w ∧ (∀ id', (∃ state,
      (w.clients 0).loop.game.getPlayerById id' = some state) ↔ id = id') ∧
      w.server.loop.mPlayers.size ≤ 2 := by
  obtain ⟨w, reached, loggedIn⟩ := duo_logs_in
  obtain ⟨tables, -, -, few⟩ := clients_stay_strangers reached
  have past : (w.clients 0).loop.mState ≠ .new := by
    rw [loggedIn]
    decide
  rcases ((agreement_of_reachable reached).sound 0).loop.past past with ⟨-, id, -, own, -⟩
  refine ⟨w, id, reached, fun id' => ?_, few⟩
  rw [tables 0 id', own, Option.some.injEq]

end Confinement

end UdpGame
