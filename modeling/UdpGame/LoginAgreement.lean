import UdpGame.System
import UdpGame.Replies

/-!
# Login agreement

What holds in every world of a server and its clients (`Agreement`): a datagram
on the network that reads as a login is either a request that names the endpoint
of the client it came from or a reply whose session the server's registry has
for the client it goes to.  So the id a client takes over is its own
(`login_agreement`).
-/

namespace UdpGame

open Server (Registers)

section Agreement

variable {inet : Inet} {n : Nat} (d : Deployment inet n)

/-- The registry has an id for a client's endpoint. -/
def Enrolled (game : GameState) (i : Fin n) (id : UInt32) : Prop :=
  ∃ player, (id, player, d.endpoint i) ∈ game.directory

/-- The registry is that of some clients. -/
def Registry (game : GameState) : Prop :=
  ∃ endpoints, Registers endpoints game ∧ ∀ endpoint ∈ endpoints, ∃ i, d.endpoint i = endpoint

/-- The event, if it is a login, names a client's endpoint. -/
def Asks (ev : Event) : Prop :=
  ∀ login, ev = .login login → ∃ i, Server.loginEndpoint inet login = d.endpoint i

/-- The event, if it is a login, brings a client its id. -/
def Grants (game : GameState) (i : Fin n) (ev : Event) : Prop :=
  ∀ login, ev = .login login → Enrolled d game i login.login.session

/-- A packet of this system: a request to the server, a reply to a client, or no
login at all. -/
def Explained (game : GameState) (packet : Packet) : Prop :=
  (packet.target = d.server ∧ ∃ i, ∃ login : LoginMessage, login.message.action = .login ∧
    login.address = d.host i ∧ login.port = (d.params i).clientPort.toUInt16 ∧
    packet.bytes = login.datagram) ∨
  (∃ i, packet.target = d.sockAddr i ∧ ∃ login : LoginMessage, login.message.action = .login ∧
    Enrolled d game i login.session ∧ packet.bytes = login.datagram) ∨
  Wire.action packet.bytes ≠ .login

/-- The invariant of the system. -/
structure Agreement (w : World n) : Prop where
  registry : Registry d w.server.loop
  tagged : ∀ ev ∈ w.server.mEvents, ev.Tagged
  asks : ∀ ev ∈ w.server.mEvents, Asks d ev
  sound : ∀ i, Client.Sound (w.clients i)
  params : ∀ i, (w.clients i).loop.mParams = d.params i
  grants : ∀ i, ∀ ev ∈ (w.clients i).mEvents, Grants d w.server.loop i ev
  own : ∀ i id, (w.clients i).loop.mThisPlayer = some id → Enrolled d w.server.loop i id
  wire : ∀ packet ∈ w.sent, Explained d w.server.loop packet

variable {d}

/-! ## The registry only grows -/

section Grow

variable {game game' : GameState}

theorem Enrolled.mono {i : Fin n} {id : UInt32} (enrolled : Enrolled d game i id)
    (grown : game.directory ⊆ game'.directory) : Enrolled d game' i id := by
  obtain ⟨player, member⟩ := enrolled
  exact ⟨player, grown member⟩

theorem Grants.mono {i : Fin n} {ev : Event} (grants : Grants d game i ev)
    (grown : game.directory ⊆ game'.directory) : Grants d game' i ev :=
  fun login same => (grants login same).mono grown

theorem Explained.mono {packet : Packet} (explained : Explained d game packet)
    (grown : game.directory ⊆ game'.directory) : Explained d game' packet := by
  rcases explained with request | ⟨i, target, login, typed, enrolled, bytes⟩ | other
  · exact .inl request
  · exact .inr (.inl ⟨i, target, login, typed, enrolled.mono grown, bytes⟩)
  · exact .inr (.inr other)

end Grow

/-! ## The server's part -/

section Server

variable {game : GameState} {i : Fin n} {env : Env}

/-- A reply goes to the client whose endpoint the login names. -/
theorem explained_loginReply {ev : LoginEvent} {id messageId : UInt32} {player : Option Player}
    (listed : (id, player, Server.loginEndpoint inet ev) ∈ game.directory)
    (named : Server.loginEndpoint inet ev = d.endpoint i) :
    ∀ packet ∈ packets [Server.loginReply inet env ev id messageId], Explained d game packet := by
  have enrolled : Enrolled d game i id := ⟨player, named ▸ listed⟩
  intro packet member
  rcases mem_packets_singleton member with ⟨target, resolved, rfl⟩
  cases resolved
  have there : (⟨ev.login.address, ev.login.port⟩ : SockAddr) = d.sockAddr i :=
    SockAddr.endpoint_inj (named.trans (d.endpoint_sockAddr i).symm)
  refine .inr (.inl ⟨i, there, _, rfl, enrolled, NetworkBuffer.bytes_holding ?_⟩)
  exact Serializer.encodes_login.datagram_fits _

/-- The answer to a ping is no login. -/
theorem explained_pingReply {ev : PingEvent} {state : PlayerState} :
    ∀ packet ∈ packets [Server.pingReply inet env ev state], Explained d game packet := by
  intro packet member
  rcases mem_packets_singleton member with ⟨target, -, rfl⟩
  refine .inr (.inr ?_)
  have bytes : (Server.pingReply inet env ev state).buffer.bytes = AcknowledgeMessage.datagram
      { message := { action := .acknowledge, messageId := state.nextMessage }
        messageId := ev.ping.messageId } := NetworkBuffer.bytes_holding
    (Serializer.encodes_acknowledge.datagram_fits _)
  rw [bytes, AcknowledgeMessage.datagram, Serializer.datagram, Wire.action_frame]
  intro same
  cases same

/-- The server handles every event without a fault, forgets no player, and all
it sends is explained. -/
theorem server_handle (registry : Registry d game) (input : Env × Event)
    (asks : Asks d input.2) :
    ∃ game' calls, Server.step inet input game = .ok (game', calls) ∧ Registry d game' ∧
      game.directory ⊆ game'.directory ∧ ∀ packet ∈ packets calls, Explained d game' packet := by
  obtain ⟨env, ev⟩ := input
  obtain ⟨endpoints, registers, known⟩ := registry
  cases ev with
  | login ev =>
      rcases asks ev rfl with ⟨i, named⟩
      have known' : ∀ endpoint ∈ FirstCome.enrol endpoints (Server.loginEndpoint inet ev),
          ∃ i, d.endpoint i = endpoint := by
        intro endpoint member
        rcases FirstCome.mem_enrol.mp member with old | rfl
        · exact known endpoint old
        · exact ⟨i, named.symm⟩
      have few := d.length_lt (FirstCome.nodup_enrol registers.distinct _) known'
      obtain ⟨game', messageId, ran, kept⟩ := Server.handleLogin_of_numbered env
        registers.numbered (Nat.le_trans (Nat.le_of_lt few) (Nat.sub_le ..))
      have grown : game.directory ⊆ game'.directory := by
        rw [registers.directory, kept.directory]
        exact Server.roster_subset (FirstCome.prefix_enrol endpoints _)
      have listed := kept.listed (FirstCome.mem_enrol.mpr (.inr rfl))
      exact ⟨game', _, ran, ⟨_, kept.registers few, known'⟩, grown,
        explained_loginReply listed named⟩
  | ping ev =>
      rcases Server.handlePing_cases inet env ev game with ⟨ran, -⟩ | ⟨state, -, -, ran⟩
      · exact ⟨game, [], ran, ⟨endpoints, registers, known⟩, List.Subset.refl _,
          fun packet member => absurd member List.not_mem_nil⟩
      · have keeps := Server.keepsIdentity_pinged env (Server.pingReply inet env ev state)
        have kept := (registers.numbered.update keeps ev.ping.playerId).registers registers.few
        refine ⟨_, _, ran, ⟨endpoints, kept, known⟩, ?_, explained_pingReply⟩
        rw [GameState.directory_update keeps]
        exact List.Subset.refl _
  | acknowledge ev =>
      exact ⟨game, [], rfl, ⟨endpoints, registers, known⟩, List.Subset.refl _,
        fun packet member => absurd member List.not_mem_nil⟩

theorem server_run (registry : Registry d game) {inputs : List (Env × Event)}
    (asks : ∀ input ∈ inputs, Asks d input.2) :
    ∃ game' calls, Run.run (Server.step inet) inputs game = .ok (game', calls) ∧
      Registry d game' ∧ game.directory ⊆ game'.directory ∧
      ∀ packet ∈ packets calls, Explained d game' packet := by
  induction inputs generalizing game with
  | nil =>
      exact ⟨game, [], rfl, registry, List.Subset.refl _,
        fun packet member => absurd member List.not_mem_nil⟩
  | cons input inputs ih =>
      obtain ⟨next, calls, stepped, registry', grown, explained⟩ :=
        server_handle registry input (asks input List.mem_cons_self)
      obtain ⟨game', later, ran, registry'', grown', explained'⟩ :=
        ih registry' fun input member => asks input (List.mem_cons_of_mem _ member)
      refine ⟨game', calls ++ later, Run.run_cons_eq_ok.mpr ⟨next, calls, later, stepped, ran, rfl⟩,
        registry'', List.Subset.trans grown grown', fun packet member => ?_⟩
      rw [packets_append] at member
      rcases List.mem_append.mp member with first | rest
      · exact (explained packet first).mono grown'
      · exact explained' packet rest

end Server

/-! ## The network's part -/

section Arrival

variable {game : GameState} {datagram : Datagram} {ev : Event}

/-- What the server takes for a login is a client's request. -/
theorem asks_of_arrived (explained : Explained d game ⟨d.server, datagram.bytes⟩)
    (accepted : datagram.event? inet = some ev) : Asks d ev := by
  rintro login rfl
  rcases explained with ⟨-, i, request, typed, address, port, bytes⟩ | ⟨i, target, -⟩ | other
  · rw [Datagram.event?_of_login typed bytes] at accepted
    split at accepted
    · cases accepted
      have named : (⟨request.address, request.port⟩ : SockAddr) = d.sockAddr i := by
        rw [address, port, Deployment.sockAddr]
      refine ⟨i, ?_⟩
      rw [← d.endpoint_sockAddr, ← named]
      rfl
    · cases accepted
  · exact absurd target.symm (d.sockAddr_ne_server i)
  · exact absurd (Datagram.action_of_event? accepted) other

/-- What a client takes for a login is a reply to itself. -/
theorem grants_of_arrived {i : Fin n} (explained : Explained d game ⟨d.sockAddr i, datagram.bytes⟩)
    (accepted : datagram.event? inet = some ev) : Grants d game i ev := by
  rintro login rfl
  rcases explained with ⟨target, -⟩ | ⟨j, target, reply, typed, enrolled, bytes⟩ | other
  · exact absurd target (d.sockAddr_ne_server i)
  · cases d.sockAddr_inj target
    rw [Datagram.event?_of_login typed bytes] at accepted
    split at accepted
    · cases accepted
      exact enrolled
    · cases accepted
  · exact absurd (Datagram.action_of_event? accepted) other

end Arrival

/-! ## The clients' part -/

section Client

variable {game : GameState} {i : Fin n} {env : Env}

/-- A client's request goes to the server, if the socket takes it. -/
theorem target_loginRequest (address : Address) :
    (Client.loginRequest inet env (d.params i) address).target = some d.server ∧
      (Client.loginRequest inet env (d.params i) address).result = env.sent := by
  simp only [Client.loginRequest, d.serverAddress, inet.pton_ntop, Option.map_some, d.serverPort,
    UInt16.toUInt16_toUInt32, Option.isSome_some, Bool.and_true, and_self]

/-- A client asks in its own name. -/
theorem explained_loginRequest {address : Address}
    (resolved : inet.pton (d.params i).clientAddress = some address) :
    ∀ packet ∈ packets [Client.loginRequest inet env (d.params i) address],
      Explained d game packet := by
  intro packet member
  rcases mem_packets_singleton member with ⟨target, aimed, rfl⟩
  rw [d.clientAddress, inet.pton_ntop, Option.some.injEq] at resolved
  rw [(target_loginRequest address).1, Option.some.injEq] at aimed
  subst aimed
  refine .inl ⟨rfl, i, _, ?_, resolved.symm, rfl, NetworkBuffer.bytes_holding ?_⟩
  · rfl
  · exact Serializer.encodes_login.datagram_fits _

/-- What a tick of a client keeps, and what it sends. -/
theorem client_tick {client client' : Game Client.GameLoop} (sound : Client.Sound client)
    (params : client.loop.mParams = d.params i)
    (grants : ∀ ev ∈ client.mEvents, Grants d game i ev)
    (own : ∀ id, client.loop.mThisPlayer = some id → Enrolled d game i id)
    {env : Nat → Env} {last : Env} {calls : List SendCall}
    (ran : Client.step inet (.tick env last) client = .ok (client', calls)) :
    client'.mEvents = [] ∧ client'.loop.mParams = d.params i ∧
      (∀ id, client'.loop.mThisPlayer = some id → Enrolled d game i id) ∧
      (∀ id, client.loop.mThisPlayer = some id → client'.loop.mThisPlayer = some id) ∧
      ∀ packet ∈ packets calls, Explained d game packet := by
  obtain ⟨result, found, out, result', loop, later, ticked, after, rfl, rfl⟩ :=
    Client.step_tick_eq_ok.mp ran
  obtain ⟨loop', drained, -, rfl⟩ :=
    (Game.tick_eq_ok_run (Client.gameLoop inet) sound.tagged).mp ticked
  obtain ⟨loop'', drained', -, params', own', stays⟩ := Client.run_handle sound.loop own
    fun input member reply login => grants input.2 (mem_of_mem_stamped member) reply login
  cases drained'.symm.trans drained
  rw [params] at params'
  rcases Client.afterEvents_cases after with ⟨rfl, rfl⟩ | ⟨address, -, resolved, -, rfl, rfl⟩
  · exact ⟨rfl, params', own', stays, fun packet member => absurd member List.not_mem_nil⟩
  · have kept : ∀ call, (Client.attempted last call loop').mParams = loop'.mParams ∧
        (Client.attempted last call loop').mThisPlayer = loop'.mThisPlayer := by
      intro call
      unfold Client.attempted
      split <;> exact ⟨rfl, rfl⟩
    rw [params'] at resolved
    refine ⟨rfl, (kept _).1.trans params', fun id same => own' id ((kept _).2.symm.trans same),
      fun id same => (kept _).2.trans (stays id same), ?_⟩
    rw [List.nil_append, params']
    exact explained_loginRequest resolved

end Client

/-! ## Every step keeps the agreement -/

section Steps

variable {w : World n} (agreement : Agreement d w)

include agreement

theorem Agreement.server {server : Game GameState} {calls : List SendCall}
    (registry : Registry d server.loop)
    (grown : w.server.loop.directory ⊆ server.loop.directory)
    (tagged : ∀ ev ∈ server.mEvents, ev.Tagged) (asks : ∀ ev ∈ server.mEvents, Asks d ev)
    (explained : ∀ packet ∈ packets calls, Explained d server.loop packet) :
    Agreement d { w with server := server, sent := w.sent ++ packets calls } where
  registry := registry
  tagged := tagged
  asks := asks
  sound := agreement.sound
  params := agreement.params
  grants i ev member := (agreement.grants i ev member).mono grown
  own i id same := (agreement.own i id same).mono grown
  wire packet member := by
    rcases List.mem_append.mp member with old | new
    · exact (agreement.wire packet old).mono grown
    · exact explained packet new

theorem Agreement.client (i : Fin n) {client : Game Client.GameLoop} {calls : List SendCall}
    (sound : Client.Sound client) (params : client.loop.mParams = d.params i)
    (grants : ∀ ev ∈ client.mEvents, Grants d w.server.loop i ev)
    (own : ∀ id, client.loop.mThisPlayer = some id → Enrolled d w.server.loop i id)
    (explained : ∀ packet ∈ packets calls, Explained d w.server.loop packet) :
    Agreement d { w with clients := Function.update w.clients i client
                         sent := w.sent ++ packets calls } where
  registry := agreement.registry
  tagged := agreement.tagged
  asks := agreement.asks
  sound := (Function.forall_update_iff w.clients fun _ client => Client.Sound client).mpr
    ⟨sound, fun j _ => agreement.sound j⟩
  params := (Function.forall_update_iff w.clients fun j (client : Game Client.GameLoop) =>
    client.loop.mParams = d.params j).mpr ⟨params, fun j _ => agreement.params j⟩
  grants := (Function.forall_update_iff w.clients fun j (client : Game Client.GameLoop) =>
    ∀ ev ∈ client.mEvents, Grants d w.server.loop j ev).mpr
      ⟨grants, fun j _ => agreement.grants j⟩
  own := (Function.forall_update_iff w.clients fun j (client : Game Client.GameLoop) =>
    ∀ id, client.loop.mThisPlayer = some id → Enrolled d w.server.loop j id).mpr
      ⟨own, fun j _ => agreement.own j⟩
  wire packet member := by
    rcases List.mem_append.mp member with old | new
    · exact agreement.wire packet old
    · exact explained packet new

theorem Agreement.serverRecv {server : Game GameState} {calls : List SendCall}
    {datagram : Datagram} (arrived : ⟨d.server, datagram.bytes⟩ ∈ w.sent)
    (ran : Game.step inet (Server.gameLoop inet) (.recv datagram) w.server = .ok (server, calls)) :
    Agreement d { w with server := server, sent := w.sent ++ packets calls } := by
  rw [Game.step_recv] at ran
  cases ran
  refine agreement.server agreement.registry (List.Subset.refl _) (fun ev member => ?_)
    (fun ev member => ?_) (fun packet member => absurd member List.not_mem_nil)
  · rcases List.mem_append.mp member with old | new
    · exact agreement.tagged ev old
    · exact (Datagram.carries_of_event? (Option.mem_toList.mp new)).tagged
  · rcases List.mem_append.mp member with old | new
    · exact agreement.asks ev old
    · exact asks_of_arrived (agreement.wire _ arrived) (Option.mem_toList.mp new)

theorem Agreement.serverTick {server : Game GameState} {calls : List SendCall} {env : Nat → Env}
    (ran : Game.step inet (Server.gameLoop inet) (.tick env) w.server = .ok (server, calls)) :
    Agreement d { w with server := server, sent := w.sent ++ packets calls } := by
  rcases (Game.step_tick_eq_ok inet (Server.gameLoop inet)).mp ran with ⟨loop, drained, rfl⟩
  rw [Game.drain_eq_run _ env agreement.tagged] at drained
  obtain ⟨loop', calls', drained', registry, grown, explained⟩ := server_run agreement.registry
    fun input member => agreement.asks input.2 (mem_of_mem_stamped member)
  cases drained'.symm.trans drained
  exact agreement.server registry grown (fun ev member => absurd member List.not_mem_nil)
    (fun ev member => absurd member List.not_mem_nil) explained

theorem Agreement.clientRecv {i : Fin n} {client : Game Client.GameLoop} {calls : List SendCall}
    {datagram : Datagram} (arrived : ⟨d.sockAddr i, datagram.bytes⟩ ∈ w.sent)
    (ran : Client.step inet (.recv datagram) (w.clients i) = .ok (client, calls)) :
    client.loop = (w.clients i).loop ∧
      Agreement d { w with clients := Function.update w.clients i client
                           sent := w.sent ++ packets calls } := by
  have sound := Client.sound_recv (agreement.sound i) ran
  rw [Client.step, Game.step_recv] at ran
  cases ran
  refine ⟨rfl, agreement.client i sound (agreement.params i) (fun ev member => ?_)
    (agreement.own i) (fun packet member => absurd member List.not_mem_nil)⟩
  rcases List.mem_append.mp member with old | new
  · exact agreement.grants i ev old
  · exact grants_of_arrived (agreement.wire _ arrived) (Option.mem_toList.mp new)

theorem Agreement.clientTick {i : Fin n} {client : Game Client.GameLoop} {calls : List SendCall}
    {env : Nat → Env} {last : Env}
    (ran : Client.step inet (.tick env last) (w.clients i) = .ok (client, calls)) :
    (∀ id, (w.clients i).loop.mThisPlayer = some id → client.loop.mThisPlayer = some id) ∧
      Agreement d { w with clients := Function.update w.clients i client
                           sent := w.sent ++ packets calls } := by
  obtain ⟨empty, params, own, stays, explained⟩ := client_tick (agreement.sound i)
    (agreement.params i) (agreement.grants i) (agreement.own i) ran
  refine ⟨stays, agreement.client i (Client.sound_step (agreement.sound i) ran) params
    (fun ev member => ?_) own explained⟩
  rw [empty] at member
  cases member

/-- A step keeps the agreement, and no client changes its id. -/
theorem Agreement.step {w' : World n} (step : Step d w w') :
    Agreement d w' ∧ ∀ i id, (w.clients i).loop.mThisPlayer = some id →
      (w'.clients i).loop.mThisPlayer = some id := by
  have update : ∀ (i : Fin n) (client : Game Client.GameLoop),
      (∀ id, (w.clients i).loop.mThisPlayer = some id → client.loop.mThisPlayer = some id) →
      ∀ j id, (w.clients j).loop.mThisPlayer = some id →
        (Function.update w.clients i client j).loop.mThisPlayer = some id := by
    intro i client stays
    exact (Function.forall_update_iff w.clients fun j (client : Game Client.GameLoop) =>
      ∀ id, (w.clients j).loop.mThisPlayer = some id → client.loop.mThisPlayer = some id).mpr
        ⟨stays, fun _ _ _ same => same⟩
  cases step with
  | serverRecv datagram arrived ran =>
      exact ⟨agreement.serverRecv arrived ran, fun _ _ same => same⟩
  | serverTick env ran => exact ⟨agreement.serverTick ran, fun _ _ same => same⟩
  | clientRecv i datagram arrived ran =>
      rcases agreement.clientRecv arrived ran with ⟨same, kept⟩
      exact ⟨kept, update i _ fun id own => same ▸ own⟩
  | clientTick i env last ran =>
      rcases agreement.clientTick ran with ⟨stays, kept⟩
      exact ⟨kept, update i _ stays⟩

end Steps

/-! ## Runs -/

theorem agreement_initial (d : Deployment inet n) : Agreement d (World.initial d) where
  registry := ⟨[], (Server.numbered_initial _).registers (by simp), fun _ member =>
    absurd member List.not_mem_nil⟩
  tagged _ member := absurd member List.not_mem_nil
  asks _ member := absurd member List.not_mem_nil
  sound i := ⟨fun _ member => absurd member List.not_mem_nil, Client.sound_initial _⟩
  params _ := rfl
  grants _ _ member := absurd member List.not_mem_nil
  own _ _ none := by cases none
  wire _ member := absurd member List.not_mem_nil

theorem agreement_steps {w w' : World n} (agreement : Agreement d w)
    (steps : Relation.ReflTransGen (Step d) w w') :
    Agreement d w' ∧ ∀ i id, (w.clients i).loop.mThisPlayer = some id →
      (w'.clients i).loop.mThisPlayer = some id := by
  induction steps with
  | refl => exact ⟨agreement, fun _ _ same => same⟩
  | tail _ step ih =>
      rcases ih.1.step step with ⟨kept, stays⟩
      exact ⟨kept, fun i id same => stays i id (ih.2 i id same)⟩

theorem agreement_of_reachable {w : World n} (reached : Reachable d w) : Agreement d w :=
  (agreement_steps (agreement_initial d) reached).1

/-- No program of the system ever faults, whatever it receives and finds. -/
theorem system_never_faults {w : World n} (reached : Reachable d w) :
    (∀ input, ∃ after, Game.step inet (Server.gameLoop inet) input w.server = .ok after) ∧
      ∀ i input, ∃ after, Client.step inet input (w.clients i) = .ok after := by
  have agreement := agreement_of_reachable reached
  constructor
  · rintro (datagram | env)
    · exact ⟨_, Game.step_recv ..⟩
    · obtain ⟨loop, calls, drained, -⟩ := server_run agreement.registry fun input member =>
        agreement.asks input.2 (mem_of_mem_stamped member)
      have whole := (Game.drain_eq_run (Server.gameLoop inet) env agreement.tagged _).trans drained
      exact ⟨_, (Game.step_tick_eq_ok inet _).mpr ⟨loop, whole, rfl⟩⟩
  · rintro i (datagram | ⟨env, last⟩)
    · exact ⟨_, Game.step_recv inet (Client.gameLoop inet) datagram _⟩
    · obtain ⟨loop, drained, -, params, -⟩ := Client.run_handle (agreement.sound i).loop
        (agreement.own i) fun input member reply login =>
          agreement.grants i input.2 (mem_of_mem_stamped member) reply login
      rw [agreement.params i] at params
      have serverPort : (d.params i).serverPort ≤ 65535 := by
        rw [d.serverPort]
        exact UInt16.toUInt32_le_max _
      have resolved : inet.pton (d.params i).clientAddress = some (d.host i) := by
        rw [d.clientAddress, inet.pton_ntop]
      obtain ⟨⟨result, loop', calls⟩, after⟩ := @Client.exists_afterEvents inet last loop
        (params ▸ d.clientPort_le i) (d.host i) (params ▸ resolved) (params ▸ serverPort) true
      exact ⟨_, Client.step_tick_eq_ok.mpr ⟨true, _, [], result, loop', calls,
        (Game.tick_eq_ok_run (Client.gameLoop inet) (agreement.sound i).tagged).mpr
          ⟨loop, drained, rfl, rfl⟩, after, rfl, rfl⟩⟩

/-- A client that is logged in holds the id under which the server has its
endpoint.  So no two clients hold the same id, and none ever changes its own. -/
theorem login_agreement {w : World n} (reached : Reachable d w) :
    (∀ i, (w.clients i).loop.mState = .loggedIn → ∃ id state,
      (w.clients i).loop.playerId = some id ∧
      (id, state) ∈ w.server.loop.mPlayers.entries ∧
      state.address = (d.params i).clientAddress ∧ state.port = (d.params i).clientPort) ∧
    (∀ i j id, (w.clients i).loop.playerId = some id → (w.clients j).loop.playerId = some id →
      i = j) ∧
    ∀ w', Relation.ReflTransGen (Step d) w w' → ∀ i id,
      (w.clients i).loop.playerId = some id → (w'.clients i).loop.playerId = some id := by
  have agreement := agreement_of_reachable reached
  refine ⟨fun i loggedIn => ?_, fun i j id mine yours => ?_, fun w' steps i id mine => ?_⟩
  · have sound := (agreement.sound i).loop
    have past : (w.clients i).loop.mState ≠ .new := by
      rw [loggedIn]
      decide
    rcases sound.past past with ⟨-, id, -, own, -⟩
    rcases agreement.own i id own with ⟨player, member⟩
    rcases GameState.mem_directory.mp member with ⟨state, held, -, here⟩
    exact ⟨id, state, sound.playerId.trans own, held, congrArg Prod.fst here,
      congrArg Prod.snd here⟩
  · rw [(agreement.sound i).loop.playerId] at mine
    rw [(agreement.sound j).loop.playerId] at yours
    rcases agreement.own i id mine with ⟨_, member⟩
    rcases agreement.own j id yours with ⟨_, member'⟩
    rcases GameState.mem_directory.mp member with ⟨state, held, -, here⟩
    rcases GameState.mem_directory.mp member' with ⟨state', held', -, here'⟩
    cases UnorderedMap.eq_of_mem held held'
    exact d.endpoint_inj (here.symm.trans here')
  · rcases agreement_steps agreement steps with ⟨agreement', stays⟩
    rw [(agreement.sound i).loop.playerId] at mine
    rw [(agreement'.sound i).loop.playerId]
    exact stays i id mine

end Agreement

/-! ## A login -/

/-- Two clients of one host. -/
def duo : Deployment .dottedQuad 2 where
  server := ⟨⟨10, 0, 0, 1⟩, 8088⟩
  params i :=
    { clientAddress := "10.0.0.2"
      clientPort := UInt32.ofNat (8081 + i)
      serverAddress := "10.0.0.1"
      serverPort := 8088 }
  host _ := ⟨10, 0, 0, 2⟩
  clientAddress := by decide
  clientPort_pos := by decide
  clientPort_le := by decide
  serverAddress := by decide
  serverPort := by decide
  distinct := by decide
  apart := by decide
  few := by decide

/-- The request of the first client, and the reply with session 1. -/
def duoLogin (session : UInt32) : LoginMessage where
  message := { action := .login }
  session := session
  address := ⟨10, 0, 0, 2⟩
  port := 8081

def duoDatagram (session : UInt32) : Datagram where
  source := ⟨⟨10, 0, 0, 1⟩, 49152⟩
  bytes := (duoLogin session).datagram
  fits := Serializer.encodes_login.datagram_fits _

section Duo

/-- What the first client finds when it asks. -/
def duoEnv : Env := { now := milliseconds 500 }

def duoAsked : Game Client.GameLoop where
  loop := { Client.GameLoop.initial (duo.params 0) with mLoginAttemptTime := milliseconds 500 }

theorem duo_asks :
    ∃ calls, Client.step .dottedQuad (.tick (fun _ => {}) duoEnv)
        ((World.initial duo).clients 0) = .ok (duoAsked, calls) ∧
      ⟨duo.server, (duoDatagram 0).bytes⟩ ∈ packets calls := by
  have resolved : Inet.dottedQuad.pton (duo.params 0).clientAddress = some ⟨10, 0, 0, 2⟩ :=
    Inet.dottedQuad.pton_ntop ⟨10, 0, 0, 2⟩
  rcases @target_loginRequest _ _ duo 0 duoEnv ⟨10, 0, 0, 2⟩ with ⟨target, result⟩
  have bytes := NetworkBuffer.bytes_holding (duoDatagram 0).fits
  have sent := mem_packets_of_sent result target
  have attempted : Client.attempted duoEnv
      (Client.loginRequest .dottedQuad duoEnv (duo.params 0) ⟨10, 0, 0, 2⟩)
      (Client.GameLoop.initial (duo.params 0)) = duoAsked.loop := if_pos result
  refine ⟨_, (Client.step_tick_due _ rfl (by decide) (by decide) resolved (by decide)).trans ?_,
    bytes ▸ sent⟩
  exact congrArg (fun loop => Except.ok (({ loop := loop } : Game Client.GameLoop), [_])) attempted

/-- The event the datagram becomes. -/
def duoEvent (session : UInt32) : LoginEvent where
  msg := .received .dottedQuad (duoDatagram session).source (duoDatagram session).bytes
  action := .login
  login := (duoLogin session).sealed

theorem duoDatagram_event? {session : UInt32} (hash : (duoLogin session).sealedHeader.hash ≠ 0) :
    (duoDatagram session).event? .dottedQuad = some (.login (duoEvent session)) :=
  (Datagram.event?_of_login rfl rfl).trans (if_pos hash)

theorem duo_answers :
    ∃ server calls, Game.step .dottedQuad (Server.gameLoop .dottedQuad) (.tick fun _ => {})
        { mEvents := [.login (duoEvent 0)], loop := { mParams := duo.serverParams } } =
          .ok (server, calls) ∧
      ⟨duo.sockAddr 0, (duoDatagram 1).bytes⟩ ∈ packets calls := by
  have entry : GameState.createPlayer {} (Server.loginEndpoint .dottedQuad (duoEvent 0)).1
      (Server.loginEndpoint .dottedQuad (duoEvent 0)).2 { mParams := duo.serverParams } = _ :=
    GameState.createPlayer_of_new {} (fun held => absurd held List.not_mem_nil) rfl
  have handled := Server.handleLogin_eq entry (GameState.getPlayerById_enter_self _ rfl) rfl
  have bytes := NetworkBuffer.bytes_holding (duoDatagram 1).fits
  have sent : ⟨duo.sockAddr 0, _⟩ ∈ packets [Server.loginReply .dottedQuad {} (duoEvent 0) 1 0] :=
    mem_packets_of_sent rfl rfl
  exact ⟨_, _, (Game.step_tick_eq_ok _ _).mpr
    ⟨_, Game.drain_singleton _ rfl handled, rfl⟩, bytes ▸ sent⟩

theorem duo_enters :
    ∃ client calls, Client.step .dottedQuad (.tick (fun _ => {}) {})
        { duoAsked with mEvents := [.login (duoEvent 1)] } = .ok (client, calls) ∧
      client.loop.mState = .loggedIn := by
  have handled : Client.handleLogin .dottedQuad {} (duoEvent 1) duoAsked.loop = _ :=
    Client.handleLogin_new rfl (by decide) rfl
  exact ⟨_, _, Client.step_tick_eq_ok.mpr ⟨true, _, [], true, _, [],
    (Game.tick_eq_ok _).mpr ⟨_, Game.drain_singleton _ rfl handled, rfl, rfl⟩,
    Client.afterEvents_past (by decide) true, rfl, rfl⟩, rfl⟩

theorem duo_logs_in :
    ∃ w, Reachable duo w ∧ (w.clients 0).loop.mState = .loggedIn := by
  obtain ⟨calls, asks, request⟩ := duo_asks
  obtain ⟨server, calls', answers, reply⟩ := duo_answers
  obtain ⟨client, calls'', enters, loggedIn⟩ := duo_enters
  obtain ⟨one, asked, idle, here, sent⟩ :=
    exists_clientTick (d := duo) (w := World.initial duo) 0 asks
  rcases exists_serverRecv (duoDatagram 0) (sent request) with ⟨two, carried, same, queue⟩
  rw [idle, duoDatagram_event? (by decide +kernel)] at queue
  rcases exists_serverTick (d := duo) (queue ▸ answers) with ⟨three, answered, same', -, sent'⟩
  rcases exists_clientRecv 0 (duoDatagram 1) (sent' reply) with ⟨four, carried', -, queue'⟩
  rw [same', same, here, duoDatagram_event? (by decide +kernel)] at queue'
  rcases exists_clientTick (d := duo) 0 (queue' ▸ enters) with ⟨five, entered, -, there, -⟩
  refine ⟨five, ?_, there ▸ loggedIn⟩
  exact ((((Relation.ReflTransGen.refl.tail asked).tail carried).tail answered).tail carried').tail
    entered

/-- The first client has the id of its endpoint. -/
theorem login_agreement_duo :
    ∃ w id state, Reachable duo w ∧ (w.clients 0).loop.playerId = some id ∧
      (id, state) ∈ w.server.loop.mPlayers.entries ∧ state.address = "10.0.0.2" ∧
      state.port = 8081 := by
  obtain ⟨w, reached, loggedIn⟩ := duo_logs_in
  rcases (login_agreement reached).1 0 loggedIn with ⟨id, state, own, held, address, port⟩
  exact ⟨w, id, state, reached, own, held, address, port⟩

end Duo

end UdpGame
