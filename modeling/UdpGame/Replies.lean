import UdpGame.Registry

/-!
# Replies

Where the answers of the server go.  `HandleLogin` answers at the endpoint the
login names, which is that of its player.  `HandlePing` takes the address of the
player but the port the ping was sent from, and a program that sends from fresh
sockets does not listen there: `replies_reach_registered_iff` says in which runs
every answer still goes to the registered endpoint.
-/

namespace UdpGame

namespace Server

open GameState

/-! ## What a handler that returns has done -/

section Step

variable {inet : Inet} {env : Env} {game after : GameState} {out : List SendCall}

/-- A login was answered for the entry of its endpoint, found or made. -/
theorem handleLogin_cases (keyed : game.Keyed) {ev : LoginEvent}
    (handled : handleLogin inet env ev game = .ok (after, out)) :
    ∃ (game' : GameState) (id : UInt32) (created : Bool) (state : PlayerState),
      game.createPlayer env (loginEndpoint inet ev).1 (loginEndpoint inet ev).2 =
        .ok (id, created, game') ∧
      game'.Keyed ∧ game'.getPlayerById id = some state ∧
      state.endpoint = loginEndpoint inet ev ∧
      out = [loginReply inet env ev id state.nextMessage] ∧
      after = game'.update id (answered (loginReply inet env ev id state.nextMessage)) := by
  cases entry : game.createPlayer env (loginEndpoint inet ev).1 (loginEndpoint inet ev).2 with
  | error fault =>
      rw [handleLogin_of_error entry] at handled
      cases handled
  | ok made =>
      obtain ⟨id, created, game'⟩ := made
      have found : ∃ state, game'.Keyed ∧ game'.getPlayerById id = some state ∧
          state.endpoint = loginEndpoint inet ev := by
        rcases createPlayer_cases env keyed entry with
          ⟨state, held, here, -, rfl⟩ | ⟨absent, free, rfl, -, rfl⟩
        · exact ⟨state, keyed, held, here⟩
        · exact ⟨_, keyed.enter env absent free, getPlayerById_enter_self env free,
            endpoint_freshState ..⟩
      obtain ⟨state, keyed', held, here⟩ := found
      have player := keyed'.player (getPlayerById_eq_some.mp held)
      rw [handleLogin_eq entry held player, Except.ok.injEq, Prod.mk.injEq] at handled
      exact ⟨game', id, created, state, rfl, keyed', held, here, handled.2.symm,
        handled.1.symm⟩

/-- A login of a registered endpoint returns. -/
theorem handleLogin_of_registered (keyed : game.Keyed) {ev : LoginEvent} {id : UInt32}
    {state : PlayerState} (held : game.getPlayerById id = some state)
    (here : state.endpoint = loginEndpoint inet ev) :
    ∃ after out, handleLogin inet env ev game = .ok (after, out) :=
  ⟨_, _, handleLogin_eq (createPlayer_of_registered env keyed held here) held
    (keyed.player (getPlayerById_eq_some.mp held))⟩

/-- A ping was dropped, or answered for the player it names. -/
theorem handlePing_cases (inet : Inet) (env : Env) (ev : PingEvent) (game : GameState) :
    (handlePing inet env ev game = .ok (game, []) ∧
      (ev.ping.playerId = kInvalidPlayer ∨ game.getPlayerById ev.ping.playerId = none)) ∨
    ∃ state, ev.ping.playerId ≠ kInvalidPlayer ∧
      game.getPlayerById ev.ping.playerId = some state ∧
      handlePing inet env ev game =
        .ok (game.update ev.ping.playerId (fun state' =>
            answered (pingReply inet env ev state) (state'.seen env.now)),
          [pingReply inet env ev state]) := by
  by_cases invalid : ev.ping.playerId = kInvalidPlayer
  · exact .inl ⟨handlePing_invalid invalid, .inl invalid⟩
  · cases held : game.getPlayerById ev.ping.playerId with
    | none => exact .inl ⟨handlePing_unknown held, .inr rfl⟩
    | some state => exact .inr ⟨state, invalid, rfl, handlePing_eq invalid held⟩

/-- A write to a held entry that leaves the identities alone shows in the
endpoints of no entry. -/
theorem endpoint_of_mem_update {f : PlayerState → PlayerState} (keeps : KeepsIdentity f)
    {id id' : UInt32} {state : PlayerState}
    (member : (id', state) ∈ (game.update id f).mPlayers.entries) :
    ∃ before, game.getPlayerById id' = some before ∧ state.endpoint = before.endpoint := by
  rcases UnorderedMap.mem_modify.mp member with ⟨before, held, rfl⟩
  refine ⟨before, getPlayerById_eq_some.mpr held, ?_⟩
  split
  · exact (keeps before).2
  · rfl

/-- Every event that returns keeps the registry in order. -/
theorem keyed_step {input : Env × Event} (keyed : game.Keyed)
    (stepped : step inet input game = .ok (after, out)) : after.Keyed := by
  obtain ⟨env, ev⟩ := input
  cases ev with
  | login ev =>
      obtain ⟨game', id, created, state, -, keyed', -, -, -, rfl⟩ := handleLogin_cases keyed stepped
      exact keyed'.of_directory_eq (directory_update (keepsIdentity_answered _) game' id)
  | ping ev =>
      rcases handlePing_cases inet env ev game with ⟨ran, -⟩ | ⟨state, -, -, ran⟩
      · cases ran.symm.trans stepped
        exact keyed
      · cases ran.symm.trans stepped
        exact keyed.of_directory_eq
          (directory_update (keepsIdentity_pinged env (pingReply inet env ev state)) ..)
  | acknowledge ev =>
      cases stepped
      exact keyed

theorem keyed_initial (params : Params) : GameState.Keyed { mParams := params } :=
  ⟨fun held => absurd held List.not_mem_nil, fun held => absurd held List.not_mem_nil⟩

theorem keyed_run {params : Params} {events : List (Env × Event)}
    (ran : Run.run (step inet) events { mParams := params } = .ok (game, out)) : game.Keyed :=
  Run.run_invariant keyed_step (keyed_initial params) ran

end Step

/-! ## Answers that reach the registered endpoint -/

/-- The event is handled for the player under `id`: a login of its endpoint, or
a ping with its id. -/
def Concerns (inet : Inet) : Event → UInt32 → PlayerState → Prop
  | .login ev, _, state => loginEndpoint inet ev = state.endpoint
  | .ping ev, id, _ => ev.ping.playerId = id
  | .acknowledge _, _, _ => False

/-- One datagram was handed to `SendMessage`, for the player's endpoint, and if
the event is a ping it acknowledges that. -/
def Reaches (ev : Event) (state : PlayerState) (out : List SendCall) : Prop :=
  ∃ call, out = [call] ∧ (call.address, call.port) = state.endpoint ∧
    ∀ ping, ev = .ping ping → ∃ ack : AcknowledgeMessage,
      ack.messageId = ping.ping.messageId ∧ Serializer.acknowledge.encode ack = .ok call.buffer

/-- An event for a registered player is handled, and the answer reaches that
player. -/
structure Answered (inet : Inet) (input : Env × Event) (game : GameState) : Prop where
  handled : ∀ {id state}, (id, state) ∈ game.mPlayers.entries → Concerns inet input.2 id state →
    ∃ after out, step inet input game = .ok (after, out)
  reply : ∀ {after out}, step inet input game = .ok (after, out) →
    ∀ {id state}, (id, state) ∈ after.mPlayers.entries → Concerns inet input.2 id state →
      Reaches input.2 state out

/-- A ping that names a player was sent from that player's registered port, and
not in the name of `kInvalidPlayer`. -/
def Aimed (ev : Event) (game : GameState) : Prop :=
  ∀ ping state, ev = .ping ping → game.getPlayerById ping.ping.playerId = some state →
    ping.ping.playerId ≠ kInvalidPlayer ∧ ping.msg.port = state.port

section Answers

variable {inet : Inet} {env : Env} {game : GameState}

theorem answered_login (keyed : game.Keyed) (ev : LoginEvent) :
    Answered inet (env, .login ev) game where
  handled held concerns := handleLogin_of_registered keyed (getPlayerById_eq_some.mpr held)
    (Eq.symm concerns)
  reply := by
    intro after out stepped id state member concerns
    obtain ⟨game', id', created, state', -, -, -, -, rfl, -⟩ := handleLogin_cases keyed stepped
    refine ⟨_, rfl, concerns, ?_⟩
    intro ping other
    cases other

theorem reaches_pingReply (inet : Inet) (env : Env) (ev : PingEvent) (state : PlayerState)
    (port : ev.msg.port = state.port) :
    Reaches (.ping ev) state [pingReply inet env ev state] := by
  refine ⟨_, rfl, Prod.ext rfl port, ?_⟩
  intro ping same
  cases same
  exact ⟨_, rfl, AcknowledgeMessage.encode_eq _⟩

theorem answered_ping_iff (ev : PingEvent) :
    Answered inet (env, .ping ev) game ↔ Aimed (.ping ev) game := by
  rcases handlePing_cases inet env ev game with ⟨ran, dropped⟩ | ⟨before, valid, held, ran⟩
  · -- no answer: right only if the ping names nobody
    constructor
    · intro reached ping state same held
      cases same
      rcases reached.reply ran (getPlayerById_eq_some.mp held) rfl with ⟨call, none, -⟩
      cases none
    · intro aimed
      refine ⟨fun _ _ => ⟨_, _, ran⟩, ?_⟩
      intro after out stepped id state member concerns
      cases ran.symm.trans stepped
      cases concerns
      have held := getPlayerById_eq_some.mpr member
      rcases dropped with invalid | unknown
      · exact absurd invalid (aimed ev state rfl held).1
      · cases unknown.symm.trans held
  · have keeps := keepsIdentity_pinged env (pingReply inet env ev before)
    constructor
    · intro reached ping state same held'
      cases same
      cases held.symm.trans held'
      have member := getPlayerById_update_self (fun state' =>
        answered (pingReply inet env ev before) (state'.seen env.now)) held
      rcases reached.reply ran (getPlayerById_eq_some.mp member) rfl with ⟨call, only, there, -⟩
      cases only
      exact ⟨valid, (congrArg Prod.snd there).trans (congrArg Prod.snd (keeps before).2)⟩
    · intro aimed
      refine ⟨fun _ _ => ⟨_, _, ran⟩, ?_⟩
      intro after out stepped id state member concerns
      cases ran.symm.trans stepped
      cases concerns
      rcases endpoint_of_mem_update keeps member with ⟨before', held', here⟩
      cases held.symm.trans held'
      obtain ⟨call, only, there, acknowledges⟩ :=
        reaches_pingReply inet env ev before (aimed ev before rfl held).2
      exact ⟨call, only, there.trans here.symm, acknowledges⟩

/-- An event is answered right unless it is a ping from elsewhere. -/
theorem answered_iff_aimed (keyed : game.Keyed) (ev : Event) :
    Answered inet (env, ev) game ↔ Aimed ev game := by
  cases ev with
  | login ev =>
      refine ⟨fun _ ping state same => ?_, fun _ => answered_login keyed ev⟩
      cases same
  | ping ev => exact answered_ping_iff ev
  | acknowledge ev =>
      refine ⟨fun _ ping state same => ?_, fun _ => ⟨fun _ concerns => concerns.elim, ?_⟩⟩
      · cases same
      · exact fun _ _ _ _ concerns => concerns.elim

end Answers

/-! ## Runs -/

/-- Something holds of each event of a run, at the registry that meets it. -/
def Throughout (inet : Inet) (params : Params) (events : List (Env × Event))
    (holds : Env × Event → GameState → Prop) : Prop :=
  ∀ past input rest, events = past ++ input :: rest → ∀ game sends,
    Run.run (step inet) past { mParams := params } = .ok (game, sends) → holds input game

/-- The answers of a run reach the registered endpoints if and only if its pings
come from there. -/
theorem replies_reach_registered_iff (inet : Inet) (params : Params)
    (events : List (Env × Event)) :
    Throughout inet params events (Answered inet) ↔
      Throughout inet params events fun input game => Aimed input.2 game := by
  constructor
  · intro answered past input rest split game sends ran
    exact (answered_iff_aimed (keyed_run ran) input.2).mp
      (answered past input rest split game sends ran)
  · intro aimed past input rest split game sends ran
    exact (answered_iff_aimed (keyed_run ran) input.2).mpr
      (aimed past input rest split game sends ran)

/-- A ping in the name of a player, sent from port 49152. -/
def pingFrom (address : Address) (playerId : UInt32) : Event :=
  .ping
    { msg := .received .dottedQuad ⟨address, 49152⟩ wrongHash
      action := .ping
      ping := { message := { action := .ping }, playerId := playerId } }

/-- A host that listens at port 8081 pings from another socket. -/
theorem ping_answered_elsewhere :
    ¬ Throughout .dottedQuad {} [({}, loginFrom ⟨10, 0, 0, 2⟩ 8081), ({}, pingFrom ⟨10, 0, 0, 2⟩ 1)]
      (Answered .dottedQuad) := by
  intro reached
  obtain ⟨game, sends, ran, registers⟩ :=
    run_registers .dottedQuad {} [({}, loginFrom ⟨10, 0, 0, 2⟩ 8081)] (by decide +kernel)
  have second := reached _ ({}, pingFrom ⟨10, 0, 0, 2⟩ 1) [] rfl _ _ ran
  have aimed := (answered_ping_iff _).mp second
  rcases registers.numbered.held (List.mem_singleton_self _) with ⟨state, held, here, -⟩
  have port := (aimed _ state rfl held).2
  exact absurd (port.trans (congrArg Prod.snd here)) (by decide)

end Server

end UdpGame
