import UdpGame.Server

/-!
# The server's registry

What a registry is for: to number the endpoints in the order of their first
login.  That list, `FirstCome.ofList`, is the abstract registry, and `Registers`
ties it to the hash map of the server.  As long as the ids last every event is
handled without a fault and keeps the tie (`registry_bijection`).
-/

namespace UdpGame

namespace Server

open GameState FirstCome

/-- The id of the endpoint at some place of the list. -/
def idAt (place : Nat) : UInt32 := UInt32.ofNat (place + 1)

/-- The directory of the endpoints of a list. -/
def roster (endpoints : List Endpoint) : List (UInt32 × Option Player × Endpoint) :=
  endpoints.mapIdx fun place endpoint => (idAt place, some { mId := idAt place }, endpoint)

/-- The registry holds the endpoints of the list and no others, under their
places. -/
structure Registers (endpoints : List Endpoint) (game : GameState) : Prop where
  distinct : endpoints.Nodup
  few : endpoints.length < 2 ^ 32 - 1
  directory : game.directory = roster endpoints
  next : game.mNextPlayerId = idAt endpoints.length

/-- The same of as many endpoints as the ids can tell apart. -/
structure Numbered (endpoints : List Endpoint) (game : GameState) : Prop where
  distinct : endpoints.Nodup
  room : endpoints.length ≤ 2 ^ 32
  directory : game.directory = roster endpoints
  next : game.mNextPlayerId = idAt endpoints.length

theorem toNat_idAt {place : Nat} (small : place < 2 ^ 32 - 1) : (idAt place).toNat = place + 1 :=
  UInt32.toNat_ofNat_of_lt' (by simp only [UInt32.size]; omega)

/-- The ids wrap around after `2 ^ 32` places. -/
theorem idAt_inj {place place' : Nat} (small : place < 2 ^ 32) (small' : place' < 2 ^ 32)
    (same : idAt place = idAt place') : place = place' := by
  have ids := congrArg UInt32.toNat same
  simp only [idAt, UInt32.toNat_ofNat'] at ids
  omega

theorem idAt_succ (place : Nat) : idAt place + 1 = idAt (place + 1) := by
  simp only [idAt, ← UInt32.ofNat_one, ← UInt32.ofNat_add]

theorem mem_roster {endpoints : List Endpoint} {id : UInt32} {player : Option Player}
    {endpoint : Endpoint} :
    (id, player, endpoint) ∈ roster endpoints ↔
      ∃ (place : Nat) (inside : place < endpoints.length), endpoints[place] = endpoint ∧
        id = idAt place ∧ player = some { mId := idAt place } := by
  simp only [roster, List.mem_mapIdx, Prod.mk.injEq]
  constructor
  · intro listed
    rcases listed with ⟨place, inside, rfl, rfl, rfl⟩
    exact ⟨place, inside, rfl, rfl, rfl⟩
  · intro placed
    rcases placed with ⟨place, inside, rfl, rfl, rfl⟩
    exact ⟨place, inside, rfl, rfl, rfl⟩

/-- A longer list keeps the entries of a shorter one. -/
theorem roster_subset {endpoints endpoints' : List Endpoint} (grown : endpoints <+: endpoints') :
    roster endpoints ⊆ roster endpoints' := by
  obtain ⟨rest, rfl⟩ := grown
  rw [roster, roster, List.mapIdx_append]
  exact List.subset_append_left ..

theorem roster_snoc (endpoints : List Endpoint) (endpoint : Endpoint) :
    roster (endpoints ++ [endpoint]) = roster endpoints ++
      [(idAt endpoints.length, some { mId := idAt endpoints.length }, endpoint)] := by
  simp only [roster, List.mapIdx_concat]

namespace Numbered

variable {endpoints : List Endpoint} {game : GameState}

theorem mem_iff (numbered : Numbered endpoints game) {id : UInt32} {state : PlayerState}
    (held : (id, state) ∈ game.mPlayers.entries) :
    ∃ (place : Nat) (inside : place < endpoints.length), endpoints[place] = state.endpoint ∧
      id = idAt place ∧ state.player = some { mId := idAt place } := by
  have member : (id, state.player, state.endpoint) ∈ game.directory :=
    mem_directory.mpr ⟨state, held, rfl, rfl⟩
  rw [numbered.directory] at member
  exact mem_roster.mp member

theorem keyed (numbered : Numbered endpoints game) : game.Keyed := by
  constructor
  · intro id state held
    rcases numbered.mem_iff held with ⟨place, -, -, rfl, player⟩
    exact player
  · intro id id' state state' held held' same
    rcases numbered.mem_iff held with ⟨place, inside, here, rfl, -⟩
    rcases numbered.mem_iff held' with ⟨place', inside', here', rfl, -⟩
    have places := (numbered.distinct.getElem_inj_iff).mp (here.trans (same.trans here'.symm))
    rw [places]

/-- The next id is not taken. -/
theorem free (numbered : Numbered endpoints game) (few : endpoints.length < 2 ^ 32) :
    game.getPlayerById game.mNextPlayerId = none := by
  cases held : game.getPlayerById game.mNextPlayerId with
  | none => rfl
  | some state =>
      rcases numbered.mem_iff (getPlayerById_eq_some.mp held) with ⟨place, inside, -, same, -⟩
      rw [numbered.next] at same
      have := idAt_inj few (by omega) same
      omega

/-- When all ids are given out the next one is the first again. -/
theorem taken (numbered : Numbered endpoints game) (full : endpoints.length = 2 ^ 32) :
    ∃ state, game.getPlayerById game.mNextPlayerId = some state := by
  have inside : 0 < endpoints.length := by omega
  have again : game.mNextPlayerId = idAt 0 := by
    rw [numbered.next, full]
    decide
  have listed : (idAt 0, some { mId := idAt 0 }, endpoints[0]) ∈ game.directory := by
    rw [numbered.directory]
    exact mem_roster.mpr ⟨0, inside, rfl, rfl, rfl⟩
  rcases mem_directory.mp listed with ⟨state, held, -, -⟩
  exact ⟨state, again ▸ getPlayerById_eq_some.mpr held⟩

theorem listed (numbered : Numbered endpoints game) {endpoint : Endpoint}
    (member : endpoint ∈ endpoints) :
    (idAt (endpoints.idxOf endpoint), some { mId := idAt (endpoints.idxOf endpoint) },
      endpoint) ∈ game.directory := by
  have inside := List.idxOf_lt_length_of_mem member
  rw [numbered.directory]
  exact mem_roster.mpr ⟨_, inside, List.getElem_idxOf inside, rfl, rfl⟩

/-- Each endpoint is found under its place. -/
theorem held (numbered : Numbered endpoints game) {endpoint : Endpoint}
    (member : endpoint ∈ endpoints) :
    ∃ state, game.getPlayerById (idAt (endpoints.idxOf endpoint)) = some state ∧
      state.endpoint = endpoint ∧
      state.player = some { mId := idAt (endpoints.idxOf endpoint) } := by
  rcases mem_directory.mp (numbered.listed member) with ⟨state, entry, player, here⟩
  exact ⟨state, getPlayerById_eq_some.mpr entry, here, player⟩

theorem absent (numbered : Numbered endpoints game) {endpoint : Endpoint}
    (new : endpoint ∉ endpoints) {id : UInt32} {state : PlayerState}
    (held : (id, state) ∈ game.mPlayers.entries) : state.endpoint ≠ endpoint := by
  intro here
  rcases numbered.mem_iff held with ⟨place, inside, listed, -⟩
  exact new (here ▸ listed ▸ List.getElem_mem inside)

theorem size (numbered : Numbered endpoints game) :
    game.mPlayers.size = endpoints.length := by
  have lengths := congrArg List.length numbered.directory
  rw [GameState.directory, roster, List.length_map, List.length_mapIdx] at lengths
  exact lengths

/-- A write that leaves the identities alone keeps the tie. -/
theorem update (numbered : Numbered endpoints game) {f : PlayerState → PlayerState}
    (keeps : KeepsIdentity f) (id : UInt32) : Numbered endpoints (game.update id f) :=
  ⟨numbered.distinct, numbered.room,
    (directory_update keeps game id).trans numbered.directory, numbered.next⟩

/-- Few endpoints have an id that is one more than their place. -/
theorem registers (numbered : Numbered endpoints game) (few : endpoints.length < 2 ^ 32 - 1) :
    Registers endpoints game :=
  ⟨numbered.distinct, few, numbered.directory, numbered.next⟩

end Numbered

namespace Registers

variable {endpoints : List Endpoint} {game : GameState}

theorem numbered (registers : Registers endpoints game) : Numbered endpoints game :=
  ⟨registers.distinct, Nat.le_trans (Nat.le_of_lt registers.few) (by omega), registers.directory,
    registers.next⟩

theorem next_eq (registers : Registers endpoints game) :
    game.mNextPlayerId.toNat = game.mPlayers.size + 1 := by
  rw [registers.next, toNat_idAt registers.few, registers.numbered.size]

end Registers

/-! ## One event -/

section Step

variable {inet : Inet} {endpoints : List Endpoint} {game : GameState} {env : Env}

/-- `CreatePlayer` enrols the endpoint and returns its place. -/
theorem createPlayer_of_numbered (env : Env) (numbered : Numbered endpoints game)
    {endpoint : Endpoint} (room : (enrol endpoints endpoint).length ≤ 2 ^ 32) :
    ∃ created game' state,
      game.createPlayer env endpoint.1 endpoint.2 =
        .ok (idAt ((enrol endpoints endpoint).idxOf endpoint), created, game') ∧
      game'.getPlayerById (idAt ((enrol endpoints endpoint).idxOf endpoint)) = some state ∧
      state.player = some { mId := idAt ((enrol endpoints endpoint).idxOf endpoint) } ∧
      Numbered (enrol endpoints endpoint) game' := by
  by_cases member : endpoint ∈ endpoints
  · rcases numbered.held member with ⟨state, held, here, player⟩
    rw [enrol_of_mem member]
    exact ⟨_, _, state, createPlayer_of_registered env numbered.keyed held here, held, player,
      numbered⟩
  · have few : endpoints.length < 2 ^ 32 := by
      rw [enrol_of_not_mem member, List.length_append, List.length_singleton] at room
      omega
    have free := numbered.free few
    have place : (enrol endpoints endpoint).idxOf endpoint = endpoints.length := by
      rw [enrol_of_not_mem member, List.idxOf_append_of_notMem member]
      simp
    have id : game.mNextPlayerId = idAt ((enrol endpoints endpoint).idxOf endpoint) := by
      rw [place, numbered.next]
    refine ⟨true, game.enter env endpoint, freshState env game.mNextPlayerId endpoint, ?_, ?_, ?_,
      nodup_enrol numbered.distinct endpoint, room, ?_, ?_⟩
    · rw [← id]
      exact createPlayer_of_new env (numbered.absent member) free
    · rw [← id]
      exact getPlayerById_enter_self env free
    · rw [← id]
      rfl
    · rw [directory_enter env free, numbered.directory, enrol_of_not_mem member,
        roster_snoc, numbered.next]
    · rw [enrol_of_not_mem member, List.length_append, List.length_singleton, ← idAt_succ,
        ← numbered.next]
      rfl

/-- One endpoint more than there are ids trips the assertion. -/
theorem createPlayer_of_full (env : Env) (numbered : Numbered endpoints game)
    {endpoint : Endpoint} (full : 2 ^ 32 < (enrol endpoints endpoint).length) :
    game.createPlayer env endpoint.1 endpoint.2 = .error .assertion := by
  have room := numbered.room
  by_cases member : endpoint ∈ endpoints
  · rw [enrol_of_mem member] at full
    omega
  · rw [enrol_of_not_mem member, List.length_append, List.length_singleton] at full
    rcases numbered.taken (by omega) with ⟨state, clash⟩
    exact createPlayer_of_taken env (numbered.absent member) clash

theorem handleLogin_of_numbered (env : Env) (numbered : Numbered endpoints game)
    {ev : LoginEvent} (room : (enrol endpoints (loginEndpoint inet ev)).length ≤ 2 ^ 32) :
    ∃ game' messageId,
      handleLogin inet env ev game = .ok (game', [loginReply inet env ev
        (idAt ((enrol endpoints (loginEndpoint inet ev)).idxOf (loginEndpoint inet ev)))
        messageId]) ∧
      Numbered (enrol endpoints (loginEndpoint inet ev)) game' := by
  obtain ⟨created, game', state, entry, held, player, kept⟩ :=
    createPlayer_of_numbered env numbered room
  exact ⟨_, _, handleLogin_eq entry held player, kept.update (keepsIdentity_answered _) _⟩

theorem handlePing_of_numbered (numbered : Numbered endpoints game) (ev : PingEvent) :
    ∃ game' sends, handlePing inet env ev game = .ok (game', sends) ∧
      Numbered endpoints game' := by
  by_cases invalid : ev.ping.playerId = kInvalidPlayer
  · exact ⟨_, _, handlePing_invalid invalid, numbered⟩
  cases held : game.getPlayerById ev.ping.playerId with
  | none => exact ⟨_, _, handlePing_unknown held, numbered⟩
  | some state =>
      exact ⟨_, _, handlePing_eq invalid held, numbered.update (keepsIdentity_pinged env _) _⟩

end Step

/-! ## Runs -/

/-- The endpoint an event logs in, if it is a login. -/
def login? (inet : Inet) : Env × Event → Option Endpoint
  | (_, .login ev) => some (loginEndpoint inet ev)
  | _ => none

/-- The endpoints that log in in a run, in order and with repetitions. -/
def logins (inet : Inet) (events : List (Env × Event)) : List Endpoint :=
  events.filterMap (login? inet)

/-- The registry after a run: the endpoints in the order of their first
login. -/
def registered (inet : Inet) (events : List (Env × Event)) : List Endpoint :=
  ofList (logins inet events)

theorem registered_snoc (inet : Inet) (past : List (Env × Event)) (input : Env × Event) :
    registered inet (past ++ [input]) =
      (login? inet input).elim (registered inet past) (enrol (registered inet past)) := by
  rw [registered, logins, List.filterMap_append, List.filterMap_cons, List.filterMap_nil]
  cases login? inet input with
  | none => rw [List.append_nil, registered, logins, Option.elim_none]
  | some endpoint => rw [ofList_snoc, registered, logins, Option.elim_some]

/-- The registry only grows. -/
theorem length_registered_append (inet : Inet) (past later : List (Env × Event)) :
    (registered inet past).length ≤ (registered inet (past ++ later)).length := by
  have grown := (prefix_ofList_append (logins inet past) (logins inet later)).length_le
  rw [registered, registered, logins, logins, List.filterMap_append]
  exact grown

theorem step_of_numbered {inet : Inet} {endpoints : List Endpoint} {game : GameState}
    (input : Env × Event) (numbered : Numbered endpoints game)
    (room : ((login? inet input).elim endpoints (enrol endpoints)).length ≤ 2 ^ 32) :
    ∃ game' sends, step inet input game = .ok (game', sends) ∧
      Numbered ((login? inet input).elim endpoints (enrol endpoints)) game' := by
  obtain ⟨env, ev⟩ := input
  cases ev with
  | login ev =>
      rcases handleLogin_of_numbered env numbered room with ⟨game', messageId, ran, kept⟩
      exact ⟨game', _, ran, kept⟩
  | ping ev => exact handlePing_of_numbered numbered ev
  | acknowledge ev => exact ⟨game, [], rfl, numbered⟩

/-- An event that returns found room for its endpoint. -/
theorem room_of_step {inet : Inet} {endpoints : List Endpoint} {game game' : GameState}
    {input : Env × Event} {sends : List SendCall} (numbered : Numbered endpoints game)
    (stepped : step inet input game = .ok (game', sends)) :
    ((login? inet input).elim endpoints (enrol endpoints)).length ≤ 2 ^ 32 := by
  obtain ⟨env, ev⟩ := input
  cases ev with
  | login ev =>
      by_contra full
      have failed := createPlayer_of_full env numbered (Nat.not_le.mp full)
      cases (handleLogin_of_error failed).symm.trans stepped
  | ping ev => exact numbered.room
  | acknowledge ev => exact numbered.room

theorem numbered_initial (params : Params) : Numbered [] { mParams := params } :=
  ⟨List.nodup_nil, by simp, rfl, rfl⟩

/-- A run whose endpoints have room returns. -/
theorem run_numbered (inet : Inet) (params : Params) (events : List (Env × Event))
    (room : (registered inet events).length ≤ 2 ^ 32) :
    ∃ game sends, Run.run (step inet) events { mParams := params } = .ok (game, sends) ∧
      Numbered (registered inet events) game := by
  induction events using List.reverseRecOn with
  | nil => exact ⟨_, _, rfl, numbered_initial params⟩
  | append_singleton past input ih =>
      rcases ih (Nat.le_trans (length_registered_append inet past [input]) room) with
        ⟨game, sends, ran, numbered⟩
      rw [registered_snoc] at room ⊢
      rcases step_of_numbered input numbered room with ⟨game', out, stepped, kept⟩
      exact ⟨game', sends ++ out, Run.run_snoc_eq_ok.mpr ⟨game, sends, out, ran, stepped, rfl⟩,
        kept⟩

/-- A run that returns has numbered its endpoints. -/
theorem numbered_of_run {inet : Inet} {params : Params} {events : List (Env × Event)}
    {game : GameState} {sends : List SendCall}
    (ran : Run.run (step inet) events { mParams := params } = .ok (game, sends)) :
    Numbered (registered inet events) game := by
  refine Run.run_induction (motive := fun past _ game => Numbered (registered inet past) game)
    (numbered_initial params) ?_ ran
  intro past outs game input game' out _ numbered stepped
  rw [registered_snoc]
  rcases step_of_numbered input numbered (room_of_step numbered stepped) with
    ⟨after, sends, ran, kept⟩
  cases ran.symm.trans stepped
  exact kept

theorem run_registers (inet : Inet) (params : Params) (events : List (Env × Event))
    (few : (registered inet events).length < 2 ^ 32 - 1) :
    ∃ game sends, Run.run (step inet) events { mParams := params } = .ok (game, sends) ∧
      Registers (registered inet events) game := by
  rcases run_numbered inet params events (by omega) with ⟨game, sends, ran, numbered⟩
  exact ⟨game, sends, ran, numbered.registers few⟩

/-! ## The bijection -/

/-- The 1-based rank of an endpoint's first login. -/
def rank (inet : Inet) (events : List (Env × Event)) (endpoint : Endpoint) : UInt32 :=
  idAt ((registered inet events).idxOf endpoint)

theorem mem_registered {inet : Inet} {events : List (Env × Event)} {endpoint : Endpoint} :
    endpoint ∈ registered inet events ↔ endpoint ∈ logins inet events := mem_ofList

/-- What happens later does not change a rank. -/
theorem rank_append {inet : Inet} {past : List (Env × Event)} {endpoint : Endpoint}
    (logged : endpoint ∈ registered inet past) (later : List (Env × Event)) :
    rank inet (past ++ later) endpoint = rank inet past endpoint := by
  rcases prefix_ofList_append (logins inet past) (logins inet later) with ⟨rest, extended⟩
  have whole : registered inet (past ++ later) = registered inet past ++ rest := by
    rw [registered, logins, List.filterMap_append]
    exact extended.symm
  rw [rank, whole, List.idxOf_append_of_mem logged, rank]

/-- The registry pairs the ranks with the endpoints that have logged in. -/
structure Ranked (inet : Inet) (events : List (Env × Event)) (game : GameState) : Prop where
  held : ∀ endpoint ∈ logins inet events, ∃ state,
    (rank inet events endpoint, state) ∈ game.mPlayers.entries ∧ state.endpoint = endpoint
  only : ∀ {id state}, (id, state) ∈ game.mPlayers.entries →
    state.endpoint ∈ logins inet events ∧ id = rank inet events state.endpoint ∧
      state.player.map Player.getId = some id
  size : game.mPlayers.size = (registered inet events).length
  next : game.mNextPlayerId.toNat = game.mPlayers.size + 1
  order : ∀ (env : Env) (order : IterationOrder) (endpoint : Endpoint),
    game.createPlayer { env with order := order } endpoint.1 endpoint.2 =
      game.createPlayer env endpoint.1 endpoint.2

theorem Registers.ranked {inet : Inet} {events : List (Env × Event)} {game : GameState}
    (registers : Registers (registered inet events) game) : Ranked inet events game where
  held endpoint logged := by
    rcases registers.numbered.held (mem_registered.mpr logged) with ⟨state, held, here, -⟩
    exact ⟨state, getPlayerById_eq_some.mp held, here⟩
  only := by
    intro id state held
    rcases registers.numbered.mem_iff held with ⟨place, inside, here, rfl, player⟩
    have logged : state.endpoint ∈ registered inet events := here ▸ List.getElem_mem inside
    refine ⟨mem_registered.mp logged, ?_, by rw [player]; rfl⟩
    rw [rank, ← here, registers.distinct.idxOf_getElem]
  size := registers.numbered.size
  next := registers.next_eq
  order env order endpoint := createPlayer_order env registers.numbered.keyed order endpoint

/-- The registry after any run, and what each of its events did on the way: a
login is answered with its endpoint's rank in the whole run, and only a first
login touches the directory. -/
theorem registry_bijection (inet : Inet) (params : Params) (events : List (Env × Event))
    (few : (registered inet events).length < 2 ^ 32 - 1) :
    (∃ game sends, Run.run (step inet) events { mParams := params } = .ok (game, sends) ∧
      Ranked inet events game) ∧
    ∀ past input rest, events = past ++ input :: rest →
      ∃ before sends after out,
        Run.run (step inet) past { mParams := params } = .ok (before, sends) ∧
        step inet input before = .ok (after, out) ∧
        (∀ env ev, input = (env, .login ev) → ∃ messageId,
          out = [loginReply inet env ev (rank inet events (loginEndpoint inet ev)) messageId]) ∧
        ((∀ endpoint, login? inet input = some endpoint → endpoint ∈ logins inet past) →
          after.directory = before.directory) := by
  constructor
  · rcases run_registers inet params events few with ⟨game, sends, ran, registers⟩
    exact ⟨game, sends, ran, registers.ranked⟩
  · rintro past input rest rfl
    rw [List.append_cons] at few
    have fewer := Nat.lt_of_le_of_lt (length_registered_append inet (past ++ [input]) rest) few
    rcases run_registers inet params past (Nat.lt_of_le_of_lt
      (length_registered_append inet past [input]) fewer) with ⟨before, sends, ran, registers⟩
    rw [registered_snoc] at fewer
    have room := Nat.le_trans (Nat.le_of_lt fewer) (Nat.sub_le ..)
    rcases step_of_numbered input registers.numbered room with ⟨after, out, stepped, kept⟩
    refine ⟨before, sends, after, out, ran, stepped, ?_, ?_⟩
    · rintro env ev rfl
      rcases handleLogin_of_numbered env registers.numbered room with
        ⟨game', messageId, replied, -⟩
      have same := stepped.symm.trans replied
      rw [Except.ok.injEq, Prod.mk.injEq] at same
      have logged : loginEndpoint inet ev ∈ registered inet (past ++ [(env, .login ev)]) := by
        rw [registered_snoc]
        exact mem_enrol.mpr (.inr rfl)
      refine ⟨messageId, ?_⟩
      rw [List.append_cons, rank_append logged, rank, registered_snoc, same.2]
      rfl
    · intro again
      rw [kept.directory, registers.directory]
      cases logged : login? inet input with
      | none => rfl
      | some endpoint =>
          rw [Option.elim_some, enrol_of_mem (mem_registered.mpr (again endpoint logged))]

/-- A login of the host at some address and port, sent from another port. -/
def loginFrom (address : Address) (port : UInt16) : Event :=
  .login
    { msg := .received .dottedQuad ⟨address, 49152⟩ wrongHash
      action := .login
      login := { message := { action := .login }, address := address, port := port } }

/-- Two hosts log in, the first one twice. -/
def twoHosts : List (Env × Event) :=
  [({}, loginFrom ⟨10, 0, 0, 2⟩ 8081), ({}, loginFrom ⟨10, 0, 0, 3⟩ 8081),
    ({}, loginFrom ⟨10, 0, 0, 2⟩ 8081)]

theorem registry_bijection_two_hosts :
    ∃ game sends, Run.run (step .dottedQuad) twoHosts {} = .ok (game, sends) ∧
      Ranked .dottedQuad twoHosts game ∧ game.mPlayers.size = 2 := by
  have two : (registered .dottedQuad twoHosts).length = 2 := by decide +kernel
  obtain ⟨⟨game, sends, ran, ranked⟩, -⟩ :=
    registry_bijection .dottedQuad {} twoHosts (by rw [two]; omega)
  exact ⟨game, sends, ran, ranked, ranked.size.trans two⟩

end Server

end UdpGame
