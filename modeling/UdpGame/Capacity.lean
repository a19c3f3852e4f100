import UdpGame.Registry
import UdpGame.Replies

/-!
# Capacity

How many players a server takes.  Nothing but the width of the id counter limits
it: a run returns as long as no more than `2 ^ 32` endpoints log in
(`run_returns_iff`), whatever `maxPlayers` says (`player_limit_iff`), and the
last but one of them is handed the id that stands for no player
(`allocation_iff`).
-/

namespace UdpGame

namespace Server

open GameState FirstCome

/-! ## How far a run gets -/

/-- A run returns if and only if the ids tell its endpoints apart. -/
theorem run_returns_iff (inet : Inet) (params : Params) (events : List (Env × Event)) :
    (∃ game sends, Run.run (step inet) events { mParams := params } = .ok (game, sends)) ↔
      (registered inet events).length ≤ 2 ^ 32 := by
  constructor
  · intro returned
    rcases returned with ⟨game, sends, ran⟩
    exact (numbered_of_run ran).room
  · intro room
    rcases run_numbered inet params events room with ⟨game, sends, ran, -⟩
    exact ⟨game, sends, ran⟩

/-- The login that finds a given number of endpoints registered. -/
theorem exists_login_at {inet : Inet} {events : List (Env × Event)} {count : Nat}
    (more : count < (registered inet events).length) :
    ∃ past env ev rest, events = past ++ (env, .login ev) :: rest ∧
      loginEndpoint inet ev ∉ registered inet past ∧ (registered inet past).length = count := by
  induction events using List.reverseRecOn with
  | nil => exact absurd more (Nat.not_lt_zero _)
  | append_singleton past input ih =>
      by_cases before : count < (registered inet past).length
      · rcases ih before with ⟨past', env, ev, rest, rfl, new, here⟩
        exact ⟨past', env, ev, rest ++ [input], by simp, new, here⟩
      · obtain ⟨env, ev⟩ := input
        rw [registered_snoc] at more
        cases ev with
        | ping ev => exact absurd more before
        | acknowledge ev => exact absurd more before
        | login ev =>
            simp only [login?, Option.elim_some] at more
            by_cases member : loginEndpoint inet ev ∈ registered inet past
            · rw [enrol_of_mem member] at more
              exact absurd more before
            · rw [enrol_of_not_mem member, List.length_append, List.length_singleton] at more
              exact ⟨past, env, ev, [], rfl, member, by omega⟩

/-! ## Ids -/

/-- A login gets an id that stands for a player, and leaves the entries of other
endpoints to them. -/
structure Allocates (inet : Inet) (env : Env) (ev : LoginEvent) (game : GameState) : Prop where
  inserted : ∃ id created game',
    game.createPlayer env (loginEndpoint inet ev).1 (loginEndpoint inet ev).2 =
      .ok (id, created, game')
  valid : ∀ {id created game'},
    game.createPlayer env (loginEndpoint inet ev).1 (loginEndpoint inet ev).2 =
      .ok (id, created, game') → id ≠ kInvalidPlayerId ∧ id ≠ kInvalidSession
  kept : ∀ {after out}, handleLogin inet env ev game = .ok (after, out) →
    ∀ {id state}, (id, state) ∈ game.mPlayers.entries → state.endpoint ≠ loginEndpoint inet ev →
      ∃ state', (id, state') ∈ after.mPlayers.entries ∧ state'.player = state.player ∧
        state'.address = state.address ∧ state'.port = state.port

theorem idAt_ne_invalid {place : Nat} (small : place < 2 ^ 32 - 2) :
    idAt place ≠ kInvalidPlayerId ∧ idAt place ≠ kInvalidSession := by
  have id : (idAt place).toNat = place + 1 := toNat_idAt (by omega)
  have differs : idAt place ≠ UInt32.ofNat (2 ^ 32 - 1) := by
    intro same
    rw [same, UInt32.toNat_ofNat'] at id
    omega
  exact ⟨differs, differs⟩

/-- With ids to spare a login allocates as it should. -/
theorem allocates_of_numbered {inet : Inet} (env : Env) {ev : LoginEvent} {game : GameState}
    {endpoints : List Endpoint} (numbered : Numbered endpoints game)
    (few : (enrol endpoints (loginEndpoint inet ev)).length < 2 ^ 32 - 1) :
    Allocates inet env ev game := by
  have room : (enrol endpoints (loginEndpoint inet ev)).length ≤ 2 ^ 32 := by omega
  have place := List.idxOf_lt_length_of_mem
    (mem_enrol.mpr (.inr rfl) : loginEndpoint inet ev ∈ enrol endpoints (loginEndpoint inet ev))
  obtain ⟨created, game', state, entry, -, -, -⟩ := createPlayer_of_numbered env numbered room
  refine ⟨⟨_, _, _, entry⟩, ?_, ?_⟩
  · intro id created' game'' ran
    cases entry.symm.trans ran
    exact idAt_ne_invalid (by omega)
  · intro after out handled id state held _
    rcases handleLogin_of_numbered env numbered room with ⟨after', messageId, ran, kept⟩
    cases ran.symm.trans handled
    have grown : game.directory ⊆ after.directory := by
      rw [kept.directory, numbered.directory]
      exact roster_subset (prefix_enrol endpoints _)
    rcases exists_entry_of_subset grown held with ⟨state', held', player, endpoint⟩
    exact ⟨state', held', player, congrArg Prod.fst endpoint, congrArg Prod.snd endpoint⟩

/-- The last id before the counter wraps around is the invalid one. -/
theorem not_allocates_of_numbered {inet : Inet} (env : Env) {ev : LoginEvent} {game : GameState}
    {endpoints : List Endpoint} (numbered : Numbered endpoints game)
    (new : loginEndpoint inet ev ∉ endpoints) (last : endpoints.length = 2 ^ 32 - 2) :
    ¬ Allocates inet env ev game := by
  intro allocates
  have entry := createPlayer_of_new env (numbered.absent new) (numbered.free (by omega))
  have invalid : game.mNextPlayerId = kInvalidPlayerId := by
    rw [numbered.next, last]
    rfl
  exact (allocates.valid entry).1 invalid

/-- When too many endpoints log in, one of them gets the invalid id. -/
theorem few_of_allocates {inet : Inet} {params : Params} {events : List (Env × Event)}
    (allocates : Throughout inet params events fun input game =>
      ∀ ev, input.2 = .login ev → Allocates inet input.1 ev game) :
    (registered inet events).length < 2 ^ 32 - 1 := by
  by_contra many
  have more : 2 ^ 32 - 2 < (registered inet events).length := by omega
  obtain ⟨past, env, ev, rest, split, new, last⟩ := exists_login_at more
  rcases run_numbered inet params past (by omega) with ⟨game, sends, ran, numbered⟩
  exact not_allocates_of_numbered env numbered new last
    (allocates past (env, .login ev) rest split game sends ran ev rfl)

/-- The logins of a run get their ids as they should if and only if fewer than
`2 ^ 32 - 1` endpoints log in. -/
theorem allocation_iff (inet : Inet) (params : Params) (events : List (Env × Event)) :
    (Throughout inet params events fun input game =>
        ∀ ev, input.2 = .login ev → Allocates inet input.1 ev game) ↔
      (registered inet events).length < 2 ^ 32 - 1 := by
  constructor
  · exact few_of_allocates
  · intro few past input rest split game sends ran ev login
    obtain ⟨env, ev'⟩ := input
    cases login
    refine allocates_of_numbered env (numbered_of_run ran) (Nat.lt_of_le_of_lt ?_ few)
    have grown := length_registered_append inet (past ++ [(env, .login ev)]) rest
    rw [← List.append_cons, ← split, registered_snoc] at grown
    exact grown

/-! ## Hosts by the number -/

/-- The address of the host with some number. -/
def hostAddress (host : Nat) : Address :=
  ⟨UInt8.ofNat (host / 2 ^ 24), UInt8.ofNat (host / 2 ^ 16), UInt8.ofNat (host / 2 ^ 8),
    UInt8.ofNat host⟩

/-- The first hosts log in one after another. -/
def hosts (count : Nat) : List (Env × Event) :=
  (List.range count).map fun host => ({}, loginFrom (hostAddress host) 8081)

theorem hostAddress_inj {host host' : Nat} (small : host < 2 ^ 32) (small' : host' < 2 ^ 32)
    (same : hostAddress host = hostAddress host') : host = host' := by
  simp only [hostAddress, Address.mk.injEq, ← UInt8.toNat_inj, UInt8.toNat_ofNat'] at same
  omega

theorem length_registered_hosts {count : Nat} (room : count ≤ 2 ^ 32) :
    (registered .dottedQuad (hosts count)).length = count := by
  have listed : logins .dottedQuad (hosts count) = (List.range count).map fun host =>
      (addressToString .dottedQuad (hostAddress host), (8081 : UInt32)) := by
    rw [logins, hosts, List.filterMap_map, ← List.filterMap_eq_map]
    rfl
  have distinct : (logins .dottedQuad (hosts count)).Nodup := by
    rw [listed]
    refine List.Nodup.map_on ?_ List.nodup_range
    intro host member host' member' same
    have small := List.mem_range.mp member
    have small' := List.mem_range.mp member'
    exact hostAddress_inj (by omega) (by omega)
      (Inet.dottedQuad.ntop_injective (congrArg Prod.fst same))
  rw [registered, ofList_of_nodup distinct, listed, List.length_map, List.length_range]

/-- The last of `2 ^ 32 - 1` hosts is handed the invalid id. -/
theorem many_hosts_exhaust_ids :
    ¬ Throughout .dottedQuad {} (hosts (2 ^ 32 - 1)) fun input game =>
      ∀ ev, input.2 = .login ev → Allocates .dottedQuad input.1 ev game := by
  intro allocates
  have few := few_of_allocates allocates
  rw [length_registered_hosts (by omega)] at few
  exact absurd few (Nat.lt_irrefl _)

/-! ## The player limit -/

/-- No state of the run has more players than its parameters allow. -/
def Limited (inet : Inet) (params : Params) (events : List (Env × Event)) : Prop :=
  ∀ past rest, events = past ++ rest → ∀ game sends,
    Run.run (step inet) past { mParams := params } = .ok (game, sends) →
      game.mPlayers.size ≤ game.mParams.maxPlayers.toNat

/-- The parameters of a server stay what they are. -/
theorem mParams_of_run {inet : Inet} {params : Params} {events : List (Env × Event)}
    {game : GameState} {sends : List SendCall}
    (ran : Run.run (step inet) events { mParams := params } = .ok (game, sends)) :
    game.mParams = params := by
  refine Run.run_induction (motive := fun _ _ game => game.mParams = params) rfl ?_ ran
  intro past outs game input after out before kept stepped
  have keyed := keyed_run before
  obtain ⟨env, ev⟩ := input
  cases ev with
  | login ev =>
      obtain ⟨game', id, created, state, entry, -, -, -, -, rfl⟩ := handleLogin_cases keyed stepped
      rcases createPlayer_cases env keyed entry with ⟨-, -, -, -, rfl⟩ | ⟨-, -, -, -, rfl⟩
      · exact kept
      · exact kept
  | ping ev =>
      rcases handlePing_cases inet env ev game with ⟨handled, -⟩ | ⟨state, -, -, handled⟩
      · cases handled.symm.trans stepped
        exact kept
      · cases handled.symm.trans stepped
        exact kept
  | acknowledge ev =>
      cases stepped
      exact kept

/-- The login that finds the server full is let in. -/
theorem within_of_limited {inet : Inet} {params : Params} {events : List (Env × Event)}
    (limited : Limited inet params events) :
    (registered inet events).length ≤ params.maxPlayers.toNat := by
  by_contra many
  rw [Nat.not_le] at many
  obtain ⟨past, env, ev, rest, split, new, full⟩ := exists_login_at many
  have one : (registered inet (past ++ [(env, .login ev)])).length =
      params.maxPlayers.toNat + 1 := by
    rw [registered_snoc]
    simp only [login?, Option.elim_some]
    rw [enrol_of_not_mem new, List.length_append, full, List.length_singleton]
  have room := params.maxPlayers.toNat_lt
  rcases run_numbered inet params (past ++ [(env, .login ev)]) (by omega) with
    ⟨game, sends, ran, numbered⟩
  have size := limited (past ++ [(env, .login ev)]) rest (split.trans (List.append_cons ..))
    game sends ran
  rw [mParams_of_run ran, numbered.size, one] at size
  omega

/-- A run stays within the limit if and only if no more endpoints log in. -/
theorem player_limit_iff (inet : Inet) (params : Params) (events : List (Env × Event)) :
    Limited inet params events ↔
      (registered inet events).length ≤ params.maxPlayers.toNat := by
  constructor
  · exact within_of_limited
  · intro within past rest split game sends ran
    rw [mParams_of_run ran, (numbered_of_run ran).size]
    exact Nat.le_trans (split ▸ length_registered_append inet past rest) within

/-- Nine hosts on a server for the default of eight players. -/
theorem nine_hosts_exceed_limit : ¬ Limited .dottedQuad {} (hosts 9) := by
  intro limited
  have within := within_of_limited limited
  rw [length_registered_hosts (by omega)] at within
  exact absurd within (by decide)

end Server

end UdpGame
