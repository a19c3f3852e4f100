import UdpGame.Replies
import UdpGame.Lib.Cells

/-!
# Isolation

Players do not get in each other's way.  As long as no new endpoint logs in, an
event concerns at most one entry of the registry and reacts to that entry alone:
the registry is a map of `Cells`, and in which order the events of different
players come does not show (`isolation`).
-/

namespace UdpGame

namespace Server

open GameState

/-! ## Whose event it is -/

instance (inet : Inet) (ev : Event) (id : UInt32) (state : PlayerState) :
    Decidable (Concerns inet ev id state) :=
  match ev with
  | .login ev => inferInstanceAs (Decidable (loginEndpoint inet ev = state.endpoint))
  | .ping ev => inferInstanceAs (Decidable (ev.ping.playerId = id))
  | .acknowledge _ => inferInstanceAs (Decidable False)

/-- If the event is a login, its endpoint is registered. -/
def Known (inet : Inet) (game : GameState) (input : Env × Event) : Prop :=
  ∀ endpoint, login? inet input = some endpoint →
    ∃ id state, (id, state) ∈ game.mPlayers.entries ∧ state.endpoint = endpoint

/-- The events that concern a player, in order. -/
def eventsOf (inet : Inet) (id : UInt32) (state : PlayerState) (events : List (Env × Event)) :
    List (Env × Event) :=
  events.filter fun input => Concerns inet input.2 id state

/-- The datagrams that a run hands to `SendMessage` for a player. -/
def sentTo (inet : Inet) (id : UInt32) (state : PlayerState) :
    List (Env × Event) → GameState → List SendCall
  | [], _ => []
  | input :: inputs, game =>
      match step inet input game with
      | .error _ => []
      | .ok (after, out) =>
          (if Concerns inet input.2 id state then out else []) ++
            sentTo inet id state inputs after

/-! ## The registry as cells -/

/-- The entry an event is for. -/
def owner (inet : Inet) (directory : List (UInt32 × Option Player × Endpoint)) :
    Env × Event → Option UInt32
  | (_, .login ev) =>
      (directory.find? fun entry => entry.2.2 = loginEndpoint inet ev).map Prod.fst
  | (_, .ping ev) => some ev.ping.playerId
  | (_, .acknowledge _) => none

/-- What a handler does to the entry it finds. -/
def react (inet : Inet) (id : UInt32) : Env × Event → PlayerState → PlayerState × List SendCall
  | (env, .login ev), state =>
      let call := loginReply inet env ev id state.nextMessage
      (answered call state, [call])
  | (env, .ping ev), state =>
      if ev.ping.playerId = kInvalidPlayer then (state, [])
      else
        let call := pingReply inet env ev state
        (answered call (state.seen env.now), [call])
  | (_, .acknowledge _), state => (state, [])

def cells (inet : Inet) (directory : List (UInt32 × Option Player × Endpoint)) :
    Cells UInt32 PlayerState (Env × Event) SendCall where
  owner := owner inet directory
  react := react inet

section Cells

variable {inet : Inet} {game : GameState}

theorem keepsIdentity_react (inet : Inet) (id : UInt32) (input : Env × Event) :
    KeepsIdentity fun state => (react inet id input state).1 := by
  intro state
  obtain ⟨env, ev⟩ := input
  cases ev with
  | login ev => exact keepsIdentity_answered _ state
  | ping ev =>
      simp only [react]
      split
      · exact ⟨rfl, rfl⟩
      · exact keepsIdentity_answered _ (state.seen env.now)
  | acknowledge ev => exact ⟨rfl, rfl⟩

theorem owner_login (keyed : game.Keyed) {id : UInt32} {state : PlayerState}
    (held : (id, state) ∈ game.mPlayers.entries) (env : Env) (ev : LoginEvent) :
    owner inet game.directory (env, .login ev) = some id ↔
      loginEndpoint inet ev = state.endpoint := by
  have listed : (id, state.player, state.endpoint) ∈ game.directory :=
    mem_directory.mpr ⟨state, held, rfl, rfl⟩
  rw [owner, Option.map_eq_some_iff]
  constructor
  · intro found
    rcases found with ⟨⟨key, player, endpoint⟩, search, rfl⟩
    have here := List.find?_some search
    rw [decide_eq_true_eq] at here
    rcases mem_directory.mp (List.mem_of_find?_eq_some search) with ⟨state', held', -, rfl⟩
    rw [UnorderedMap.eq_of_mem held held']
    exact here.symm
  · intro here
    cases search : game.directory.find? fun entry => entry.2.2 = loginEndpoint inet ev with
    | none => exact absurd (decide_eq_true here.symm) (List.find?_eq_none.mp search _ listed)
    | some entry =>
        obtain ⟨key, player, endpoint⟩ := entry
        have there := List.find?_some search
        rw [decide_eq_true_eq] at there
        exact ⟨_, rfl, (keyed_iff.mp keyed).2 (List.mem_of_find?_eq_some search)
          (there.trans here ▸ listed)⟩

/-- An entry owns the events that concern it. -/
theorem owner_eq_some_iff (keyed : game.Keyed) {id : UInt32} {state : PlayerState}
    (held : (id, state) ∈ game.mPlayers.entries) (input : Env × Event) :
    owner inet game.directory input = some id ↔ Concerns inet input.2 id state := by
  obtain ⟨env, ev⟩ := input
  cases ev with
  | login ev => exact owner_login keyed held env ev
  | ping ev => exact Option.some_inj
  | acknowledge ev =>
      simp only [owner, Concerns, reduceCtorEq]

theorem share_eq_eventsOf (keyed : game.Keyed) {id : UInt32} {state : PlayerState}
    (held : (id, state) ∈ game.mPlayers.entries) (events : List (Env × Event)) :
    (cells inet game.directory).share id events = eventsOf inet id state events := by
  apply List.filter_congr
  intro input _
  rw [decide_eq_decide]
  exact owner_eq_some_iff keyed held input

/-- The server after an input of its cells. -/
def reacted (inet : Inet) (input : Env × Event) (game : GameState) : GameState :=
  { game with mPlayers := ((cells inet game.directory).step input game.mPlayers).1 }

theorem directory_reacted (inet : Inet) (input : Env × Event) (game : GameState) :
    (reacted inet input game).directory = game.directory := by
  rw [reacted, Cells.step]
  split
  · rfl
  · exact directory_update (keepsIdentity_react inet _ input) game _

/-- A handler that makes no entry is an input of the cells. -/
theorem step_eq_cells (keyed : game.Keyed) {input : Env × Event}
    (known : Known inet game input) :
    step inet input game =
      .ok (reacted inet input game, ((cells inet game.directory).step input game.mPlayers).2) := by
  obtain ⟨env, ev⟩ := input
  cases ev with
  | login ev =>
      rcases known _ rfl with ⟨id, state, member, here⟩
      have held := getPlayerById_eq_some.mpr member
      have mine : (cells inet game.directory).owner (env, .login ev) = some id :=
        (owner_login keyed member env ev).mpr here.symm
      rw [reacted, Cells.step_of_owner mine held]
      refine (handleLogin_eq (createPlayer_of_registered env keyed held here) held
        (keyed.player member)).trans ?_
      rw [update_congr held (g := fun state => (react inet id (env, .login ev) state).1) rfl]
      rfl
  | ping ev =>
      have mine : (cells inet game.directory).owner (env, .ping ev) = some ev.ping.playerId := rfl
      cases held : game.getPlayerById ev.ping.playerId with
      | none =>
          rw [reacted, Cells.step_of_stray mine held]
          exact handlePing_unknown held
      | some state =>
          rw [reacted, Cells.step_of_owner mine held]
          by_cases invalid : ev.ping.playerId = kInvalidPlayer
          · simp only [cells, react, if_pos invalid, UnorderedMap.modify_id]
            exact handlePing_invalid invalid
          · simp only [cells, react, if_neg invalid]
            refine (handlePing_eq invalid held).trans ?_
            rw [update_congr held (g := fun state =>
              answered (pingReply inet env ev state) (state.seen env.now)) rfl]
            rfl
  | acknowledge ev => rfl

/-! ## Runs -/

theorem Known.reacted {input : Env × Event} (known : Known inet game input)
    (past : Env × Event) : Known inet (reacted inet past game) input := by
  intro endpoint login
  rcases known endpoint login with ⟨id, state, held, here⟩
  have grown : game.directory ⊆ (Server.reacted inet past game).directory :=
    (directory_reacted inet past game).symm ▸ List.Subset.refl _
  rcases exists_entry_of_subset grown held with ⟨state', held', -, same⟩
  exact ⟨id, state', held', same.trans here⟩

/-- A run in which no new endpoint logs in returns, and ends where its cells
do. -/
theorem run_eq_cells (keyed : game.Keyed) {inputs : List (Env × Event)}
    (known : ∀ input ∈ inputs, Known inet game input) :
    ∃ sends, Run.run (step inet) inputs game = .ok
      ({ game with mPlayers := (cells inet game.directory).run inputs game.mPlayers }, sends) := by
  induction inputs generalizing game with
  | nil => exact ⟨[], rfl⟩
  | cons input inputs ih =>
      have same := directory_reacted inet input game
      rcases List.forall_mem_cons.mp known with ⟨first, later⟩
      have later' := fun input' member => (later input' member).reacted input
      rcases ih (keyed.of_directory_eq same) later' with ⟨sends, ran⟩
      rw [same] at ran
      exact ⟨_, Run.run_cons_eq_ok.mpr ⟨_, _, sends, step_eq_cells keyed first, ran, rfl⟩⟩

theorem sentTo_eq_outputs (keyed : game.Keyed) {inputs : List (Env × Event)}
    (known : ∀ input ∈ inputs, Known inet game input) {id : UInt32} {state : PlayerState}
    (mine : ∀ input, owner inet game.directory input = some id ↔ Concerns inet input.2 id state) :
    sentTo inet id state inputs game =
      (cells inet game.directory).outputs id inputs game.mPlayers := by
  induction inputs generalizing game with
  | nil => rfl
  | cons input inputs ih =>
      have same := directory_reacted inet input game
      rcases List.forall_mem_cons.mp known with ⟨first, later⟩
      have later' := fun input' member => (later input' member).reacted input
      have rest := ih (keyed.of_directory_eq same) later' (same ▸ mine)
      rw [same] at rest
      rw [sentTo, step_eq_cells keyed first, Cells.outputs]
      simp only [rest]
      congr 1
      exact if_congr (mine input).symm rfl rfl

end Cells

/-- Two sequences of events lead to the same registry, and each player is sent
the same datagrams in the same order. -/
def Alike (inet : Inet) (xs ys : List (Env × Event)) (game : GameState) : Prop :=
  ∃ after left right, Run.run (step inet) xs game = .ok (after, left) ∧
    Run.run (step inet) ys game = .ok (after, right) ∧
    ∀ id state, (id, state) ∈ game.mPlayers.entries →
      sentTo inet id state xs game = sentTo inet id state ys game

theorem alike_of_eventsOf_eq {inet : Inet} {game : GameState} (keyed : game.Keyed)
    {xs ys : List (Env × Event)} (knownXs : ∀ input ∈ xs, Known inet game input)
    (knownYs : ∀ input ∈ ys, Known inet game input)
    (same : ∀ id state, (id, state) ∈ game.mPlayers.entries →
      eventsOf inet id state xs = eventsOf inet id state ys) : Alike inet xs ys game := by
  have shares : ∀ id state, (id, state) ∈ game.mPlayers.entries →
      (cells inet game.directory).share id xs = (cells inet game.directory).share id ys := by
    intro id state held
    rw [share_eq_eventsOf keyed held, share_eq_eventsOf keyed held, same id state held]
  rcases run_eq_cells keyed knownXs with ⟨left, ranXs⟩
  rcases run_eq_cells keyed knownYs with ⟨right, ranYs⟩
  refine ⟨_, left, right, ranXs, ?_, ?_⟩
  · rw [Cells.run_congr shares]
    exact ranYs
  · intro id state held
    have mine : ∀ input, owner inet game.directory input = some id ↔
        Concerns inet input.2 id state := owner_eq_some_iff keyed held
    rw [sentTo_eq_outputs keyed knownXs mine, sentTo_eq_outputs keyed knownYs mine]
    exact Cells.outputs_congr held (shares id state held)

theorem known_of_concerns {inet : Inet} {game : GameState} {input : Env × Event} {id : UInt32}
    {state : PlayerState} (held : (id, state) ∈ game.mPlayers.entries)
    (concerns : Concerns inet input.2 id state) : Known inet game input := by
  intro endpoint login
  obtain ⟨env, ev⟩ := input
  cases ev with
  | login ev =>
      cases login
      exact ⟨id, state, held, Eq.symm concerns⟩
  | ping ev => cases login
  | acknowledge ev => cases login

/-- Events of different players commute. -/
theorem alike_swap {inet : Inet} {game : GameState} (keyed : game.Keyed) {a b : Env × Event}
    {id id' : UInt32} {state state' : PlayerState} (held : (id, state) ∈ game.mPlayers.entries)
    (held' : (id', state') ∈ game.mPlayers.entries) (other : id ≠ id')
    (concerns : Concerns inet a.2 id state) (concerns' : Concerns inet b.2 id' state') :
    Alike inet [a, b] [b, a] game := by
  have knownA := known_of_concerns held concerns
  have knownB := known_of_concerns held' concerns'
  refine alike_of_eventsOf_eq keyed (by simp [knownA, knownB]) (by simp [knownA, knownB]) ?_
  intro key player entry
  have apart : ¬ (Concerns inet a.2 key player ∧ Concerns inet b.2 key player) := by
    intro both
    have first := (owner_eq_some_iff keyed held a).mpr concerns
    have second := (owner_eq_some_iff keyed held' b).mpr concerns'
    rw [(owner_eq_some_iff keyed entry a).mpr both.1, Option.some_inj] at first
    rw [(owner_eq_some_iff keyed entry b).mpr both.2, Option.some_inj] at second
    exact other (first.symm.trans second)
  by_cases mine : Concerns inet a.2 key player
  · simp [eventsOf, mine, not_and.mp apart mine]
  · simp [eventsOf, List.filter_cons, mine]

/-- From any registry on, as long as no new endpoint logs in: the order of the
events of each player is all that counts, and a ping that names no player is
dropped. -/
theorem isolation {inet : Inet} {params : Params} {events : List (Env × Event)}
    {game : GameState} {sends : List SendCall}
    (ran : Run.run (step inet) events { mParams := params } = .ok (game, sends)) :
    (∀ xs ys, (∀ input ∈ xs, Known inet game input) → (∀ input ∈ ys, Known inet game input) →
      (∀ id state, (id, state) ∈ game.mPlayers.entries →
        eventsOf inet id state xs = eventsOf inet id state ys) → Alike inet xs ys game) ∧
    (∀ a b id state id' state', (id, state) ∈ game.mPlayers.entries →
      (id', state') ∈ game.mPlayers.entries → id ≠ id' → Concerns inet a.2 id state →
        Concerns inet b.2 id' state' → Alike inet [a, b] [b, a] game) ∧
    ∀ env ev, (ev.ping.playerId = kInvalidPlayer ∨
        game.getPlayerById ev.ping.playerId = none) →
      step inet (env, .ping ev) game = .ok (game, []) := by
  have keyed := keyed_run ran
  refine ⟨fun xs ys => alike_of_eventsOf_eq keyed, ?_, ?_⟩
  · intro a b id state id' state'
    exact alike_swap keyed
  · intro env ev dropped
    rcases dropped with invalid | unknown
    · exact handlePing_invalid invalid
    · exact handlePing_unknown unknown

/-- The pings of two hosts in either order, and then a login. -/
theorem isolation_two_hosts :
    ∃ game sends, Run.run (step .dottedQuad) twoHosts {} = .ok (game, sends) ∧
      Alike .dottedQuad
        [({}, pingFrom ⟨10, 0, 0, 2⟩ 1), ({}, pingFrom ⟨10, 0, 0, 3⟩ 2),
          ({}, loginFrom ⟨10, 0, 0, 2⟩ 8081)]
        [({}, pingFrom ⟨10, 0, 0, 3⟩ 2), ({}, pingFrom ⟨10, 0, 0, 2⟩ 1),
          ({}, loginFrom ⟨10, 0, 0, 2⟩ 8081)] game := by
  have few : (registered .dottedQuad twoHosts).length < 2 ^ 32 - 1 := by decide +kernel
  obtain ⟨game, sends, ran, registers⟩ := run_registers .dottedQuad {} twoHosts few
  have logged : (addressToString .dottedQuad ⟨10, 0, 0, 2⟩, 8081) ∈
      registered .dottedQuad twoHosts := by decide +kernel
  rcases registers.numbered.held logged with ⟨state, held, here, -⟩
  have ping : ∀ address id, Known .dottedQuad game ({}, pingFrom address id) := by
    intro address id endpoint login
    cases login
  have login : Known .dottedQuad game ({}, loginFrom ⟨10, 0, 0, 2⟩ 8081) := by
    intro endpoint login
    cases login
    exact ⟨_, state, getPlayerById_eq_some.mp held, here⟩
  refine ⟨game, sends, ran, (isolation ran).1 _ _ ?_ ?_ ?_⟩
  · simp [ping, login]
  · simp [ping, login]
  · intro id state' _
    by_cases first : id = 1
    · subst first
      simp [eventsOf, pingFrom, loginFrom, Concerns, List.filter_cons]
    · simp [eventsOf, pingFrom, loginFrom, Concerns, List.filter_cons, Ne.symm first]

end Server

end UdpGame
