import UdpGame.Game
import UdpGame.Lib.FirstCome

/-!
# The player registry

What the two `CreatePlayer` functions do to `mPlayers`.  `Keyed` is what every
run keeps: a player carries the key of its entry, and no endpoint has two
entries.  `Registers endpoints` adds, as long as the ids last, that the registry
is the list of endpoints in the order they came.
-/

namespace UdpGame

open UnorderedMap

/-- An address and a port, as a `PlayerState` holds them. -/
abbrev Endpoint : Type := String × UInt32

def PlayerState.endpoint (state : PlayerState) : Endpoint := (state.address, state.port)

namespace GameState

/-! ## Writes through a pointer -/

theorem getPlayerById_update_self {game : GameState} {id : UInt32} {state : PlayerState}
    (f : PlayerState → PlayerState) (held : game.getPlayerById id = some state) :
    (game.update id f).getPlayerById id = some (f state) :=
  find?_modify_self held

theorem getPlayerById_eq_some {game : GameState} {id : UInt32} {state : PlayerState} :
    game.getPlayerById id = some state ↔ (id, state) ∈ game.mPlayers.entries :=
  find?_eq_some

theorem update_update (game : GameState) (id : UInt32) (f g : PlayerState → PlayerState) :
    (game.update id f).update id g = game.update id fun state => g (f state) := by
  simp only [update, modify_modify]

theorem update_congr {game : GameState} {id : UInt32} {state : PlayerState}
    {f g : PlayerState → PlayerState} (held : game.getPlayerById id = some state)
    (same : f state = g state) : game.update id f = game.update id g := by
  simp only [update, modify_congr held same]

/-! ## The directory -/

/-- The part of the registry that says who is who: key, player and endpoint. -/
def directory (game : GameState) : List (UInt32 × Option Player × Endpoint) :=
  game.mPlayers.entries.map fun entry => (entry.1, entry.2.player, entry.2.endpoint)

/-- A write that leaves player, address and port alone. -/
def KeepsIdentity (f : PlayerState → PlayerState) : Prop :=
  ∀ state, (f state).player = state.player ∧ (f state).endpoint = state.endpoint

theorem directory_update {f : PlayerState → PlayerState} (keeps : KeepsIdentity f)
    (game : GameState) (id : UInt32) : (game.update id f).directory = game.directory :=
  map_entries_modify fun state => by rw [(keeps state).1, (keeps state).2]

/-- `assert(inserted)` apart, every run keeps this. -/
structure Keyed (game : GameState) : Prop where
  player : ∀ {id : UInt32} {state : PlayerState},
    (id, state) ∈ game.mPlayers.entries → state.player = some { mId := id }
  endpoint : ∀ {id id' : UInt32} {state state' : PlayerState},
    (id, state) ∈ game.mPlayers.entries → (id', state') ∈ game.mPlayers.entries →
    state.endpoint = state'.endpoint → id = id'

theorem mem_directory {game : GameState} {id : UInt32} {player : Option Player}
    {endpoint : Endpoint} :
    (id, player, endpoint) ∈ game.directory ↔
      ∃ state, (id, state) ∈ game.mPlayers.entries ∧ state.player = player ∧
        state.endpoint = endpoint := by
  simp only [directory, List.mem_map, Prod.mk.injEq]
  constructor
  · intro listed
    rcases listed with ⟨⟨key, state⟩, member, rfl, rfl, rfl⟩
    exact ⟨state, member, rfl, rfl⟩
  · intro held
    rcases held with ⟨state, member, rfl, rfl⟩
    exact ⟨(id, state), member, rfl, rfl, rfl⟩

/-- A directory that has grown still has the entry, with the same player. -/
theorem exists_entry_of_subset {game game' : GameState} {id : UInt32} {state : PlayerState}
    (grown : game.directory ⊆ game'.directory) (held : (id, state) ∈ game.mPlayers.entries) :
    ∃ state', (id, state') ∈ game'.mPlayers.entries ∧ state'.player = state.player ∧
      state'.endpoint = state.endpoint :=
  mem_directory.mp (grown (mem_directory.mpr ⟨state, held, rfl, rfl⟩))

/-- `Keyed` is a property of the directory. -/
theorem keyed_iff {game : GameState} :
    game.Keyed ↔
      (∀ {id player endpoint}, (id, player, endpoint) ∈ game.directory →
        player = some { mId := id }) ∧
      (∀ {id id' player player' endpoint}, (id, player, endpoint) ∈ game.directory →
        (id', player', endpoint) ∈ game.directory → id = id') := by
  constructor
  · intro keyed
    constructor
    · intro id player endpoint member
      rcases mem_directory.mp member with ⟨state, held, rfl, -⟩
      exact keyed.player held
    · intro id id' player player' endpoint member member'
      rcases mem_directory.mp member with ⟨state, held, -, here⟩
      rcases mem_directory.mp member' with ⟨state', held', -, there⟩
      exact keyed.endpoint held held' (here.trans there.symm)
  · intro parts
    rcases parts with ⟨player, endpoint⟩
    exact ⟨fun held => player (mem_directory.mpr ⟨_, held, rfl, rfl⟩),
      fun held held' same => endpoint (mem_directory.mpr ⟨_, held, rfl, rfl⟩)
        (mem_directory.mpr ⟨_, held', rfl, same.symm⟩)⟩

theorem Keyed.of_directory_eq {game game' : GameState} (keyed : game.Keyed)
    (same : game'.directory = game.directory) : game'.Keyed := by
  rw [keyed_iff] at keyed ⊢
  rw [same]
  exact keyed

/-! ## `CreatePlayer(address, port)` -/

/-- The state of a player that has just been registered. -/
def freshState (env : Env) (id : UInt32) (endpoint : Endpoint) : PlayerState :=
  { player := some { mId := id }
    address := endpoint.1
    port := endpoint.2
    connectStart := env.now
    lastMessage := env.now }

theorem endpoint_freshState (env : Env) (id : UInt32) (endpoint : Endpoint) :
    (freshState env id endpoint).endpoint = endpoint := rfl

/-- The registry with one more player. -/
def enter (env : Env) (endpoint : Endpoint) (game : GameState) : GameState :=
  { game with
    mPlayers := (game.mPlayers.tryEmplace game.mNextPlayerId
      (freshState env game.mNextPlayerId endpoint)).1
    mNextPlayerId := game.mNextPlayerId + 1 }

section CreatePlayer

variable {game : GameState} (env : Env) {endpoint : Endpoint}

/-- The search finds the entry of the endpoint, in whatever order it looks. -/
theorem createPlayer_of_registered (keyed : game.Keyed) {id : UInt32} {state : PlayerState}
    (held : game.getPlayerById id = some state) (here : state.endpoint = endpoint) :
    game.createPlayer env endpoint.1 endpoint.2 = .ok (id, false, game) := by
  have member := getPlayerById_eq_some.mp held
  let p : UInt32 × PlayerState → Bool := fun entry =>
    decide (entry.2.address = endpoint.1 ∧ entry.2.port = endpoint.2)
  have unique : ∀ a ∈ game.mPlayers.entries, ∀ b ∈ game.mPlayers.entries, p a → p b → a = b := by
    rintro ⟨id, a⟩ left ⟨id', b⟩ right matchA matchB
    have hereA := of_decide_eq_true matchA
    have hereB := of_decide_eq_true matchB
    have same : a.endpoint = b.endpoint :=
      Prod.ext (hereA.1.trans hereB.1.symm) (hereA.2.trans hereB.2.symm)
    obtain rfl := keyed.endpoint left right same
    rw [eq_of_mem left right]
  have matched : p (id, state) :=
    decide_eq_true ⟨congrArg Prod.fst here, congrArg Prod.snd here⟩
  have found : game.mPlayers.entries.find? p = some (id, state) := by
    cases search : game.mPlayers.entries.find? p with
    | none => exact absurd matched (List.find?_eq_none.mp search _ member)
    | some entry =>
        rw [unique entry (List.mem_of_find?_eq_some search) _ member (List.find?_some search)
          matched]
  rw [createPlayer, env.order.find?_arrange unique, found]
  rfl

theorem find?_arrange_eq_none (absent : ∀ {id state}, (id, state) ∈ game.mPlayers.entries →
      state.endpoint ≠ endpoint) :
    (env.order.arrange game.mPlayers.entries).find?
      (fun entry => decide (entry.2.address = endpoint.1 ∧ entry.2.port = endpoint.2)) = none := by
  rw [List.find?_eq_none]
  intro entry member found
  obtain ⟨id, state⟩ := entry
  have here := of_decide_eq_true found
  exact absent ((env.order.perm _).mem_iff.mp member) (Prod.ext here.1 here.2)

/-- An endpoint without an entry gets the next id, if that is free. -/
theorem createPlayer_of_new (absent : ∀ {id state}, (id, state) ∈ game.mPlayers.entries →
      state.endpoint ≠ endpoint)
    (free : game.getPlayerById game.mNextPlayerId = none) :
    game.createPlayer env endpoint.1 endpoint.2 =
      .ok (game.mNextPlayerId, true, game.enter env endpoint) := by
  have missed := find?_arrange_eq_none env absent
  rcases tryEmplace_of_fresh (v := ({} : PlayerState)) free with ⟨-, inserted⟩
  rw [createPlayer, missed]
  simp only [inserted, Checked.assert_of True.intro, Checked.ok_bind, Checked.pure_eq_ok, update,
    modify_tryEmplace _ free]
  rfl

/-- An id that is taken trips the assertion. -/
theorem createPlayer_of_taken (absent : ∀ {id state}, (id, state) ∈ game.mPlayers.entries →
      state.endpoint ≠ endpoint) {taken : PlayerState}
    (clash : game.getPlayerById game.mNextPlayerId = some taken) :
    game.createPlayer env endpoint.1 endpoint.2 = .error .assertion := by
  have missed := find?_arrange_eq_none env absent
  rw [createPlayer, missed]
  simp only [tryEmplace_of_taken clash, Checked.assert_of_not Bool.false_ne_true,
    Checked.error_bind]

theorem entries_enter (free : game.getPlayerById game.mNextPlayerId = none) :
    (game.enter env endpoint).mPlayers.entries = game.mPlayers.entries ++
      [(game.mNextPlayerId, freshState env game.mNextPlayerId endpoint)] :=
  (tryEmplace_of_fresh free).1

theorem directory_enter (free : game.getPlayerById game.mNextPlayerId = none) :
    (game.enter env endpoint).directory = game.directory ++
      [(game.mNextPlayerId, some { mId := game.mNextPlayerId }, endpoint)] := by
  rw [directory, entries_enter env free, List.map_append]
  rfl

theorem getPlayerById_enter_self (free : game.getPlayerById game.mNextPlayerId = none) :
    (game.enter env endpoint).getPlayerById game.mNextPlayerId =
      some (freshState env game.mNextPlayerId endpoint) :=
  find?_tryEmplace_self free

/-- A call that returns found the endpoint's entry or made a new one. -/
theorem createPlayer_cases (keyed : game.Keyed) {id : UInt32} {created : Bool}
    {game' : GameState}
    (ran : game.createPlayer env endpoint.1 endpoint.2 = .ok (id, created, game')) :
    (∃ state, game.getPlayerById id = some state ∧ state.endpoint = endpoint ∧
      created = false ∧ game' = game) ∨
    ((∀ {id state}, (id, state) ∈ game.mPlayers.entries → state.endpoint ≠ endpoint) ∧
      game.getPlayerById game.mNextPlayerId = none ∧ id = game.mNextPlayerId ∧
      created = true ∧ game' = game.enter env endpoint) := by
  by_cases registered : ∃ id state, (id, state) ∈ game.mPlayers.entries ∧
      state.endpoint = endpoint
  · obtain ⟨key, state, member, here⟩ := registered
    have held := getPlayerById_eq_some.mpr member
    rw [createPlayer_of_registered env keyed held here] at ran
    cases ran
    exact .inl ⟨state, held, here, rfl, rfl⟩
  · have absent : ∀ {id state}, (id, state) ∈ game.mPlayers.entries →
        state.endpoint ≠ endpoint := fun member here => registered ⟨_, _, member, here⟩
    cases free : game.getPlayerById game.mNextPlayerId with
    | some taken =>
        rw [createPlayer_of_taken env absent free] at ran
        cases ran
    | none =>
        rw [createPlayer_of_new env absent free] at ran
        cases ran
        exact .inr ⟨absent, rfl, rfl, rfl, rfl⟩

/-- The order in which the search meets the entries does not show. -/
theorem createPlayer_order (keyed : game.Keyed) (order : IterationOrder) (endpoint : Endpoint) :
    game.createPlayer { env with order := order } endpoint.1 endpoint.2 =
      game.createPlayer env endpoint.1 endpoint.2 := by
  by_cases registered : ∃ id state, (id, state) ∈ game.mPlayers.entries ∧
      state.endpoint = endpoint
  · obtain ⟨id, state, member, here⟩ := registered
    have held := getPlayerById_eq_some.mpr member
    rw [createPlayer_of_registered _ keyed held here, createPlayer_of_registered _ keyed held here]
  · have absent : ∀ {id state}, (id, state) ∈ game.mPlayers.entries →
        state.endpoint ≠ endpoint := fun member here => registered ⟨_, _, member, here⟩
    cases free : game.getPlayerById game.mNextPlayerId with
    | some taken => rw [createPlayer_of_taken _ absent free, createPlayer_of_taken _ absent free]
    | none =>
        rw [createPlayer_of_new _ absent free, createPlayer_of_new _ absent free]
        rfl

theorem Keyed.enter (keyed : game.Keyed)
    (absent : ∀ {id state}, (id, state) ∈ game.mPlayers.entries → state.endpoint ≠ endpoint)
    (free : game.getPlayerById game.mNextPlayerId = none) : (game.enter env endpoint).Keyed := by
  have split : ∀ {id state}, (id, state) ∈ (game.enter env endpoint).mPlayers.entries →
      (id, state) ∈ game.mPlayers.entries ∨
        (id = game.mNextPlayerId ∧ state = freshState env game.mNextPlayerId endpoint) := by
    intro id state member
    rw [entries_enter env free, List.mem_append, List.mem_singleton, Prod.mk.injEq] at member
    exact member
  constructor
  · intro id state member
    rcases split member with old | ⟨rfl, rfl⟩
    · exact keyed.player old
    · rfl
  · intro id id' state state' member member' same
    rcases split member with old | ⟨rfl, rfl⟩ <;> rcases split member' with old' | ⟨rfl, rfl⟩
    · exact keyed.endpoint old old' same
    · exact absurd same (absent old)
    · exact absurd same.symm (absent old')
    · rfl

end CreatePlayer

end GameState

end UdpGame
