import UdpGame.MessageLog

/-!
# When a player was last heard of

`lastMessage` is written where a player is made and where a ping is handled.  A
login of an endpoint that is already registered comes past neither, although it
is traffic of that player.  So `lastMessage` is the time of the last event for a
player in exactly those runs in which the clock has not moved on before such a
login (`timely_iff`).
-/

namespace UdpGame

namespace Server

open GameState

/-- When the last event for a player was handled. -/
def lastHeard (inet : Inet) (id : UInt32) (state : PlayerState) (events : List (Env × Event)) :
    Option Time :=
  (eventsOf inet id state events).getLast?.map fun input => input.1.now

/-- Every player was last heard of at its `lastMessage`. -/
def Current (inet : Inet) (past : List (Env × Event)) (game : GameState) : Prop :=
  ∀ id state, (id, state) ∈ game.mPlayers.entries →
    lastHeard inet id state past = some state.lastMessage

/-- An event leaves `lastMessage` of the players it is not for alone. -/
def Undisturbed (inet : Inet) (input : Env × Event) (game : GameState) : Prop :=
  ∀ id state, (id, state) ∈ game.mPlayers.entries → ¬ Concerns inet input.2 id state →
    ∀ after out, step inet input game = .ok (after, out) →
      ∃ state', (id, state') ∈ after.mPlayers.entries ∧ state'.lastMessage = state.lastMessage

/-- In every state a run comes through the players were last heard of when they say. -/
structure Timely (inet : Inet) (params : Params) (events : List (Env × Event)) : Prop where
  current : ∀ past rest, events = past ++ rest → ∀ game sends,
    Run.run (step inet) past { mParams := params } = .ok (game, sends) → Current inet past game
  undisturbed : Throughout inet params events (Undisturbed inet)

/-- The event is a ping that `HandlePing` does not reject. -/
def Refreshes : Event → Prop
  | .ping ev => ev.ping.playerId ≠ kInvalidPlayer
  | _ => False

/-- An event that does not refresh the players it is for finds the clock where
they were last seen. -/
def Prompt (inet : Inet) (input : Env × Event) (game : GameState) : Prop :=
  ∀ id state, (id, state) ∈ game.mPlayers.entries → Concerns inet input.2 id state →
    Refreshes input.2 ∨ state.lastMessage = input.1.now

section

variable {inet : Inet} {params : Params} {past : List (Env × Event)} {game after : GameState}
  {sends out : List SendCall} {id : UInt32} {state : PlayerState} {input : Env × Event}

/-! ## What an event does to `lastMessage` -/

theorem lastHeard_snoc :
    lastHeard inet id state (past ++ [input]) =
      if Concerns inet input.2 id state then some input.1.now else lastHeard inet id state past := by
  unfold lastHeard eventsOf
  rw [List.filter_append, List.filter_singleton]
  split <;> simp_all

theorem lastMessage_answered (call : SendCall) (state : PlayerState) :
    (answered call state).lastMessage = state.lastMessage := by
  unfold answered
  cases call.result <;> rfl

theorem lastMessage_react_of_refreshes (refreshes : Refreshes input.2) :
    (react inet id input state).1.lastMessage = input.1.now := by
  obtain ⟨env, ev⟩ := input
  cases ev with
  | login ev => exact refreshes.elim
  | ping ev =>
      simp only [react, if_neg refreshes]
      exact lastMessage_answered _ _
  | acknowledge ev => exact refreshes.elim

theorem lastMessage_react_of_not (inet : Inet) (id : UInt32) (state : PlayerState)
    (silent : ¬ Refreshes input.2) :
    (react inet id input state).1.lastMessage = state.lastMessage := by
  obtain ⟨env, ev⟩ := input
  cases ev with
  | login ev => exact lastMessage_answered _ _
  | ping ev =>
      have invalid : ev.ping.playerId = kInvalidPlayer := not_not.mp silent
      simp only [react, if_pos invalid]
  | acknowledge ev => rfl

/-- A player that was seen at the moment of an event, or is refreshed by it, was
seen at that moment when the event is over. -/
theorem lastMessage_react (inet : Inet) (id : UInt32)
    (prompt : Refreshes input.2 ∨ state.lastMessage = input.1.now) :
    (react inet id input state).1.lastMessage = input.1.now := by
  by_cases refreshes : Refreshes input.2
  · exact lastMessage_react_of_refreshes refreshes
  · rw [lastMessage_react_of_not inet id state refreshes]
    exact prompt.resolve_left refreshes

/-! ## Steps of a run -/

theorem current_snoc (ran : Run.run (step inet) past { mParams := params } = .ok (game, sends))
    (stepped : step inet input game = .ok (after, out)) (current : Current inet past game)
    (prompt : Prompt inet input game) : Current inet (past ++ [input]) after := by
  intro id state held
  rw [lastHeard_snoc]
  rcases handled_of_step (keyed_run ran) stepped held with
    ⟨old, apart⟩ | ⟨old, same, concerns, reacts⟩ | ⟨free, absent, concerns, reacts⟩
  · rw [if_neg apart]
    exact current id state old
  · have concerned := (concerns_congr same input.2).mpr concerns
    have seen := lastMessage_react inet id (prompt _ _ old concerned)
    rw [reacts] at seen
    rw [if_pos concerns, seen]
  · have made : (freshState input.1 id state.endpoint).lastMessage = input.1.now := rfl
    have seen := lastMessage_react inet id (.inr made)
    rw [reacts] at seen
    rw [if_pos concerns, seen]

theorem undisturbed_of_run
    (ran : Run.run (step inet) past { mParams := params } = .ok (game, sends)) :
    Undisturbed inet input game := by
  intro id state held apart after out stepped
  have whole := Run.run_snoc_eq_ok.mpr ⟨game, sends, out, ran, stepped, rfl⟩
  rcases exists_entry_of_subset (directory_subset_of_run ran whole) held with
    ⟨state', held', -, same⟩
  refine ⟨state', held', ?_⟩
  rcases handled_of_step (keyed_run ran) stepped held' with
    ⟨old, -⟩ | ⟨-, -, concerns, -⟩ | ⟨free, -, -, -⟩
  · rw [UnorderedMap.eq_of_mem old held]
  · exact absurd ((concerns_congr same input.2).mp concerns) apart
  · cases free.symm.trans (getPlayerById_eq_some.mpr held)

theorem prompt_of_current
    (ran : Run.run (step inet) past { mParams := params } = .ok (game, sends))
    (stepped : step inet input game = .ok (after, out))
    (current : Current inet (past ++ [input]) after) : Prompt inet input game := by
  intro id state held concerns
  by_contra late
  rcases not_or.mp late with ⟨silent, moved⟩
  have whole := Run.run_snoc_eq_ok.mpr ⟨game, sends, out, ran, stepped, rfl⟩
  rcases exists_entry_of_subset (directory_subset_of_run ran whole) held with
    ⟨state', held', -, same⟩
  have heard := current id state' held'
  rw [lastHeard_snoc, if_pos ((concerns_congr same input.2).mpr concerns)] at heard
  rcases handled_of_step (keyed_run ran) stepped held' with
    ⟨old, apart⟩ | ⟨old, -, -, reacts⟩ | ⟨free, -, -, -⟩
  · exact apart ((concerns_congr same input.2).mpr concerns)
  · rw [UnorderedMap.eq_of_mem old held] at reacts
    have kept := lastMessage_react_of_not inet id state silent
    rw [reacts] at kept
    exact moved (kept.symm.trans (Option.some.inj heard).symm)
  · cases free.symm.trans (getPlayerById_eq_some.mpr held)

/-- In a run of prompt events the times are right. -/
theorem current_of_run
    (ran : Run.run (step inet) past { mParams := params } = .ok (game, sends))
    (prompt : Throughout inet params past (Prompt inet)) : Current inet past game := by
  induction past using List.reverseRecOn generalizing game sends with
  | nil =>
      cases ran
      exact fun id state held => absurd held List.not_mem_nil
  | append_singleton past input ih =>
      rcases Run.run_snoc_eq_ok.mp ran with ⟨before, outs, out, ran', stepped, -⟩
      exact current_snoc ran' stepped (ih ran' prompt.of_append)
        (prompt past input [] rfl before outs ran')

end

/-- The times of a run are right if and only if its events are prompt. -/
theorem timely_iff (inet : Inet) (params : Params) (events : List (Env × Event)) :
    Timely inet params events ↔ Throughout inet params events (Prompt inet) := by
  constructor
  · intro timely past input rest split game sends ran id state held concerns
    have known := known_of_concerns held concerns
    have stepped := step_eq_cells (keyed_run ran) known
    have whole := Run.run_snoc_eq_ok.mpr ⟨game, sends, _, ran, stepped, rfl⟩
    have current := timely.current (past ++ [input]) rest
      (split.trans (List.append_cons ..)) _ _ whole
    exact prompt_of_current ran stepped current id state held concerns
  · intro prompt
    constructor
    · intro past rest split game sends ran
      rw [split] at prompt
      exact current_of_run ran prompt.of_append
    · intro past input rest split game sends ran
      exact undisturbed_of_run ran

/-- A host logs in, and again a second later. -/
def secondLogin : List (Env × Event) :=
  [({}, loginFrom ⟨10, 0, 0, 2⟩ 8081),
    ({ now := milliseconds 1000 }, loginFrom ⟨10, 0, 0, 2⟩ 8081)]

/-- The second login is not seen. -/
theorem second_login_is_not_timely : ¬ Timely .dottedQuad {} secondLogin := by
  intro timely
  obtain ⟨game, sends, ran, registers⟩ :=
    run_registers .dottedQuad {} [({}, loginFrom ⟨10, 0, 0, 2⟩ 8081)] (by decide +kernel)
  rcases registers.numbered.held (List.mem_singleton_self _) with ⟨state, held, here, -⟩
  generalize idAt _ = id at held
  have entry := getPlayerById_eq_some.mp held
  have concerns : Concerns .dottedQuad (loginFrom ⟨10, 0, 0, 2⟩ 8081) id state := Eq.symm here
  have first := timely.current [_] [_] rfl game sends ran id state entry
  rw [← List.nil_append [_], lastHeard_snoc, if_pos concerns] at first
  have known : Known .dottedQuad game
      ({ now := milliseconds 1000 }, loginFrom ⟨10, 0, 0, 2⟩ 8081) :=
    known_of_concerns entry concerns
  have stepped := step_eq_cells (keyed_run ran) known
  have whole := Run.run_snoc_eq_ok.mpr ⟨game, sends, _, ran, stepped, rfl⟩
  have current := timely.current secondLogin [] rfl _ _ whole
  rcases prompt_of_current ran stepped current id state entry concerns with refreshes | seen
  · exact refreshes
  · rw [← Option.some.inj first] at seen
    exact absurd seen (by decide)

end Server

end UdpGame
