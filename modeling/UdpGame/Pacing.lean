import UdpGame.KeepAlive
import UdpGame.Process
import Mathlib.Tactic.Linarith

/-!
# Pacing

`Run` ticks once an interval at most, and `TryLogin` asks every 500 ms at most.
Each keeps the moment it did so last, and these two clocks bound what the client
sends in any part of its run (`client_is_paced`).
-/

namespace UdpGame

namespace UdpServer

section Loop

variable {ω : Type*} {interval : Time}

/-- How far a signal moves `lastTick` on. -/
def Signal.gap (interval : Time) : Signal ω → Time
  | .recv _ => 0
  | .tick _ => interval

theorem sum_gap_recv (datagrams : List Datagram) :
    ((datagrams.map Signal.recv).map (Signal.gap interval : Signal ω → Time)).sum = 0 := by
  induction datagrams with
  | nil => rfl
  | cons datagram datagrams ih => simpa [Signal.gap] using ih

/-- Between two ticks there is an interval. -/
theorem sum_gap_le {rounds : List (Round ω)} (lastTick : Time)
    (forward : ∀ round ∈ rounds, round.now ≤ round.done) :
    ((signals interval rounds lastTick).map (Signal.gap interval)).sum + lastTick ≤
      lastTickOf interval rounds lastTick := by
  induction rounds generalizing lastTick with
  | nil => simp [signals, lastTickOf]
  | cons round rounds ih =>
      have here := forward round List.mem_cons_self
      have later := fun lastTick => ih lastTick fun round member =>
        forward round (List.mem_cons_of_mem _ member)
      rw [signals, lastTickOf, List.map_append, List.sum_append, sum_gap_recv, zero_add]
      cases round.verdict with
      | reading => simp
      | stopped => simp
      | again =>
          by_cases due : round.now - lastTick > interval
          · simp only [if_pos due, List.map_cons, List.sum_cons, Signal.gap]
            have rest := later round.done
            linarith
          · simp only [if_neg due]
            exact later lastTick

/-- A tick is one of a pass. -/
theorem exists_round_of_mem_signals {rounds : List (Round ω)} {lastTick : Time} {world : ω}
    (member : .tick world ∈ signals interval rounds lastTick) :
    ∃ round ∈ rounds, round.world = world := by
  induction rounds generalizing lastTick with
  | nil => cases member
  | cons round rounds ih =>
      have later : ∀ {lastTick : Time}, .tick world ∈ signals interval rounds lastTick →
          ∃ round' ∈ round :: rounds, round'.world = world := by
        intro lastTick member
        rcases ih member with ⟨round', here, same⟩
        exact ⟨round', List.mem_cons_of_mem _ here, same⟩
      rw [signals] at member
      rcases List.mem_append.mp member with recv | tick
      · rcases List.mem_map.mp recv with ⟨datagram, -, same⟩
        cases same
      · split at tick
        · split at tick
          · rcases List.mem_cons.mp tick with same | member
            · cases same
              exact ⟨round, List.mem_cons_self, rfl⟩
            · exact later member
          · exact later tick
        · cases tick

end Loop

end UdpServer

namespace Client

open UdpServer

section Attempts

variable {inet : Inet}

/-- Handlers do not touch the clock of the attempts. -/
theorem mLoginAttemptTime_of_handle {input : Env × Event} {loop loop' : GameLoop}
    {calls : List SendCall} (sound : loop.Sound)
    (handled : (gameLoop inet).handle input.1 input.2 loop = .ok (loop', calls)) :
    loop'.mLoginAttemptTime = loop.mLoginAttemptTime := by
  obtain ⟨env, ev⟩ := input
  cases ev with
  | login ev =>
      change handleLogin inet env ev loop = _ at handled
      by_cases new : loop.mState = .new
      · by_cases invalid : ev.login.session = kInvalidSession
        · rw [handleLogin_invalid new invalid] at handled
          cases handled
          rfl
        · rw [handleLogin_new new invalid (sound.free new _)] at handled
          cases handled
          rfl
      · rw [handleLogin_past new] at handled
        cases handled
        rfl
  | ping ev =>
      cases handled
      rfl
  | acknowledge ev =>
      cases handled
      rfl

/-- The client that `Game::Tick` leaves has sent nothing, and its clock stands. -/
theorem mLoginAttemptTime_found {env : Nat → Env} {game found : Game GameLoop} {result : Bool}
    {sends : List SendCall} (sound : Sound game)
    (ticked : game.tick (gameLoop inet) env = .ok (result, found, sends)) :
    sends = [] ∧ found.loop.mLoginAttemptTime = game.loop.mLoginAttemptTime := by
  rcases (Game.tick_eq_ok_run (gameLoop inet) sound.tagged).mp ticked with ⟨loop, ran, -, rfl⟩
  have silent : ∃ loop', Run.run (fun input => (gameLoop inet).handle input.1 input.2)
      (stamped env game.mEvents) game.loop = .ok (loop', []) := by
    have free : ∀ id, game.loop.mThisPlayer = some id → True := fun _ _ => trivial
    rcases run_handle sound.loop free fun _ _ _ _ => trivial with ⟨loop', ran', -⟩
    exact ⟨loop', ran'⟩
  constructor
  · obtain ⟨loop', ran'⟩ := silent
    rw [ran', Except.ok.injEq, Prod.mk.injEq] at ran
    exact ran.2.symm
  · have keeps : ∀ {input : Env × Event} {loop loop' : GameLoop} {calls : List SendCall},
        loop.Sound ∧ loop.mLoginAttemptTime = game.loop.mLoginAttemptTime →
        (gameLoop inet).handle input.1 input.2 loop = .ok (loop', calls) →
        loop'.Sound ∧ loop'.mLoginAttemptTime = game.loop.mLoginAttemptTime := by
      intro input loop loop' calls holds handled
      exact ⟨sound_handle holds.1 handled,
        (mLoginAttemptTime_of_handle holds.1 handled).trans holds.2⟩
    exact (Run.run_invariant keeps ⟨sound.loop, rfl⟩ ran).2

theorem afterEvents_early {env : Env} {result result' : Bool} {loop loop' : GameLoop}
    {calls : List SendCall} (early : env.now < loop.mLoginAttemptTime + milliseconds 500)
    (ran : afterEvents inet env result loop = .ok (result', loop', calls)) : calls = [] := by
  by_cases new : loop.mState = .new
  · rw [afterEvents_new new, tryLogin_early early] at ran
    cases ran
    rfl
  · rw [afterEvents_past new] at ran
    cases ran
    rfl

/-- A step sends nothing, or it is a tick that is due and sends one request. -/
theorem sends_of_step {input : Input} {game game' : Game GameLoop} {sends : List SendCall}
    (sound : Sound game) (stepped : step inet input game = .ok (game', sends)) :
    (sends = [] ∧ game'.loop.mLoginAttemptTime = game.loop.mLoginAttemptTime) ∨
    ∃ env last call, input = .tick env last ∧ sends = [call] ∧
      game.loop.mLoginAttemptTime + milliseconds 500 ≤ last.now ∧
      game'.loop.mLoginAttemptTime =
        if call.result then last.done else game.loop.mLoginAttemptTime := by
  cases input with
  | recv datagram =>
      rw [step, Game.step_recv] at stepped
      cases stepped
      exact .inl ⟨rfl, rfl⟩
  | tick env last =>
      obtain ⟨result, found, out, result', loop, calls, ticked, ran, rfl, rfl⟩ :=
        step_tick_eq_ok.mp stepped
      obtain ⟨rfl, stands⟩ := mLoginAttemptTime_found sound ticked
      rcases afterEvents_cases ran with ⟨rfl, rfl⟩ | ⟨address, -, -, -, rfl, rfl⟩
      · exact .inl ⟨rfl, stands⟩
      · have due : ¬ last.now < found.loop.mLoginAttemptTime + milliseconds 500 := by
          intro early
          exact absurd (afterEvents_early early ran) (List.cons_ne_nil _ _)
        rw [stands, Int.not_lt] at due
        refine .inr ⟨env, last, _, rfl, rfl, due, ?_⟩
        unfold attempted
        split
        · rfl
        · exact stands

/-- The clock of a tick does not run back while it sends. -/
def Input.Forward : Input → Prop
  | .recv _ => True
  | .tick _ last => last.now ≤ last.done

/-- What a request that went out costs. -/
def cooldown (call : SendCall) : Time := if call.result then milliseconds 500 else 0

theorem sum_cooldown (calls : List SendCall) :
    (calls.map cooldown).sum = (calls.filter (·.result)).length * milliseconds 500 := by
  induction calls with
  | nil => simp
  | cons call calls ih =>
      rw [List.map_cons, List.sum_cons, ih, List.filter_cons, cooldown]
      split
      · rw [List.length_cons, Nat.cast_succ, Int.add_mul, Int.one_mul, Int.add_comm]
      · exact Int.zero_add _

/-- Between two requests that go out there are 500 ms. -/
theorem requests_paced {inputs : List Input} {game game' : Game GameLoop}
    {sends : List SendCall} (sound : Sound game) (forward : ∀ input ∈ inputs, input.Forward)
    (ran : Run.run (step inet) inputs game = .ok (game', sends)) :
    (sends.filter (·.result)).length * milliseconds 500 + game.loop.mLoginAttemptTime ≤
      game'.loop.mLoginAttemptTime := by
  have paid := @Run.run_amortized _ _ _ _ (step inet) Int _ _ _ _ _ cooldown (fun _ => 0)
    (fun game => game.loop.mLoginAttemptTime) ?_ _ _ _ _ sound forward ran
  · simpa [sum_cooldown] using paid
  intro input game game' out sound forward stepped
  refine ⟨sound_step sound stepped, ?_⟩
  rcases sends_of_step sound stepped with ⟨rfl, stands⟩ | ⟨env, last, call, rfl, rfl, due, moved⟩
  · simp [stands]
  · have on : last.now ≤ last.done := forward
    rw [moved]
    simp only [List.map_singleton, List.sum_singleton, cooldown]
    split
    · linarith
    · simp

/-- A tick sends one datagram at most. -/
theorem sends_paced {interval : Time} (positive : 0 < interval)
    {calls : List (Signal ((Nat → Env) × Env))} {game game' : Game GameLoop}
    {sends : List SendCall} (sound : Sound game)
    (ran : Run.run (step inet) (calls.map signalInput) game = .ok (game', sends)) :
    sends.length * interval ≤ (calls.map (Signal.gap interval)).sum := by
  have paid := @Run.run_amortized _ _ _ _ (fun call => step inet (signalInput call)) Int _ _ _
    Sound (fun _ => True) (fun _ => interval) (Signal.gap interval) (fun _ => 0) ?_ _ _ _ _ sound
    (fun _ _ => trivial) (Run.run_map signalInput calls game ▸ ran)
  · simpa using paid
  intro call game game' out sound _ stepped
  refine ⟨sound_step sound stepped, ?_⟩
  rcases sends_of_step sound stepped with ⟨rfl, -⟩ | ⟨env, last, sent, same, rfl, -⟩
  · cases call with
    | recv datagram => exact le_refl _
    | tick world => simpa [Signal.gap] using Int.le_of_lt positive
  · cases call with
    | recv datagram => cases same
    | tick world => simp [Signal.gap]

end Attempts

/-- From any state a run of the client gets to, the datagrams it sends are an
interval apart and the requests that go out 500 ms. -/
theorem client_is_paced (inet : Inet) (params : Params) {interval : Time}
    (positive : 0 < interval) {past rounds : List (Round ((Nat → Env) × Env))} {next : Next}
    {loop loop' : Loop (Game GameLoop)} {earlier sends : List SendCall}
    (forward : ∀ round ∈ rounds,
      round.now ≤ round.done ∧ round.world.2.now ≤ round.world.2.done)
    (start : process inet params interval past = .ok (.again, loop, earlier))
    (ran : run inet (callbacks inet) interval rounds loop = .ok (next, loop', sends)) :
    sends.length * interval + loop.lastTick ≤ loop'.lastTick ∧
      (sends.filter (·.result)).length * milliseconds 500 + loop.app.loop.mLoginAttemptTime ≤
        loop'.app.loop.mLoginAttemptTime := by
  have sound : Sound loop.app := by
    rw [process_eq, Checked.bind_eq_ok] at start
    obtain ⟨⟨game, sends'⟩, before, same⟩ := start
    simp only [Checked.pure_eq_ok, Except.ok.injEq, Prod.mk.injEq] at same
    rw [← same.2.1]
    exact sound_run before
  have steps : (callbacks inet).step inet = fun signal => step inet (signalInput signal) := by
    funext signal game
    exact step_callbacks signal game
  rw [steady_callbacks.run_eq_signals interval rounds loop sound, steps, ← Run.run_map,
    Checked.bind_eq_ok] at ran
  obtain ⟨⟨game, sends'⟩, handled, same⟩ := ran
  cases same
  constructor
  · have ticks := @sum_gap_le _ interval rounds loop.lastTick
      fun round member => (forward round member).1
    have paid := sends_paced positive sound handled
    exact le_trans (add_le_add_left paid _) ticks
  · refine requests_paced sound ?_ handled
    intro input member
    rcases List.mem_map.mp member with ⟨signal, listed, rfl⟩
    cases signal with
    | recv datagram => trivial
    | tick world =>
        rcases exists_round_of_mem_signals listed with ⟨round, here, rfl⟩
        exact (forward round here).2

/-- One pass in which nothing arrives and the first login is due. -/
def firstPass : Round ((Nat → Env) × Env) where
  select := .timeout
  now := milliseconds 500
  world := (fun _ => {}, { now := milliseconds 500 })

/-- The first request of a client. -/
theorem client_is_paced_first_pass :
    ∃ loop sends,
      process .dottedQuad hostParams (milliseconds 30) [firstPass] = .ok (.again, loop, sends) ∧
      sends.length * milliseconds 30 ≤ loop.lastTick ∧
      (sends.filter (·.result)).length * milliseconds 500 ≤ loop.app.loop.mLoginAttemptTime := by
  have resolved : Inet.dottedQuad.pton hostParams.clientAddress = some ⟨10, 0, 0, 2⟩ :=
    Inet.dottedQuad.pton_ntop ⟨10, 0, 0, 2⟩
  obtain ⟨loop, sends, ran, -⟩ := @exists_process .dottedQuad hostParams _ (by decide) resolved
    (by decide) (milliseconds 30) [firstPass]
  have forward : ∀ round ∈ [firstPass],
      round.now ≤ round.done ∧ round.world.2.now ≤ round.world.2.done := by
    intro round only
    rw [List.mem_singleton.mp only]
    exact ⟨le_refl _, le_refl _⟩
  have start : process .dottedQuad hostParams (milliseconds 30) [] =
      .ok (.again, { app := { loop := .initial hostParams } }, []) := rfl
  rcases client_is_paced .dottedQuad hostParams (by decide) forward start ran with
    ⟨ticks, requests⟩
  exact ⟨loop, sends, ran, (Int.add_zero _).ge.trans ticks, (Int.add_zero _).ge.trans requests⟩

end Client

end UdpGame
