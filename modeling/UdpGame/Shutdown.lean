import UdpGame.UdpServer
import Mathlib.Data.List.Count
import Mathlib.Logic.Function.Basic

/-!
# Shutting down

`Run` in one thread and any number of calls of `Shutdown` in others.  They share
two atomic flags, and `Run` looks at its own before and after it waits for the
socket.  A move of `Run` is a look, a wait, one turn of the inner loop or a tick,
with what it comes back with.  Whatever the order of the moves, `Run` does what it
does alone with what its own moves came back with (`run_among_threads`), and one of
the calls wakes it (`one_wakeup`).  Once the flag is set it needs four moves at
most, besides those that read; the inner loop never looks at the flag
(`shutdown_stops_run`).
-/

namespace UdpGame

namespace UdpServer

/-- What `select` comes back with. -/
inductive Ready where
  | error (err : Int)
  | timeout
  | readable

/-- The same, with what was read if the socket was readable. -/
def Ready.select (outcomes : List Outcome) : Ready → Select
  | .error err => .error err
  | .timeout => .timeout
  | .readable => .readable outcomes

/-- Where the thread in `Run` is. -/
inductive Place where
  /-- At the last of the assertions. -/
  | entry
  /-- At the condition of the loop. -/
  | head
  /-- In `select`, without the lock. -/
  | selecting
  /-- At the second look at `mShutdown`. -/
  | selected (ready : Ready)
  /-- In the inner loop. -/
  | reading
  /-- Behind it, where the tick is. -/
  | ticking
  /-- In `wait_for`, which comes back notified or not. -/
  | waiting
  | returned
  /-- Stopped by that assertion: there was a `Shutdown` already. -/
  | refused
  | aborted (fault : Fault)

/-- Where the result of `select` leads to. -/
def Ready.place : Ready → Place
  | .error err => if err ≠ WSAEINTR then .returned else .ticking
  | .timeout => .ticking
  | .readable => .reading

/-- Where a thread that calls `Shutdown` is. -/
inductive Caller where
  | outside
  /-- In `Wakeup`, after it has set `mShutdown`. -/
  | wakeup
  /-- At `notify_all`. -/
  | notifying
  | returned
  deriving DecidableEq, Repr

/-- What the threads share, and where they are. -/
structure Threads (σ ι : Type) where
  mShutdown : Bool := false
  mNotified : Bool := false
  place : Place := .entry
  loop : Loop σ
  callers : ι → Caller := fun _ => .outside

/-- What a move shows to the outside. -/
inductive Effect where
  | sent (call : SendCall)
  /-- The line `Wakeup` prints. -/
  | wakeup
  | notified
  deriving DecidableEq

/-- The datagrams among some effects. -/
def sentBy (effects : List Effect) : List SendCall :=
  effects.filterMap fun
    | .sent call => some call
    | _ => none

/-- A move of the thread in `Run`, with what it finds. -/
inductive RunMove (ω : Type*) where
  | enter
  | check
  | select (ready : Ready)
  | recheck
  | recv (outcome : Outcome)
  | tick (now done : Time) (world : ω)
  | wake

inductive Move (ω : Type*) (ι : Type) where
  | run (move : RunMove ω)
  | shutdown (i : ι)

section Threads

variable {σ ι : Type} {ω : Type*} (inet : Inet) (callbacks : Callbacks σ ω) (interval : Time)

/-- One turn of the inner loop. -/
def recvMove (outcome : Outcome) (loop : Loop σ) : Place × Loop σ :=
  match drain inet callbacks.mRecvFn [outcome] loop.app with
  | .error fault => (.aborted fault, loop)
  | .ok (.reading, app) => (.reading, { loop with app := app })
  | .ok (.drained _, app) => (.ticking, { loop with app := app })
  | .ok (.returned _, app) => (.returned, { loop with app := app })

/-- The end of a pass, up to the wait. -/
def tickMove (now done : Time) (world : ω) (loop : Loop σ) : Place × Loop σ × List SendCall :=
  match tickIfDue callbacks interval { select := .timeout, now, done, world } loop with
  | .error fault => (.aborted fault, loop, [])
  | .ok (.again, loop, sends) => (.waiting, loop, sends)
  | .ok (_, loop, sends) => (.returned, loop, sends)

/-- A move of the thread in `Run`, where it is at it. -/
def runMove (mShutdown : Bool) :
    RunMove ω → Place → Loop σ → Except Unit (Place × Loop σ × List SendCall)
  | .enter, .entry, loop => .ok (if mShutdown then .refused else .head, loop, [])
  | .check, .head, loop => .ok (if mShutdown then .returned else .selecting, loop, [])
  | .select ready, .selecting, loop => .ok (.selected ready, loop, [])
  | .recheck, .selected ready, loop =>
    .ok (if mShutdown then .returned else ready.place, loop, [])
  | .recv outcome, .reading, loop =>
    let (place, loop) := recvMove inet callbacks outcome loop
    .ok (place, loop, [])
  | .tick now done world, .ticking, loop => .ok (tickMove callbacks interval now done world loop)
  | .wake, .waiting, loop => .ok (.head, loop, [])
  | _, _, _ => .error ()

variable [DecidableEq ι]

/-- The next move of a caller of `Shutdown`. -/
def shutdownMove (i : ι) (s : Threads σ ι) : Except Unit (Threads σ ι × List Effect) :=
  match s.callers i with
  | .outside =>
    if s.mShutdown then .ok ({ s with callers := Function.update s.callers i .returned }, [])
    else
      .ok ({ s with mShutdown := true, callers := Function.update s.callers i .wakeup }, [])
  | .wakeup =>
    .ok ({ s with mNotified := true, callers := Function.update s.callers i .notifying },
      if s.mNotified then [] else [.wakeup])
  | .notifying => .ok ({ s with callers := Function.update s.callers i .returned }, [.notified])
  | .returned => .error ()

def Threads.step : Move ω ι → Threads σ ι → Except Unit (Threads σ ι × List Effect)
  | .run move, s =>
    match runMove inet callbacks interval s.mShutdown move s.place s.loop with
    | .error () => .error ()
    | .ok (place, loop, sends) => .ok ({ s with place := place, loop := loop }, sends.map .sent)
  | .shutdown i, s => shutdownMove i s

end Threads

/-! ## What `Run` has seen -/

section Seen

variable {ι : Type} {ω : Type*}

/-- The passes `Run` has made, and what it has come to know in the one under way. -/
structure Seen (ω : Type*) where
  rounds : List (Round ω) := []
  ready : Ready := .timeout
  outcomes : List Outcome := []

/-- The pass under way, if it ticks like this. -/
def Seen.round (seen : Seen ω) (now done : Time) (world : ω) : Round ω where
  select := seen.ready.select seen.outcomes
  now := now
  done := done
  world := world

def Seen.add (seen : Seen ω) : Move ω ι → Seen ω
  | .run (.select ready) => { seen with ready := ready, outcomes := [] }
  | .run (.recv outcome) => { seen with outcomes := seen.outcomes ++ [outcome] }
  | .run (.tick now done world) =>
    { seen with rounds := seen.rounds ++ [seen.round now done world] }
  | _ => seen

/-- What the moves of `Run` came back with. -/
def Seen.after (moves : List (Move ω ι)) : Seen ω := moves.foldl Seen.add {}

theorem Seen.after_append (moves : List (Move ω ι)) (move : Move ω ι) :
    Seen.after (moves ++ [move]) = (Seen.after moves).add move := by
  rw [Seen.after, List.foldl_append]
  rfl

end Seen

/-! ## What a move of `Run` does -/

section Run

variable {σ : Type} {ω : Type*} {inet : Inet} {callbacks : Callbacks σ ω} {interval : Time}

/-- The moves that leave the game alone. -/
inductive Looks (mShutdown : Bool) : RunMove ω → Place → Place → Prop
  | enter : Looks mShutdown .enter .entry (if mShutdown then .refused else .head)
  | check : Looks mShutdown .check .head (if mShutdown then .returned else .selecting)
  | select (ready : Ready) : Looks mShutdown (.select ready) .selecting (.selected ready)
  | recheck (ready : Ready) :
    Looks mShutdown .recheck (.selected ready) (if mShutdown then .returned else ready.place)
  | wake : Looks mShutdown .wake .waiting .head

theorem runMove_cases {mShutdown : Bool} {move : RunMove ω} {place place' : Place}
    {loop loop' : Loop σ} {sends : List SendCall}
    (moved : runMove inet callbacks interval mShutdown move place loop =
      .ok (place', loop', sends)) :
    (Looks mShutdown move place place' ∧ loop' = loop ∧ sends = []) ∨
    (∃ outcome, move = .recv outcome ∧ place = .reading ∧ sends = [] ∧
      (place', loop') = recvMove inet callbacks outcome loop) ∨
    ∃ now done world, move = .tick now done world ∧ place = .ticking ∧
      (place', loop', sends) = tickMove callbacks interval now done world loop := by
  cases move with
  | enter =>
      cases place <;> cases moved
      exact .inl ⟨.enter, rfl, rfl⟩
  | check =>
      cases place <;> cases moved
      exact .inl ⟨.check, rfl, rfl⟩
  | select ready =>
      cases place <;> cases moved
      exact .inl ⟨.select ready, rfl, rfl⟩
  | recheck =>
      cases place <;> cases moved
      exact .inl ⟨.recheck _, rfl, rfl⟩
  | recv outcome =>
      cases place <;> cases moved
      exact .inr (.inl ⟨outcome, rfl, rfl, rfl, rfl⟩)
  | tick now done world =>
      cases place with
      | ticking =>
          simp only [runMove, Except.ok.injEq] at moved
          exact .inr (.inr ⟨now, done, world, rfl, rfl, moved.symm⟩)
      | _ => cases moved
  | wake =>
      cases place <;> cases moved
      exact .inl ⟨.wake, rfl, rfl⟩

/-- The inner loop can be left and taken up again where it reads. -/
theorem drain_append_of_reading {mRecvFn : NetworkMessage → σ → Checked σ}
    {before : List Outcome} {app app' : σ}
    (read : drain inet mRecvFn before app = .ok (.reading, app')) (rest : List Outcome) :
    drain inet mRecvFn (before ++ rest) app = drain inet mRecvFn rest app' := by
  induction before generalizing app with
  | nil =>
      cases read
      rfl
  | cons outcome before ih =>
      cases outcome with
      | datagram datagram =>
          rw [drain, Checked.bind_eq_ok] at read
          obtain ⟨next, received, later⟩ := read
          rw [List.cons_append, drain, received, Checked.ok_bind]
          exact ih later
      | error err =>
          rw [drain] at read
          rw [List.cons_append, drain]
          split at read
          · cases read
          · rename_i unblocked
            rw [if_neg unblocked]
            split at read
            · rename_i fatal
              rw [if_pos fatal]
              exact ih read
            · cases read

theorem pass_of_error {err : Int} (other : err ≠ WSAEINTR) (now done : Time) (world : ω)
    (loop : Loop σ) :
    pass inet callbacks interval { select := .error err, now, done, world } loop =
      .ok (.stopped, loop, []) := by
  simp only [pass, Bool.false_eq_true, if_false, if_pos other, Checked.pure_eq_ok]

theorem pass_readable (outcomes : List Outcome) (now done : Time) (world : ω) (loop : Loop σ) :
    pass inet callbacks interval { select := .readable outcomes, now, done, world } loop =
      drain inet callbacks.mRecvFn outcomes loop.app >>= fun left =>
        match left.1 with
        | .reading => .ok (.reading, { loop with app := left.2 }, [])
        | .drained _ => tickIfDue callbacks interval
            { select := .readable outcomes, now, done, world } { loop with app := left.2 }
        | .returned _ => .ok (.stopped, { loop with app := left.2 }, []) := rfl

theorem tickIfDue_ne_reading (round : Round ω) (loop loop' : Loop σ) (sends : List SendCall) :
    tickIfDue callbacks interval round loop ≠ .ok (.reading, loop', sends) := by
  intro ticked
  rw [tickIfDue] at ticked
  split at ticked
  · obtain ⟨⟨result, app, out⟩, -, ended⟩ := Checked.bind_eq_ok.mp ticked
    cases result <;> cases ended
  · cases ticked

/-- A run of one pass more. -/
theorem run_snoc {rounds : List (Round ω)} {loop loop' : Loop σ} {sends : List SendCall}
    (ran : run inet callbacks interval rounds loop = .ok (.again, loop', sends))
    (round : Round ω) :
    run inet callbacks interval (rounds ++ [round]) loop = do
      let (next, loop, rest) ← pass inet callbacks interval round loop'
      return (next, loop, sends ++ rest) := by
  induction rounds generalizing loop sends with
  | nil =>
      cases ran
      rw [List.nil_append, run]
      cases pass inet callbacks interval round loop' with
      | error fault => rfl
      | ok passed =>
          obtain ⟨next, after, rest⟩ := passed
          cases next with
          | again => simp only [Checked.ok_bind, run, Checked.pure_eq_ok, List.append_nil,
              List.nil_append]
          | reading => rfl
          | stopped => rfl
  | cons first rounds ih =>
      rw [run, Checked.bind_eq_ok] at ran
      obtain ⟨⟨next, middle, front⟩, passed, rest⟩ := ran
      rw [List.cons_append, run, passed, Checked.ok_bind]
      cases next with
      | again =>
          simp only [Checked.bind_eq_ok, Checked.pure_eq_ok] at rest
          obtain ⟨⟨next', last, back⟩, later, same⟩ := rest
          cases same
          simp only [ih later]
          cases pass inet callbacks interval round last with
          | error fault => rfl
          | ok passed' =>
              simp only [Checked.ok_bind, Checked.pure_eq_ok, List.append_assoc]
      | reading => cases rest
      | stopped => cases rest

end Run

/-! ## Any order of moves -/

section Moves

variable {σ ι : Type} {ω : Type*}

section Agrees

variable (inet : Inet) (callbacks : Callbacks σ ω) (interval : Time)

/-- Alone `Run` gets through the passes it has seen, to this state. -/
def Seen.Made (seen : Seen ω) (start loop : Loop σ) (sends : List SendCall) : Prop :=
  run inet callbacks interval seen.rounds start = .ok (.again, loop, sends)

/-- What the pass under way comes to, however it would tick. -/
def Seen.Makes (seen : Seen ω) (loop : Loop σ)
    (result : Round ω → Checked (Next × Loop σ × List SendCall)) : Prop :=
  ∀ now done world, pass inet callbacks interval (seen.round now done world) loop =
    result (seen.round now done world)

/-- `Run` is where it gets to alone: between two passes, inside the one under way,
or out of it, because a pass has ended it or because it has seen the flag between
two of them. -/
def Threads.Agrees (s : Threads σ ι) (seen : Seen ω) (sends : List SendCall)
    (start : Loop σ) : Prop :=
  match s.place with
  | .entry | .head | .selecting | .waiting => seen.Made inet callbacks interval start s.loop sends
  | .selected ready =>
    seen.ready = ready ∧ seen.outcomes = [] ∧ seen.Made inet callbacks interval start s.loop sends
  | .reading => ∃ before, seen.Made inet callbacks interval start before sends ∧
      seen.ready = .readable ∧ s.loop = { before with app := s.loop.app } ∧
      drain inet callbacks.mRecvFn seen.outcomes before.app = .ok (.reading, s.loop.app)
  | .ticking => ∃ before, seen.Made inet callbacks interval start before sends ∧
      seen.Makes inet callbacks interval before fun round =>
        tickIfDue callbacks interval round s.loop
  | .returned =>
    (s.mShutdown = true ∧ seen.Made inet callbacks interval start s.loop sends) ∨
    run inet callbacks interval seen.rounds start = .ok (.stopped, s.loop, sends) ∨
    ∃ before, seen.Made inet callbacks interval start before sends ∧
      seen.Makes inet callbacks interval before fun _ => .ok (.stopped, s.loop, [])
  | .refused => s.mShutdown = true ∧ seen.Made inet callbacks interval start s.loop sends
  | .aborted fault =>
    run inet callbacks interval seen.rounds start = .error fault ∨
    ∃ before, seen.Made inet callbacks interval start before sends ∧
      seen.Makes inet callbacks interval before fun _ => .error fault

end Agrees

variable {inet : Inet} {callbacks : Callbacks σ ω} {interval : Time} {s s' : Threads σ ι}
  {seen : Seen ω} {sends : List SendCall} {start : Loop σ}

theorem Threads.Agrees.looks {move : RunMove ω} {place : Place}
    (agrees : s.Agrees inet callbacks interval seen sends start)
    (looks : Looks s.mShutdown move s.place place) :
    Threads.Agrees inet callbacks interval { s with place := place }
      (seen.add (.run move : Move ω ι)) sends start := by
  obtain ⟨mShutdown, mNotified, here, loop, callers⟩ := s
  cases looks with
  | select ready => exact ⟨rfl, rfl, agrees⟩
  | wake => exact agrees
  | enter =>
      cases mShutdown
      · exact agrees
      · exact ⟨rfl, agrees⟩
  | check =>
      cases mShutdown
      · exact agrees
      · exact .inl ⟨rfl, agrees⟩
  | recheck ready =>
      obtain ⟨rfl, fresh, made⟩ := agrees
      cases mShutdown with
      | true => exact .inl ⟨rfl, made⟩
      | false =>
          obtain ⟨rounds, ready, outcomes⟩ := seen
          cases ready with
          | timeout => exact ⟨loop, made, fun _ _ _ => rfl⟩
          | readable =>
              subst fresh
              exact ⟨loop, made, rfl, rfl, rfl⟩
          | error err =>
              by_cases interrupted : err = WSAEINTR
              · subst interrupted
                exact ⟨loop, made, fun _ _ _ => rfl⟩
              · have out : (if err ≠ WSAEINTR then Place.returned else .ticking) = .returned :=
                  if_pos interrupted
                simp only [Bool.false_eq_true, if_false, Ready.place, out]
                exact .inr (.inr ⟨loop, made, fun now done world => pass_of_error interrupted ..⟩)

/-- A turn of the inner loop. -/
theorem Threads.Agrees.recv {outcome : Outcome} {place : Place} {loop : Loop σ}
    (agrees : s.Agrees inet callbacks interval seen sends start) (here : s.place = .reading)
    (moved : (place, loop) = recvMove inet callbacks outcome s.loop) :
    Threads.Agrees inet callbacks interval { s with place := place, loop := loop }
      (seen.add (.run (.recv outcome) : Move ω ι)) sends start := by
  unfold Threads.Agrees at agrees
  rw [here] at agrees
  obtain ⟨before, made, readable, stands, read⟩ := agrees
  have whole := drain_append_of_reading read [outcome]
  have shape (now done : Time) (world : ω) :
      (seen.add (.run (.recv outcome) : Move ω ι)).round now done world =
        { select := .readable (seen.outcomes ++ [outcome]), now, done, world } := by
    simp only [Seen.round, Seen.add, readable, Ready.select]
  have again (app : σ) : { s.loop with app := app } = { before with app := app } := by
    rw [stands]
  simp only [recvMove, again] at moved
  -- The pass goes by how the inner loop is left, once it is.
  cases turn : drain inet callbacks.mRecvFn [outcome] s.loop.app with
  | error fault =>
      rw [turn] at moved
      cases moved
      refine .inr ⟨before, made, fun now done world => ?_⟩
      rw [shape, pass_readable, whole, turn]
      rfl
  | ok left =>
      obtain ⟨exit, app⟩ := left
      rw [turn] at moved
      cases exit with
      | reading =>
          cases moved
          exact ⟨before, made, readable, rfl, whole.trans turn⟩
      | drained unread =>
          cases moved
          refine ⟨before, made, fun now done world => ?_⟩
          rw [shape, pass_readable, whole, turn]
          rfl
      | returned unread =>
          cases moved
          refine .inr (.inr ⟨before, made, fun now done world => ?_⟩)
          rw [shape, pass_readable, whole, turn]
          rfl

/-- The end of the pass under way. -/
theorem Threads.Agrees.tick {now done : Time} {world : ω} {place : Place} {loop : Loop σ}
    {out : List SendCall} (agrees : s.Agrees inet callbacks interval seen sends start)
    (here : s.place = .ticking)
    (moved : (place, loop, out) = tickMove callbacks interval now done world s.loop) :
    Threads.Agrees inet callbacks interval { s with place := place, loop := loop }
      (seen.add (.run (.tick now done world) : Move ω ι)) (sends ++ out) start := by
  unfold Threads.Agrees at agrees
  rw [here] at agrees
  obtain ⟨before, made, passed⟩ := agrees
  have pass : pass inet callbacks interval (seen.round now done world) before =
      tickIfDue callbacks interval { select := .timeout, now, done, world } s.loop :=
    passed now done world
  have whole := run_snoc made (seen.round now done world)
  rw [pass] at whole
  unfold tickMove at moved
  cases ticked : tickIfDue callbacks interval { select := .timeout, now, done, world } s.loop with
  | error fault =>
      rw [ticked] at moved whole
      cases moved
      exact .inl whole
  | ok done' =>
      obtain ⟨next, after, out'⟩ := done'
      rw [ticked] at moved whole
      cases next with
      | again =>
          cases moved
          exact whole
      | reading => exact (tickIfDue_ne_reading _ _ _ _ ticked).elim
      | stopped =>
          cases moved
          exact .inr (.inl whole)

theorem Threads.Agrees.shutdown (agrees : s.Agrees inet callbacks interval seen sends start)
    (place : s'.place = s.place) (loop : s'.loop = s.loop)
    (down : s.mShutdown = true → s'.mShutdown = true) :
    s'.Agrees inet callbacks interval seen sends start := by
  obtain ⟨mShutdown, mNotified, here, state, callers⟩ := s
  obtain ⟨mShutdown', mNotified', here', state', callers'⟩ := s'
  cases place
  cases loop
  cases here with
  | returned => exact agrees.imp_left fun seen => ⟨down seen.1, seen.2⟩
  | refused => exact ⟨down agrees.1, agrees.2⟩
  | _ => exact agrees

variable [DecidableEq ι]

theorem sentBy_append (effects later : List Effect) :
    sentBy (effects ++ later) = sentBy effects ++ sentBy later := List.filterMap_append

theorem sentBy_map (sends : List SendCall) : sentBy (sends.map .sent) = sends := by
  rw [sentBy, List.filterMap_map]
  exact List.filterMap_some

theorem step_run {move : RunMove ω} {s s' : Threads σ ι} {effects : List Effect}
    (stepped : Threads.step inet callbacks interval (.run move) s = .ok (s', effects)) :
    ∃ place loop sends,
      runMove inet callbacks interval s.mShutdown move s.place s.loop = .ok (place, loop, sends) ∧
      s' = { s with place := place, loop := loop } ∧ effects = sends.map .sent := by
  simp only [Threads.step] at stepped
  split at stepped
  · cases stepped
  · rename_i place loop sends moved
    cases stepped
    exact ⟨place, loop, sends, moved, rfl, rfl⟩

/-- What a caller of `Shutdown` does. -/
theorem step_shutdown {i : ι} {s s' : Threads σ ι} {effects : List Effect}
    (stepped : Threads.step inet callbacks interval (.shutdown i) s = .ok (s', effects)) :
    (s.callers i = .outside ∧ s.mShutdown = true ∧ effects = [] ∧
      s' = { s with callers := Function.update s.callers i .returned }) ∨
    (s.callers i = .outside ∧ s.mShutdown = false ∧ effects = [] ∧
      s' = { s with mShutdown := true, callers := Function.update s.callers i .wakeup }) ∨
    (s.callers i = .wakeup ∧ effects = (if s.mNotified then [] else [.wakeup]) ∧
      s' = { s with mNotified := true, callers := Function.update s.callers i .notifying }) ∨
    (s.callers i = .notifying ∧ effects = [.notified] ∧
      s' = { s with callers := Function.update s.callers i .returned }) := by
  simp only [Threads.step, shutdownMove] at stepped
  split at stepped
  · rename_i outside
    split at stepped
    · rename_i down
      cases stepped
      exact .inl ⟨outside, down, rfl, rfl⟩
    · rename_i up
      cases stepped
      exact .inr (.inl ⟨outside, eq_false_of_ne_true up, rfl, rfl⟩)
  · rename_i inside
    cases stepped
    exact .inr (.inr (.inl ⟨inside, rfl, rfl⟩))
  · rename_i last
    cases stepped
    exact .inr (.inr (.inr ⟨last, rfl, rfl⟩))
  · cases stepped

/-- A caller leaves `Run` alone and sends nothing. -/
theorem apart_of_shutdown {i : ι} {s s' : Threads σ ι} {effects : List Effect}
    (stepped : Threads.step inet callbacks interval (.shutdown i) s = .ok (s', effects)) :
    s'.place = s.place ∧ s'.loop = s.loop ∧ sentBy effects = [] ∧
      (s.mShutdown = true → s'.mShutdown = true) := by
  rcases step_shutdown stepped with
    ⟨-, -, rfl, rfl⟩ | ⟨-, -, rfl, rfl⟩ | ⟨-, rfl, rfl⟩ | ⟨-, rfl, rfl⟩
  · exact ⟨rfl, rfl, rfl, id⟩
  · exact ⟨rfl, rfl, rfl, fun _ => rfl⟩
  · refine ⟨rfl, rfl, ?_, id⟩
    cases s.mNotified <;> rfl
  · exact ⟨rfl, rfl, rfl, id⟩

/-- In any order of the moves, `Run` is where it gets to alone with what its moves
came back with. -/
theorem run_among_threads {start : Loop σ} {moves : List (Move ω ι)} {s : Threads σ ι}
    {effects : List Effect}
    (ran : Run.run (Threads.step inet callbacks interval) moves { loop := start } =
      .ok (s, effects)) :
    s.Agrees inet callbacks interval (.after moves) (sentBy effects) start := by
  refine Run.run_induction (motive := fun moves effects s =>
    s.Agrees inet callbacks interval (.after moves) (sentBy effects) start) rfl ?_ ran
  intro past effects s move s' out _ agrees stepped
  rw [sentBy_append, Seen.after_append]
  cases move with
  | shutdown i =>
      rcases apart_of_shutdown stepped with ⟨place, loop, silent, down⟩
      rw [silent, List.append_nil]
      exact agrees.shutdown place loop down
  | run move =>
      obtain ⟨place, loop, sends, moved, rfl, rfl⟩ := step_run stepped
      rw [sentBy_map]
      rcases runMove_cases moved with
        ⟨looks, rfl, rfl⟩ | ⟨outcome, rfl, here, rfl, received⟩ | ⟨now, done, world, rfl, here, ticked⟩
      · rw [List.append_nil]
        exact agrees.looks looks
      · rw [List.append_nil]
        exact agrees.recv here received
      · exact agrees.tick here ticked

/-- Callbacks that do nothing. -/
def idle : Callbacks Unit Unit where
  mRecvFn := skip
  tick _ app := return (true, app, [])

/-- Two calls of `Shutdown`, while `Run` is in `select`. -/
def twoCalls : List (Move Unit Bool) :=
  [.run .enter, .run .check, .shutdown true, .run (.select .timeout), .shutdown false,
    .shutdown true, .run .recheck, .shutdown true]

/-- All three threads have returned. -/
def twoCallsEnd : Threads Unit Bool where
  mShutdown := true
  mNotified := true
  place := .returned
  loop := { app := () }
  callers _ := .returned

theorem two_calls_return :
    Run.run (Threads.step .dottedQuad idle (milliseconds 30)) twoCalls
      ({ loop := { app := () } } : Threads Unit Bool) =
        .ok (twoCallsEnd, [.wakeup, .notified]) := by
  have callers : Function.update (Function.update (Function.update (Function.update
      (fun _ : Bool => Caller.outside) true .wakeup) false .returned) true .notifying) true
        .returned = fun _ => .returned := by
    funext i
    cases i <;> rfl
  unfold twoCallsEnd
  rw [← callers]
  rfl

theorem run_among_threads_two_calls :
    twoCallsEnd.Agrees .dottedQuad idle (milliseconds 30) (.after twoCalls) [] { app := () } :=
  run_among_threads two_calls_return

end Moves

/-! ## After `Shutdown` -/

section Down

variable {σ ι : Type} {ω : Type*} {inet : Inet} {callbacks : Callbacks σ ω} {interval : Time}

/-- The number of moves `Run` can still make once the flag is up, besides those that
read. -/
def Place.budget : Place → Nat
  | .entry | .head | .selected _ => 1
  | .selecting | .waiting => 2
  | .ticking => 3
  | .reading => 4
  | .returned | .refused | .aborted _ => 0

/-- In the part of a pass that calls into the game. -/
def Place.isWorking : Place → Bool
  | .reading | .ticking => true
  | _ => false

/-- The inner loop reads on after it. -/
def Outcome.goesOn : Outcome → Bool
  | .datagram _ => true
  | .error err => err ≠ WSAEWOULDBLOCK ∧ err ≠ WSAECONNRESET ∧ err ≠ WSAECONNREFUSED

def Move.isRun : Move ω ι → Bool
  | .run _ => true
  | .shutdown _ => false

/-- A turn of the inner loop after which there is another. -/
def Move.readsOn : Move ω ι → Bool
  | .run (.recv outcome) => outcome.goesOn
  | _ => false

def Move.isTick : Move ω ι → Bool
  | .run (.tick ..) => true
  | _ => false

/-- What `Run` may come upon. -/
structure Found (ω : Type*) where
  ready : Ready
  outcome : Outcome
  now : Time
  done : Time
  world : ω

/-- The next move of `Run`. -/
def Place.next (found : Found ω) : Place → RunMove ω
  | .entry => .enter
  | .head => .check
  | .selecting => .select found.ready
  | .selected _ => .recheck
  | .reading => .recv found.outcome
  | .ticking => .tick found.now found.done found.world
  | _ => .wake

theorem budget_looks {move : RunMove ω} {place place' : Place}
    (looks : Looks true move place place') :
    place'.budget + 1 = place.budget ∧ place.isWorking = false ∧ place'.isWorking = false ∧
      (Move.run move : Move ω ι).readsOn = false ∧ (Move.run move : Move ω ι).isTick = false := by
  cases looks <;> exact ⟨rfl, rfl, rfl, rfl, rfl⟩

/-- A turn of the inner loop uses something up, or there is another. -/
theorem budget_recvMove (outcome : Outcome) (loop : Loop σ) :
    (recvMove inet callbacks outcome loop).1.budget + 1 ≤ 4 + outcome.goesOn.toNat := by
  unfold recvMove
  split
  · exact Nat.le_add_right_of_le (by decide : 1 ≤ 4)
  · rename_i app read
    have goesOn : outcome.goesOn = true := by
      cases outcome with
      | datagram datagram => rfl
      | error err =>
          rw [drain] at read
          split at read
          · cases read
          · split at read
            · rename_i unblocked fatal
              exact decide_eq_true ⟨unblocked, fatal⟩
            · cases read
    rw [goesOn]
    exact le_refl 5
  · exact Nat.le_add_right_of_le (le_refl 4)
  · exact Nat.le_add_right_of_le (by decide : 1 ≤ 4)

theorem budget_tickMove (now done : Time) (world : ω) (loop : Loop σ) :
    (tickMove callbacks interval now done world loop).1.budget < 3 ∧
      (tickMove callbacks interval now done world loop).1.isWorking = false := by
  unfold tickMove
  split
  · exact ⟨(by decide : 0 < 3), rfl⟩
  · exact ⟨(by decide : 2 < 3), rfl⟩
  · exact ⟨(by decide : 0 < 3), rfl⟩

variable [DecidableEq ι]

/-- Whatever `Run` comes upon, it has a move until it is through. -/
theorem exists_step_next (s : Threads σ ι) (going : s.place.budget ≠ 0) (found : Found ω) :
    ∃ s' effects, Threads.step inet callbacks interval (.run (s.place.next found)) s =
      .ok (s', effects) := by
  obtain ⟨mShutdown, mNotified, place, loop, callers⟩ := s
  cases place with
  | returned => exact absurd rfl going
  | refused => exact absurd rfl going
  | aborted fault => exact absurd rfl going
  | _ => exact ⟨_, _, rfl⟩

/-- One move after the flag is up. -/
theorem step_down {move : Move ω ι} {s s' : Threads σ ι} {effects : List Effect}
    (down : s.mShutdown = true)
    (stepped : Threads.step inet callbacks interval move s = .ok (s', effects)) :
    s'.mShutdown = true ∧
      s'.place.budget + move.isRun.toNat ≤ s.place.budget + move.readsOn.toNat ∧
      move.isTick.toNat + s'.place.isWorking.toNat ≤ s.place.isWorking.toNat ∧
      (s.place.isWorking = false → s'.loop = s.loop ∧ sentBy effects = []) := by
  cases move with
  | shutdown i =>
      rcases apart_of_shutdown stepped with ⟨place, loop, silent, stays⟩
      rw [place]
      exact ⟨stays down, le_refl _, (Nat.zero_add _).le, fun _ => ⟨loop, silent⟩⟩
  | run move =>
      obtain ⟨place, loop, sends, moved, rfl, rfl⟩ := step_run stepped
      rw [sentBy_map]
      rcases runMove_cases moved with
        ⟨looks, rfl, rfl⟩ | ⟨outcome, rfl, here, -, received⟩ | ⟨now, done, world, rfl, here, ticked⟩
      · obtain ⟨spent, before, after, reads, ticks⟩ := @budget_looks ι _ _ _ _ (down ▸ looks)
        rw [before, after, reads, ticks]
        exact ⟨down, spent.le, le_refl _, fun _ => ⟨rfl, rfl⟩⟩
      · rw [here]
        obtain rfl : place = (recvMove inet callbacks outcome s.loop).1 := congrArg Prod.fst received
        exact ⟨down, budget_recvMove outcome s.loop, (Nat.zero_add _).trans_le (Bool.toNat_le _),
          fun idle => by cases idle⟩
      · rw [here]
        obtain rfl : place = (tickMove callbacks interval now done world s.loop).1 :=
          congrArg Prod.fst ticked
        obtain ⟨spent, after⟩ := @budget_tickMove _ _ callbacks interval now done world s.loop
        rw [after]
        exact ⟨down, spent, le_refl _, fun idle => by cases idle⟩

/-- The inner loop goes on as long as `recvfrom` has something else to tell than
that it would block or that the connection is gone. -/
theorem exists_turns (s : Threads σ ι) (here : s.place = .reading) (n : Nat) :
    ∃ turns : List (Move ω ι), turns.length = n ∧ (∀ move ∈ turns, move.isRun = true) ∧
      Run.run (Threads.step inet callbacks interval) turns s = .ok (s, []) := by
  obtain ⟨mShutdown, mNotified, place, loop, callers⟩ := s
  obtain rfl : place = .reading := here
  refine ⟨List.replicate n (.run (.recv (.error WSAENETDOWN))), List.length_replicate, ?_, ?_⟩
  · intro move member
    rw [List.eq_of_mem_replicate member]
    rfl
  · induction n with
    | zero => rfl
    | succ n ih => exact Run.run_cons_eq_ok.mpr ⟨_, [], [], rfl, ih, rfl⟩

theorem countP_cons_toNat {α : Type*} (p : α → Bool) (a : α) (as : List α) :
    (a :: as).countP p = (p a).toNat + as.countP p := by
  rw [List.countP_cons, Nat.add_comm]
  cases p a <;> rfl

/-- Any moves after the flag is up. -/
theorem run_down {moves : List (Move ω ι)} {s s' : Threads σ ι} {effects : List Effect}
    (down : s.mShutdown = true)
    (ran : Run.run (Threads.step inet callbacks interval) moves s = .ok (s', effects)) :
    moves.countP Move.isRun + s'.place.budget ≤ s.place.budget + moves.countP Move.readsOn ∧
      moves.countP Move.isTick ≤ s.place.isWorking.toNat ∧
      (s.place.isWorking = false → s'.loop = s.loop ∧ sentBy effects = []) := by
  induction moves generalizing s effects with
  | nil =>
      cases ran
      exact ⟨(Nat.zero_add _).le, Nat.zero_le _, fun _ => ⟨rfl, rfl⟩⟩
  | cons move moves ih =>
      obtain ⟨next, out, rest, stepped, later, rfl⟩ := Run.run_cons_eq_ok.mp ran
      rcases step_down down stepped with ⟨stays, spent, ticked, idle⟩
      rcases ih stays later with ⟨budget, ticks, quiet⟩
      simp only [countP_cons_toNat, sentBy_append]
      refine ⟨by omega, by omega, ?_⟩
      intro outside
      rw [outside, Bool.toNat_false, Nat.le_zero, Nat.add_eq_zero_iff] at ticked
      rcases idle outside with ⟨same, silent⟩
      rcases quiet (Bool.toNat_eq_zero.mp ticked.2) with ⟨same', silent'⟩
      exact ⟨same'.trans same, by rw [silent, silent', List.append_nil]⟩

theorem budget_le (place : Place) : place.budget ≤ 4 := by
  cases place <;> simp [Place.budget]

/-- Once the flag is up `Run` makes four moves at most besides turns of the inner
loop, and always has a next one until it is through.  It ticks once at most, and
does nothing at all unless it was reading or about to tick.  But the inner loop does
not look at the flag, and lasts as long as there is something to read. -/
theorem shutdown_stops_run {moves : List (Move ω ι)} {s s' : Threads σ ι}
    {effects : List Effect} (down : s.mShutdown = true)
    (ran : Run.run (Threads.step inet callbacks interval) moves s = .ok (s', effects)) :
    (moves.countP Move.isRun + s'.place.budget ≤ s.place.budget + moves.countP Move.readsOn ∧
      s.place.budget ≤ 4) ∧
    (s'.place.budget ≠ 0 → ∀ found, ∃ s'' effects',
      Threads.step inet callbacks interval (.run (s'.place.next found)) s' =
        .ok (s'', effects')) ∧
    moves.countP Move.isTick ≤ s.place.isWorking.toNat ∧
    (s.place.isWorking = false → s'.loop = s.loop ∧ sentBy effects = []) ∧
    (s'.place = .reading → ∀ n, ∃ turns : List (Move ω ι), turns.length = n ∧
      (∀ move ∈ turns, move.isRun = true) ∧
      Run.run (Threads.step inet callbacks interval) turns s' = .ok (s', [])) := by
  obtain ⟨budget, ticks, quiet⟩ := run_down down ran
  exact ⟨⟨budget, budget_le s.place⟩, exists_step_next s', ticks, quiet, exists_turns s'⟩

/-- Two moves after the wait is over `Run` has returned. -/
theorem shutdown_stops_run_waiting :
    ∃ s' effects, Run.run (Threads.step .dottedQuad idle (milliseconds 30))
        [.run .wake, .run .check]
        ({ mShutdown := true, place := .waiting, loop := { app := () } } : Threads Unit Bool) =
          .ok (s', effects) ∧
      2 + s'.place.budget ≤ 2 ∧ sentBy effects = [] := by
  have ran : Run.run (Threads.step .dottedQuad idle (milliseconds 30)) [.run .wake, .run .check]
      ({ mShutdown := true, place := .waiting, loop := { app := () } } : Threads Unit Bool) =
        .ok ({ mShutdown := true, place := .returned, loop := { app := () } }, []) := rfl
  obtain ⟨⟨spent, -⟩, -, -, quiet, -⟩ := shutdown_stops_run rfl ran
  exact ⟨_, _, ran, spent, (quiet rfl).2⟩

end Down

/-! ## `Wakeup` -/

section Wakeup

variable {σ ι : Type} {ω : Type*} {inet : Inet} {callbacks : Callbacks σ ω} {interval : Time}

/-- The call that wakes `Run`, on its way: where it is, what it has left in
`mNotified`, and how often it has printed its line and notified. -/
inductive Waking : Caller → Bool → Nat → Nat → Prop
  | wakeup : Waking .wakeup false 0 0
  | notifying : Waking .notifying true 1 0
  | returned : Waking .returned true 1 1

/-- One call is the one that wakes `Run`, and the others pass it by. -/
def Led (callers : ι → Caller) (mNotified : Bool) (wakeups notified : Nat) (i : ι) : Prop :=
  Waking (callers i) mNotified wakeups notified ∧
    ∀ j, j ≠ i → callers j = .outside ∨ callers j = .returned

/-- Nobody has called `Shutdown`, or some call leads. -/
def OneWaker (callers : ι → Caller) : Bool → Bool → Nat → Nat → Prop
  | false, mNotified, wakeups, notified =>
    mNotified = false ∧ (∀ i, callers i = .outside) ∧ wakeups = 0 ∧ notified = 0
  | true, mNotified, wakeups, notified => ∃ i, Led callers mNotified wakeups notified i

section Callers

variable {callers : ι → Caller} {mShutdown mNotified : Bool} {wakeups notified : Nat} {i : ι}

/-- The call that is in `Wakeup` leads. -/
theorem OneWaker.led (one : OneWaker callers mShutdown mNotified wakeups notified)
    {caller : Caller} (here : callers i = caller) (inside : caller ≠ .outside)
    (inside' : caller ≠ .returned) :
    mShutdown = true ∧ Waking caller mNotified wakeups notified ∧
      Led callers mNotified wakeups notified i := by
  subst here
  cases mShutdown with
  | false => exact absurd (one.2.1 i) inside
  | true =>
      obtain ⟨k, waking, others⟩ := one
      have same : i = k := by
        by_contra ne
        exact (others i ne).elim inside inside'
      subst same
      exact ⟨rfl, waking, waking, others⟩

variable [DecidableEq ι]

/-- The leading call goes on. -/
theorem Led.advance (led : Led callers mNotified wakeups notified i) {mNotified' : Bool}
    {caller : Caller} {wakeups' notified' : Nat}
    (waking : Waking caller mNotified' wakeups' notified') :
    Led (Function.update callers i caller) mNotified' wakeups' notified' i := by
  refine ⟨by rwa [Function.update_self], fun j ne => ?_⟩
  rw [Function.update_of_ne ne]
  exact led.2 j ne

/-- A call that finds the flag up leaves at once. -/
theorem Led.pass (led : Led callers mNotified wakeups notified i) {j : ι}
    (outside : callers j = .outside) :
    Led (Function.update callers j .returned) mNotified wakeups notified i := by
  have other : i ≠ j := by
    rintro rfl
    rcases led with ⟨waking, -⟩
    rw [outside] at waking
    cases waking
  refine ⟨by rw [Function.update_of_ne other]; exact led.1, fun k ne => ?_⟩
  by_cases same : k = j
  · rw [same, Function.update_self]
    exact .inr rfl
  · rw [Function.update_of_ne same]
    exact led.2 k ne

end Callers

theorem OneWaker.shutdown [DecidableEq ι] {s s' : Threads σ ι} {wakeups notified : Nat} {i : ι}
    {effects : List Effect}
    (one : OneWaker s.callers s.mShutdown s.mNotified wakeups notified)
    (stepped : Threads.step inet callbacks interval (.shutdown i) s = .ok (s', effects)) :
    OneWaker s'.callers s'.mShutdown s'.mNotified (wakeups + effects.count .wakeup)
      (notified + effects.count .notified) := by
  obtain ⟨mShutdown, mNotified, place, loop, callers⟩ := s
  rcases step_shutdown stepped with
    ⟨outside, rfl, rfl, rfl⟩ | ⟨outside, rfl, rfl, rfl⟩ | ⟨inside, rfl, rfl⟩ | ⟨last, rfl, rfl⟩
  · exact one.imp fun k led => led.pass outside
  · obtain ⟨rfl, all, rfl, rfl⟩ := one
    have led : Led (Function.update callers i .wakeup) false 0 0 i := by
      refine ⟨?_, fun j ne => ?_⟩
      · rw [Function.update_self]
        exact .wakeup
      · rw [Function.update_of_ne ne]
        exact .inl (all j)
    exact ⟨i, led⟩
  · obtain ⟨rfl, waking, led⟩ := one.led inside (by decide) (by decide)
    cases waking
    exact ⟨i, led.advance .notifying⟩
  · obtain ⟨rfl, waking, led⟩ := one.led last (by decide) (by decide)
    cases waking
    exact ⟨i, led.advance .returned⟩

theorem count_map_sent (sends : List SendCall) :
    (sends.map Effect.sent).count .wakeup = 0 ∧ (sends.map Effect.sent).count .notified = 0 := by
  constructor
  · exact List.count_eq_zero.mpr fun member => by simp at member
  · exact List.count_eq_zero.mpr fun member => by simp at member

theorem oneWaker_of_run [DecidableEq ι] {start : Loop σ} {moves : List (Move ω ι)}
    {s : Threads σ ι} {effects : List Effect}
    (ran : Run.run (Threads.step inet callbacks interval) moves { loop := start } =
      .ok (s, effects)) :
    OneWaker s.callers s.mShutdown s.mNotified (effects.count .wakeup)
      (effects.count .notified) := by
  refine Run.run_induction (motive := fun _ effects s => OneWaker s.callers s.mShutdown s.mNotified
    (effects.count .wakeup) (effects.count .notified)) ?_ ?_ ran
  · exact ⟨rfl, fun _ => rfl, rfl, rfl⟩
  · intro past effects s move s' out _ one stepped
    rw [List.count_append, List.count_append]
    cases move with
    | shutdown i => exact one.shutdown stepped
    | run move =>
        obtain ⟨place, loop, sends, -, rfl, rfl⟩ := step_run stepped
        rw [(count_map_sent sends).1, (count_map_sent sends).2]
        exact one

/-- However many calls of `Shutdown` there are, one of them wakes `Run`, once; what
`mNotified` guards against does not happen.  All of them have returned only when
that one has notified. -/
theorem one_wakeup [DecidableEq ι] {start : Loop σ} {moves : List (Move ω ι)} {s : Threads σ ι}
    {effects : List Effect}
    (ran : Run.run (Threads.step inet callbacks interval) moves { loop := start } =
      .ok (s, effects)) :
    effects.count .wakeup ≤ 1 ∧ effects.count .notified ≤ effects.count .wakeup ∧
      (∀ i, s.callers i = .wakeup → s.mNotified = false) ∧
      (∀ i, s.callers i ≠ .outside → s.mShutdown = true) ∧
      (s.mShutdown = true → (∀ i, s.callers i = .outside ∨ s.callers i = .returned) →
        effects.count .wakeup = 1 ∧ effects.count .notified = 1) := by
  have one := oneWaker_of_run ran
  generalize effects.count .wakeup = wakeups, effects.count .notified = notified at one ⊢
  obtain ⟨mShutdown, mNotified, place, loop, callers⟩ := s
  change OneWaker callers mShutdown mNotified wakeups notified at one
  have unnotified : ∀ i, callers i = .wakeup → mNotified = false := by
    intro i inside
    obtain ⟨-, waking, -⟩ := one.led inside (by decide) (by decide)
    cases waking
    rfl
  cases mShutdown with
  | false =>
      obtain ⟨-, all, rfl, rfl⟩ := one
      exact ⟨Nat.zero_le _, le_refl _, unnotified, fun i inside => absurd (all i) inside,
        fun up => by cases up⟩
  | true =>
      obtain ⟨i, waking, others⟩ := one
      have counts : wakeups ≤ 1 ∧ notified ≤ wakeups := by
        generalize callers i = caller at waking
        cases waking <;> exact ⟨by decide, by decide⟩
      refine ⟨counts.1, counts.2, unnotified, fun _ _ => rfl, fun _ out => ?_⟩
      have out' : callers i = .outside ∨ callers i = .returned := out i
      rcases out' with outside | returned
      · rw [outside] at waking
        cases waking
      · rw [returned] at waking
        cases waking
        exact ⟨rfl, rfl⟩

theorem one_wakeup_two_calls :
    ∃ effects, Run.run (Threads.step .dottedQuad idle (milliseconds 30)) twoCalls
        ({ loop := { app := () } } : Threads Unit Bool) = .ok (twoCallsEnd, effects) ∧
      effects.count .wakeup = 1 ∧ effects.count .notified = 1 := by
  have ran : Run.run (Threads.step .dottedQuad idle (milliseconds 30)) twoCalls
      ({ loop := { app := () } } : Threads Unit Bool) =
        .ok (twoCallsEnd, [.wakeup, .notified]) := two_calls_return
  obtain ⟨-, -, -, -, all⟩ := one_wakeup ran
  exact ⟨_, ran, all rfl (by decide)⟩

end Wakeup

end UdpServer

end UdpGame
