import UdpGame.EventPipeline

/-!
# `UdpServer::Run`

The loop that waits for the socket, reads it until it would block and ticks.
What the socket answers is an input: an `Outcome` for each `recvfrom`, a
`Select` for each pass.  The branches for the two classes of errors are swapped
in the source, and `receive_loop_iff` says for which outcomes this does not
show.
-/

namespace UdpGame

namespace UdpServer

def WSAEINTR : Int := 10004
def WSAEWOULDBLOCK : Int := 10035
def WSAECONNRESET : Int := 10054
def WSAECONNREFUSED : Int := 10061

/-- What one `recvfrom` comes back with. -/
inductive Outcome where
  | datagram (datagram : Datagram)
  | error (err : Int)
  deriving DecidableEq, Repr

/-- How the inner loop is left, and what it has not read. -/
inductive Exit where
  /-- Not yet: the loop is about to read again. -/
  | reading
  /-- By `break`. -/
  | drained (unread : List Outcome)
  /-- By `return`, out of `Run`. -/
  | returned (unread : List Outcome)
  deriving DecidableEq, Repr

/-- The two functions a `UdpServer` calls: `mRecvFn` and `tick`. -/
structure Callbacks (σ : Type) (ω : Type*) where
  mRecvFn : NetworkMessage → σ → Checked σ
  tick : ω → σ → Checked (Bool × σ × List SendCall)

section Loop

variable {σ : Type} {ω : Type*} (inet : Inet)

/-- The inner loop, over the outcomes it meets. -/
def drain (mRecvFn : NetworkMessage → σ → Checked σ) : List Outcome → σ → Checked (Exit × σ)
  | [], app => return (.reading, app)
  | .error err :: outcomes, app =>
    if err = WSAEWOULDBLOCK then
      return (.drained outcomes, app)
    else if err ≠ WSAECONNRESET ∧ err ≠ WSAECONNREFUSED then
      drain mRecvFn outcomes app
    else
      return (.returned outcomes, app)
  | .datagram datagram :: outcomes, app => do
    let app ← mRecvFn (.received inet datagram.source datagram.bytes) app
    drain mRecvFn outcomes app

inductive Select where
  | error (err : Int)
  | timeout
  | readable (outcomes : List Outcome)

/-- What one pass of the outer loop meets: the shutdown flag after the wait, the
wait, the clock before and after the tick, and the world of the tick. -/
structure Round (ω : Type*) where
  mShutdown : Bool := false
  select : Select
  now : Time
  done : Time := now
  world : ω

/-- The state of `Run`: its own variable and the application's. -/
structure Loop (σ : Type) where
  lastTick : Time := 0
  app : σ

/-- What follows a pass: the next one, more reading, or the end of `Run`. -/
inductive Next where
  | again
  | reading
  | stopped
  deriving DecidableEq, Repr

variable (callbacks : Callbacks σ ω) (interval : Time)

/-- The end of a pass. -/
def tickIfDue (round : Round ω) (loop : Loop σ) : Checked (Next × Loop σ × List SendCall) :=
  if round.now - loop.lastTick > interval then do
    let (result, app, sends) ← callbacks.tick round.world loop.app
    if !result then
      return (.stopped, { loop with app := app }, sends)
    else
      return (.again, { lastTick := round.done, app := app }, sends)
  else
    return (.again, loop, [])

/-- One pass of the outer loop. -/
def pass (round : Round ω) (loop : Loop σ) : Checked (Next × Loop σ × List SendCall) :=
  if round.mShutdown then
    return (.stopped, loop, [])
  else
    match round.select with
    | .error err =>
      if err ≠ WSAEINTR then
        return (.stopped, loop, [])
      else
        tickIfDue callbacks interval round loop
    | .timeout => tickIfDue callbacks interval round loop
    | .readable outcomes => do
      let (exit, app) ← drain inet callbacks.mRecvFn outcomes loop.app
      let loop := { loop with app := app }
      match exit with
      | .reading => return (.reading, loop, [])
      | .drained _ => tickIfDue callbacks interval round loop
      | .returned _ => return (.stopped, loop, [])

/-- `UdpServer::Run`, pass by pass. -/
def run : List (Round ω) → Loop σ → Checked (Next × Loop σ × List SendCall)
  | [], loop => return (.again, loop, [])
  | round :: rounds, loop => do
    let (next, loop, sends) ← pass inet callbacks interval round loop
    match next with
    | .again => do
      let (next, loop, rest) ← run rounds loop
      return (next, loop, sends ++ rest)
    | next => return (next, loop, sends)

end Loop

/-- What `Run` asserts before it begins; the two functions are there. -/
def runAsserts (mSocket : Option Nat) (interval : Time) (mShutdown : Bool) : Checked Unit := do
  Checked.assert (mSocket ≠ none)
  Checked.assert (0 < toMilliseconds interval)
  Checked.assert (¬ mShutdown)

theorem runAsserts_eq_ok {mSocket : Option Nat} {interval : Time} {mShutdown : Bool} :
    runAsserts mSocket interval mShutdown = .ok () ↔
      mSocket ≠ none ∧ milliseconds 1 ≤ interval ∧ mShutdown = false := by
  simp only [runAsserts, Checked.bind_eq_ok, Checked.assert_eq_ok, exists_const,
    toMilliseconds_pos, Bool.not_eq_true]

theorem runAsserts_eq_error {mSocket : Option Nat} {interval : Time} {mShutdown : Bool}
    (fails : ¬ (mSocket ≠ none ∧ milliseconds 1 ≤ interval ∧ mShutdown = false)) :
    runAsserts mSocket interval mShutdown = .error .assertion := by
  simp only [← toMilliseconds_pos, ← Bool.not_eq_true] at fails
  unfold runAsserts
  by_cases valid : mSocket ≠ none
  · rw [Checked.assert_of valid, Checked.ok_bind]
    by_cases long : 0 < toMilliseconds interval
    · rw [Checked.assert_of long, Checked.ok_bind]
      exact Checked.assert_of_not fun up => fails ⟨valid, long, up⟩
    · rw [Checked.assert_of_not long, Checked.error_bind]
  · rw [Checked.assert_of_not valid, Checked.error_bind]

/-! ## The classes of outcomes -/

def Outcome.isDatagram : Outcome → Bool
  | .datagram _ => true
  | .error _ => false

/-- Datagrams and transient errors. -/
def Outcome.passes : Outcome → Bool
  | .datagram _ => true
  | .error err => err = WSAECONNRESET ∨ err = WSAECONNREFUSED

/-- The messages of the datagrams among some outcomes. -/
def messages (inet : Inet) (outcomes : List Outcome) : List NetworkMessage :=
  outcomes.filterMap fun
    | .datagram datagram => some (.received inet datagram.source datagram.bytes)
    | .error _ => none

/-- Pass messages on, once each and in order. -/
def deliver {σ : Type} (mRecvFn : NetworkMessage → σ → Checked σ) (messages : List NetworkMessage)
    (app : σ) : Checked σ :=
  messages.foldlM (fun app msg => mRecvFn msg app) app

/-- What the comments in the inner loop say it does, whatever it calls: the
datagrams up to the first outcome that does not pass are delivered, and that
outcome ends the loop by `break` if it is `WSAEWOULDBLOCK`, else by `return`.
After the `break` comes the tick. -/
structure ErrorClasses (inet : Inet) (outcomes : List Outcome) : Prop where
  passing : (∀ outcome ∈ outcomes, outcome.passes) →
    ∀ {σ : Type} (mRecvFn : NetworkMessage → σ → Checked σ) (app : σ),
      drain inet mRecvFn outcomes app = do
        return (.reading, ← deliver mRecvFn (messages inet outcomes) app)
  blocked : ∀ before rest, outcomes = before ++ .error WSAEWOULDBLOCK :: rest →
    (∀ outcome ∈ before, outcome.passes) →
    ∀ {σ : Type} (mRecvFn : NetworkMessage → σ → Checked σ) (app : σ),
      drain inet mRecvFn outcomes app = do
        return (.drained rest, ← deliver mRecvFn (messages inet before) app)
  fatal : ∀ before err rest, outcomes = before ++ .error err :: rest →
    (∀ outcome ∈ before, outcome.passes) → ¬ (Outcome.error err).passes → err ≠ WSAEWOULDBLOCK →
    ∀ {σ : Type} (mRecvFn : NetworkMessage → σ → Checked σ) (app : σ),
      drain inet mRecvFn outcomes app = do
        return (.returned rest, ← deliver mRecvFn (messages inet before) app)
  ticks : ∀ before rest, outcomes = before ++ .error WSAEWOULDBLOCK :: rest →
    (∀ outcome ∈ before, outcome.passes) →
    ∀ {σ : Type} {ω : Type 1} (callbacks : Callbacks σ ω) (interval : Time) (round : Round ω)
      (loop : Loop σ), round.mShutdown = false → round.select = .readable outcomes →
      pass inet callbacks interval round loop = do
        let app ← deliver callbacks.mRecvFn (messages inet before) loop.app
        tickIfDue callbacks interval round { loop with app := app }
  stops : ∀ before err rest, outcomes = before ++ .error err :: rest →
    (∀ outcome ∈ before, outcome.passes) → ¬ (Outcome.error err).passes → err ≠ WSAEWOULDBLOCK →
    ∀ {σ : Type} {ω : Type 1} (callbacks : Callbacks σ ω) (interval : Time) (round : Round ω)
      (loop : Loop σ), round.mShutdown = false → round.select = .readable outcomes →
      pass inet callbacks interval round loop = do
        let app ← deliver callbacks.mRecvFn (messages inet before) loop.app
        return (.stopped, { loop with app := app }, [])

section Drain

variable {σ : Type} (inet : Inet) (mRecvFn : NetworkMessage → σ → Checked σ)

/-- The loop delivers the datagrams at the front. -/
theorem drain_append {before : List Outcome} (datagrams : ∀ outcome ∈ before, outcome.isDatagram)
    (rest : List Outcome) (app : σ) :
    drain inet mRecvFn (before ++ rest) app =
      deliver mRecvFn (messages inet before) app >>= drain inet mRecvFn rest := by
  induction before generalizing app with
  | nil =>
      simp only [List.nil_append, messages, List.filterMap_nil, deliver, List.foldlM_nil,
        Checked.pure_eq_ok, Checked.ok_bind]
  | cons outcome before ih =>
      have first := datagrams outcome List.mem_cons_self
      cases outcome with
      | error err => cases first
      | datagram datagram =>
          simp only [List.cons_append, drain, messages, List.filterMap_cons, deliver,
            List.foldlM_cons]
          cases mRecvFn (.received inet datagram.source datagram.bytes) app with
          | error fault => rfl
          | ok app =>
              simp only [Checked.ok_bind]
              exact ih (fun outcome member => datagrams outcome (List.mem_cons_of_mem _ member)) app

theorem drain_blocked (rest : List Outcome) (app : σ) :
    drain inet mRecvFn (.error WSAEWOULDBLOCK :: rest) app = .ok (.drained rest, app) := by
  simp only [drain, if_true, Checked.pure_eq_ok]

/-- An error that the comments call transient ends `Run`. -/
theorem drain_transient {err : Int} (transient : (Outcome.error err).passes)
    (rest : List Outcome) (app : σ) :
    drain inet mRecvFn (.error err :: rest) app = .ok (.returned rest, app) := by
  have code : err = WSAECONNRESET ∨ err = WSAECONNREFUSED := of_decide_eq_true transient
  have other : err ≠ WSAEWOULDBLOCK := by
    rcases code with rfl | rfl <;> decide
  have skipped : ¬ (err ≠ WSAECONNRESET ∧ err ≠ WSAECONNREFUSED) := by
    intro neither
    rcases neither with ⟨reset, refused⟩
    exact code.elim reset refused
  simp only [drain, if_neg other, if_neg skipped, Checked.pure_eq_ok]

/-- An error that they call fatal is skipped. -/
theorem drain_fatal {err : Int} (fatal : ¬ (Outcome.error err).passes)
    (other : err ≠ WSAEWOULDBLOCK) (rest : List Outcome) (app : σ) :
    drain inet mRecvFn (.error err :: rest) app = drain inet mRecvFn rest app := by
  have skipped : err ≠ WSAECONNRESET ∧ err ≠ WSAECONNREFUSED :=
    not_or.mp fun code => fatal (decide_eq_true code)
  simp only [drain, if_neg other, if_pos skipped]

/-- A pass that finds the socket readable goes by how the inner loop ends. -/
theorem pass_of_drain {ω : Type*} {callbacks : Callbacks σ ω} {interval : Time}
    {round : Round ω} {loop : Loop σ} {outcomes : List Outcome} {exit : Exit}
    {delivered : Checked σ} (opened : round.mShutdown = false)
    (readable : round.select = .readable outcomes)
    (drained : drain inet callbacks.mRecvFn outcomes loop.app = do return (exit, ← delivered)) :
    pass inet callbacks interval round loop = do
      let app ← delivered
      match exit with
      | .reading => return (.reading, { loop with app := app }, [])
      | .drained _ => tickIfDue callbacks interval round { loop with app := app }
      | .returned _ => return (.stopped, { loop with app := app }, []) := by
  simp only [pass, opened, readable, drained, Bool.false_eq_true, if_false]
  cases delivered <;> rfl

/-- A loop that returns has read something. -/
theorem length_unread_lt {outcomes unread : List Outcome} {app app' : σ}
    (returned : drain inet mRecvFn outcomes app = .ok (.returned unread, app')) :
    unread.length < outcomes.length := by
  induction outcomes generalizing app with
  | nil => cases returned
  | cons outcome outcomes ih =>
      rw [List.length_cons]
      cases outcome with
      | datagram datagram =>
          rw [drain, Checked.bind_eq_ok] at returned
          obtain ⟨next, -, later⟩ := returned
          exact Nat.lt_succ_of_lt (ih later)
      | error err =>
          by_cases blocked : err = WSAEWOULDBLOCK
          · rw [blocked, drain_blocked] at returned
            cases returned
          · by_cases transient : (Outcome.error err).passes
            · rw [drain_transient inet mRecvFn transient] at returned
              cases returned
              exact Nat.lt_succ_self _
            · rw [drain_fatal inet mRecvFn transient blocked] at returned
              exact Nat.lt_succ_of_lt (ih returned)

end Drain

/-! ## When the loop does what it should -/

/-- The outcomes up to the first `WSAEWOULDBLOCK` are all datagrams. -/
def OnlyDatagrams (outcomes : List Outcome) : Prop :=
  ∀ outcome ∈ outcomes.takeWhile fun outcome => outcome ≠ .error WSAEWOULDBLOCK,
    outcome.isDatagram

theorem ne_blocked_of_passes {outcome : Outcome} (passes : outcome.passes) :
    outcome ≠ .error WSAEWOULDBLOCK := by
  rintro rfl
  exact absurd passes (by decide)

theorem passes_of_isDatagram {outcome : Outcome} (datagram : outcome.isDatagram) :
    outcome.passes := by
  cases outcome with
  | datagram datagram => rfl
  | error err => cases datagram

/-- Either all outcomes qualify or there is a first one that does not. -/
theorem all_or_first (p : Outcome → Bool) (outcomes : List Outcome) :
    (∀ outcome ∈ outcomes, p outcome) ∨
    ∃ before first rest, outcomes = before ++ first :: rest ∧
      (∀ outcome ∈ before, p outcome) ∧ ¬ p first := by
  cases found : outcomes.find? fun outcome => !p outcome with
  | none =>
      refine .inl fun outcome member => ?_
      simpa using List.find?_eq_none.mp found outcome member
  | some first =>
      rcases List.find?_eq_some_iff_append.mp found with ⟨fails, before, rest, split, qualify⟩
      refine .inr ⟨before, first, rest, split, fun outcome member => ?_, ?_⟩
      · simpa using qualify outcome member
      · simpa using fails

theorem takeWhile_append_of_passes {before : List Outcome}
    (passes : ∀ outcome ∈ before, outcome.passes) (rest : List Outcome) :
    (before ++ rest).takeWhile (fun outcome => outcome ≠ .error WSAEWOULDBLOCK) =
      before ++ rest.takeWhile fun outcome => outcome ≠ .error WSAEWOULDBLOCK :=
  List.takeWhile_append_of_pos fun outcome member =>
    decide_eq_true (ne_blocked_of_passes (passes outcome member))

/-- A callback that does nothing. -/
def skip (_ : NetworkMessage) (app : Unit) : Checked Unit := .ok app

theorem deliver_skip (messages : List NetworkMessage) : deliver skip messages () = .ok () := by
  induction messages with
  | nil => rfl
  | cons msg messages ih => exact ih

section OnlyDatagrams

variable {σ : Type} {outcomes before rest : List Outcome} (only : OnlyDatagrams outcomes)
  (inet : Inet) (mRecvFn : NetworkMessage → σ → Checked σ) (app : σ)

include only

theorem OnlyDatagrams.drain_passing (passes : ∀ outcome ∈ outcomes, outcome.passes) :
    drain inet mRecvFn outcomes app = do
      return (.reading, ← deliver mRecvFn (messages inet outcomes) app) := by
  have datagrams : ∀ outcome ∈ outcomes, outcome.isDatagram := by
    intro outcome member
    have whole := takeWhile_append_of_passes passes []
    rw [List.append_nil, List.takeWhile_nil, List.append_nil] at whole
    exact only outcome (whole.symm ▸ member)
  have read := drain_append inet mRecvFn datagrams [] app
  rw [List.append_nil] at read
  exact read

theorem OnlyDatagrams.drain_blocked (split : outcomes = before ++ .error WSAEWOULDBLOCK :: rest)
    (passes : ∀ outcome ∈ before, outcome.passes) :
    drain inet mRecvFn outcomes app = do
      return (.drained rest, ← deliver mRecvFn (messages inet before) app) := by
  subst split
  have front := takeWhile_append_of_passes passes (.error WSAEWOULDBLOCK :: rest)
  rw [List.takeWhile_cons_of_neg (by simp), List.append_nil] at front
  have datagrams : ∀ outcome ∈ before, outcome.isDatagram := fun outcome member =>
    only outcome (front.symm ▸ member)
  rw [drain_append inet mRecvFn datagrams]
  cases deliver mRecvFn (messages inet before) app with
  | error fault => rfl
  | ok app =>
      rw [Checked.ok_bind]
      exact UdpServer.drain_blocked inet mRecvFn rest app

/-- No error of another class stands before the first `WSAEWOULDBLOCK`. -/
theorem OnlyDatagrams.not_fatal {err : Int} (split : outcomes = before ++ .error err :: rest)
    (passes : ∀ outcome ∈ before, outcome.passes) (other : err ≠ WSAEWOULDBLOCK) : False := by
  subst split
  have front := takeWhile_append_of_passes passes (.error err :: rest)
  rw [List.takeWhile_cons_of_pos (by simpa using other)] at front
  have datagram := only (.error err) (front.symm ▸ List.mem_append_cons_self)
  cases datagram

theorem OnlyDatagrams.errorClasses : ErrorClasses inet outcomes where
  passing passes _ mRecvFn app := only.drain_passing inet mRecvFn app passes
  blocked _ _ split passes _ mRecvFn app := only.drain_blocked inet mRecvFn app split passes
  fatal _ _ _ split passes _ other := (only.not_fatal split passes other).elim
  ticks _ _ split passes _ _ callbacks _ _ loop opened readable := pass_of_drain inet opened
    readable (only.drain_blocked inet callbacks.mRecvFn loop.app split passes)
  stops _ _ _ split passes _ other := (only.not_fatal split passes other).elim

end OnlyDatagrams

/-- Where the loop should go on it does not return. -/
theorem ErrorClasses.not_returned_early {inet : Inet} {before rest : List Outcome}
    {err : Outcome} (classes : ErrorClasses inet (before ++ err :: rest))
    (passes : ∀ outcome ∈ before ++ [err], outcome.passes) :
    drain inet skip (before ++ err :: rest) () ≠ .ok (.returned rest, ()) := by
  intro early
  rcases all_or_first Outcome.passes rest with all | ⟨between, stop, rest, rfl, more, stops⟩
  · have whole : ∀ outcome ∈ before ++ err :: rest, outcome.passes := by
      intro outcome member
      rw [List.append_cons] at member
      exact (List.mem_append.mp member).elim (passes outcome) (all outcome)
    have intended := classes.passing whole skip ()
    rw [early, deliver_skip] at intended
    cases intended
  · have front : ∀ outcome ∈ before ++ [err] ++ between, outcome.passes := by
      intro outcome member
      exact (List.mem_append.mp member).elim (passes outcome) (more outcome)
    have split : before ++ err :: (between ++ stop :: rest) =
        before ++ [err] ++ between ++ stop :: rest := by
      simp only [List.append_assoc, List.cons_append, List.nil_append]
    cases stop with
    | datagram datagram => exact stops rfl
    | error err' =>
        by_cases blocked : err' = WSAEWOULDBLOCK
        · subst blocked
          have intended := classes.blocked _ rest split front skip ()
          rw [early, deliver_skip] at intended
          cases intended
        · have intended := classes.fatal _ err' rest split front stops blocked skip ()
          rw [early, deliver_skip] at intended
          have lengths := congrArg List.length (Exit.returned.inj
            (Prod.mk.inj (Except.ok.inj intended)).1)
          simp only [List.length_append, List.length_cons] at lengths
          omega

theorem ErrorClasses.onlyDatagrams {inet : Inet} {outcomes : List Outcome}
    (classes : ErrorClasses inet outcomes) : OnlyDatagrams outcomes := by
  rcases all_or_first Outcome.isDatagram outcomes with
    all | ⟨before, first, rest, rfl, datagrams, wrong⟩
  · exact fun outcome member => all outcome ((List.takeWhile_sublist _).subset member)
  have passes : ∀ outcome ∈ before, outcome.passes := fun outcome member =>
    passes_of_isDatagram (datagrams outcome member)
  cases first with
  | datagram datagram => exact absurd rfl wrong
  | error err =>
    by_cases blocked : err = WSAEWOULDBLOCK
    · subst blocked
      rw [OnlyDatagrams, takeWhile_append_of_passes passes,
        List.takeWhile_cons_of_neg (by simp), List.append_nil]
      exact datagrams
    -- the first error is of the other two classes, and both go the wrong way
    exfalso
    have front := drain_append inet skip datagrams (.error err :: rest) ()
    rw [deliver_skip, Checked.ok_bind] at front
    by_cases transient : (Outcome.error err).passes
    · rw [drain_transient inet skip transient] at front
      have further : ∀ outcome ∈ before ++ [.error err], outcome.passes := by
        intro outcome member
        rcases List.mem_append.mp member with old | new
        · exact passes outcome old
        · rw [List.mem_singleton.mp new]
          exact transient
      exact classes.not_returned_early further front
    · rw [drain_fatal inet skip transient blocked,
        classes.fatal before err rest rfl passes transient blocked skip (), deliver_skip] at front
      exact Nat.lt_irrefl _ (length_unread_lt inet skip front.symm)

/-- The inner loop does what its comments say if and only if the first error it
meets is `WSAEWOULDBLOCK`, or there is none. -/
theorem receive_loop_iff (inet : Inet) (outcomes : List Outcome) :
    ErrorClasses inet outcomes ↔ OnlyDatagrams outcomes :=
  ⟨ErrorClasses.onlyDatagrams, fun only => only.errorClasses inet⟩

def WSAENETDOWN : Int := 10050

/-- A reset connection and a dead network are each taken for the other. -/
theorem not_errorClasses_reset_netdown :
    ¬ ErrorClasses .dottedQuad [.error WSAECONNRESET, .error WSAEWOULDBLOCK] ∧
      ¬ ErrorClasses .dottedQuad [.error WSAENETDOWN, .error WSAEWOULDBLOCK] := by
  constructor
  · intro classes
    have reset := classes.blocked [.error WSAECONNRESET] [] rfl (by decide) skip ()
    cases reset
  · intro classes
    have down := classes.fatal [] WSAENETDOWN [.error WSAEWOULDBLOCK] rfl (by decide) (by decide)
      (by decide) skip ()
    cases down

/-! ## A game behind the loop -/

section Game

variable {σ : Type} (inet : Inet) (handlers : Handlers σ)

/-- The callbacks `main` sets up for a game. -/
def callbacks : Callbacks (Game σ) (Nat → Env) where
  mRecvFn := Game.onRecv
  tick env game := game.tick handlers env

end Game

end UdpServer

end UdpGame
