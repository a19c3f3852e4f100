import UdpGame.Board
import UdpGame.Loops
import UdpGame.SelfTests
import UdpGame.Sockets

/-!
# The programs

`main` of the server and of the client: the console handler, the tests, the
socket library, the board, the socket, `Run` and the exit code.  The two share
`program`.  What the system calls come back with and what arrives settles how far
a program gets, and with the parameters of `main` it stops at an assertion in one
case only: `Shutdown` between its being handed to the console handler and the
start of `Run` (`server_main`, `client_main`).  Which other parameters a client
could have is `client_process_iff`.
-/

namespace UdpGame

open Handles UdpServer

/-- A program has ended, or it is in `Run`. -/
inductive Progress where
  | exited (code : Nat)
  | running (server : UdpServer)

/-- What a program meets. -/
structure Outside (ω : Type*) where
  /-- Whether the console takes the handler. -/
  handler : Bool := true
  /-- `WSAStartup`. -/
  startup : Startup := {}
  /-- The system calls of `Initialize`. -/
  attempt : Attempt
  /-- Whether the handler calls `Shutdown` before `Run` begins. -/
  interrupted : Bool := false
  rounds : List (Round ω)

section Program

variable {σ : Type} {ω : Type*} (source : Source Nat) (inet : Inet)

/-- `Run` on the socket of the server, which every pass waits for.  `play` is
what the passes do. -/
def UdpServer.runSocket (interval : Time)
    (play : List (Round ω) → Checked (Next × Loop σ × List SendCall)) (outside : Outside ω)
    (server : UdpServer) : SocketProgram (Next × Loop σ × List SendCall) := do
  lift (runAsserts server.mSocket interval outside.interrupted)
  outside.rounds.forM fun _ => do
    let sock ← lift (Checked.deref server.mSocket)
    let _ ← call sock true
  lift (play outside.rounds)

/-- What follows `Initialize`. -/
def afterInitialize (interval : Time)
    (play : List (Round ω) → Checked (Next × Loop σ × List SendCall)) (outside : Outside ω)
    (initialized : Bool) (server : UdpServer) : SocketProgram (Progress × List SendCall) :=
  if !initialized then do
    let _ ← server.destroy
    return (.exited 1, [])
  else do
    let (next, _, sends) ← server.runSocket interval play outside
    match next with
    | .stopped => do
      let _ ← server.destroy
      return (.exited 0, sends)
    | _ => return (.running server, sends)

/-- `main`, with what the two programs differ in. -/
def program (params : Params) (address : String) (port : UInt32) (interval : Time)
    (play : List (Round ω) → Checked (Next × Loop σ × List SendCall)) (outside : Outside ω) :
    SocketProgram (Progress × List SendCall) :=
  if !outside.handler then return (.exited 1, [])
  else do
    lift Tests.runAllTests
    match WinSock.construct outside.startup with
    | some code => return (.exited code, [])
    | none => do
      let _ ← lift (Board.make params)
      let server ← lift (UdpServer.construct address port)
      let (initialized, server) ← server.initializeSocket source inet outside.attempt
      afterInitialize interval play outside initialized server

end Program

namespace Server

/-- The parameters `main` sets. -/
def mainParams : Params where
  playerTimeout := 10000

def mainServer : UdpServer where
  mAddress := "127.0.0.1"
  mPort := 8088
  mAddress_nonempty := localhost.server.mAddress_nonempty
  mPort_pos := localhost.server.mPort_pos
  mPort_le := localhost.server.mPort_le

/-- `main` of the server. -/
def main (source : Source Nat) (inet : Inet) (outside : Outside (Nat → Env)) :
    SocketProgram (Progress × List SendCall) :=
  program source inet mainParams "127.0.0.1" 8088 (milliseconds 30)
    (process inet mainParams (milliseconds 30)) outside

end Server

namespace Client

/-- `main` of a client with these parameters and this interval. -/
def launch (params : Params) (interval : Time) (source : Source Nat) (inet : Inet)
    (outside : Outside ((Nat → Env) × Env)) : SocketProgram (Progress × List SendCall) :=
  program source inet params.commonParams params.clientAddress params.clientPort interval
    (process inet params interval) outside

/-- The parameters `main` sets. -/
def mainParams : Params where
  commonParams := { playerTimeout := 10000 }
  clientAddress := "127.0.0.1"
  clientPort := 8081
  serverAddress := "127.0.0.1"
  serverPort := 8088

def mainServer : UdpServer where
  mAddress := mainParams.clientAddress
  mPort := mainParams.clientPort
  mAddress_nonempty := by decide
  mPort_pos := by decide
  mPort_le := by decide

/-- `main` of the client. -/
def main (source : Source Nat) (inet : Inet) (outside : Outside ((Nat → Env) × Env)) :
    SocketProgram (Progress × List SendCall) :=
  launch mainParams (milliseconds 30) source inet outside

end Client

/-! ## Starting -/

/-- The system lets a program get as far as `Run`. -/
structure Outside.Starts {ω : Type*} (inet : Inet) (server : UdpServer) (outside : Outside ω) :
    Prop where
  handler : outside.handler = true
  winSock : WinSock.construct outside.startup = none
  obtains : (outside.attempt.obtains inet server).isSome = true
  nonBlocking : outside.attempt.nonBlocking = true
  bound : outside.attempt.bound = true

/-- The program has come out of `Run` and exited, or is in it with its socket. -/
structure Plays (next : Next) (sends : List SendCall)
    (result : Except (Failure Fault) ((Progress × List SendCall) × Finset Nat)) : Prop where
  stopped : next = .stopped → result = .ok ((.exited 0, sends), ∅)
  running : next ≠ .stopped → ∃ sock server', server'.mSocket = some sock ∧
    result = .ok ((.running server', sends), {sock})

/-- What becomes of a program whose passes, if it comes to them, have these
results. -/
structure Fares {ω : Type*} (inet : Inet) (server : UdpServer) (outside : Outside ω) (next : Next)
    (sends : List SendCall)
    (result : Except (Failure Fault) ((Progress × List SendCall) × Finset Nat)) : Prop where
  refused : ¬ outside.Starts inet server → result = .ok ((.exited 1, []), ∅)
  interrupted : outside.Starts inet server → outside.interrupted = true →
    result = .error (.fault .assertion)
  plays : outside.Starts inet server → outside.interrupted = false → Plays next sends result

section Start

variable {inet : Inet} {server : UdpServer} {attempt : Attempt} {r : Bool × UdpServer}

/-- Which socket there is does not matter, only whether there is one. -/
theorem isSome_obtains {created : Option Nat} (same : created.isSome = attempt.created.isSome) :
    (Attempt.obtains inet server { attempt with created := created }).isSome =
      (attempt.obtains inet server).isSome := by
  rw [obtains_eq, obtains_eq]
  simp only [Option.isSome_bind, Option.isSome_map, same]

/-- `Initialize` succeeds when all its calls do, and has a socket then. -/
theorem UdpServer.Agrees.result_iff (fresh : server.mSocket = none) (agrees : Agrees inet attempt server r) :
    (r.1 = true ↔ (attempt.obtains inet server).isSome = true ∧ attempt.nonBlocking = true ∧
      attempt.bound = true) ∧
    (r.1 = true → r.2.mSocket ≠ none) := by
  obtain ⟨result, server'⟩ := r
  obtain ⟨created, same, agrees⟩ := agrees
  obtain ⟨sockets', ran⟩ := agrees fun _ => {}
  rw [← isSome_obtains same]
  cases obtained : Attempt.obtains inet server { attempt with created := created } with
  | none =>
      cases ran.symm.trans (initializeServer_of_obtains_eq_none fresh obtained)
      simp
  | some got =>
      obtain ⟨sock, addr⟩ := got
      obtain ⟨state, called, -⟩ := @initializeServer_of_obtains_eq_some inet
        { attempt with created := created } ⟨server, fun _ => {}⟩ sock addr fresh obtained
      have same := ran.symm.trans called
      simp only [Except.ok.injEq, Prod.mk.injEq, Host.mk.injEq] at same
      obtain ⟨rfl, rfl, -⟩ := same
      simp

end Start

section Fare

variable {σ : Type} {ω : Type*} {source : Source Nat} {inet : Inet} {interval : Time}
  {play : List (Round ω) → Checked (Next × Loop σ × List SendCall)} {outside : Outside ω}
  {server : UdpServer} {next : Next} {loop : Loop σ} {sends : List SendCall}

/-- `Run` has a socket and keeps it. -/
theorem UdpServer.runSocket_keeps (valid : server.mSocket ≠ none)
    (long : milliseconds 1 ≤ interval) (ready : outside.interrupted = false)
    (ran : play outside.rounds = .ok (next, loop, sends)) :
    Triple (held server.mSocket) (server.runSocket interval play outside) fun r left =>
      r = (next, loop, sends) ∧ left = held server.mSocket := by
  obtain ⟨sock, stored⟩ := Option.ne_none_iff_exists'.mp valid
  have mine : sock ∈ held server.mSocket := by simp [stored, held]
  unfold UdpServer.runSocket
  rw [runAsserts_eq_ok.mpr ⟨valid, long, ready⟩, lift_ok_bind]
  refine (Triple.forM (fun _ => ?_) outside.rounds).bind ?_
  · rw [stored, Checked.deref_some, lift_ok_bind, ← stored]
    refine (Triple.call mine true).bind ?_
    rintro result left ⟨-, rfl⟩
    exact Triple.pure rfl
  · rintro - left rfl
    exact Triple.lift ran

/-- The destructor on the way out. -/
theorem UdpServer.destroy_then {r : Progress × List SendCall} :
    Triple (held server.mSocket) (do let _ ← server.destroy; return r) fun r' left =>
      r' = r ∧ left = 0 := by
  have closes := server.destroy_closes 0
  rw [add_zero] at closes
  refine closes.bind ?_
  rintro server' left ⟨-, rfl⟩
  exact Triple.pure ⟨rfl, rfl⟩

theorem afterInitialize_failed :
    Triple (held server.mSocket) (afterInitialize interval play outside false server)
      fun r left => r = (.exited 1, []) ∧ left = 0 :=
  UdpServer.destroy_then

/-- An assertion of `Run` fails. -/
theorem afterInitialize_asserts (fails : ¬ (server.mSocket ≠ none ∧
      milliseconds 1 ≤ interval ∧ outside.interrupted = false)) :
    afterInitialize interval play outside true server = fun _ => .error (.fault .assertion) := by
  have stops : server.runSocket interval play outside =
      fun _ => .error (.fault .assertion) := by
    unfold UdpServer.runSocket
    rw [runAsserts_eq_error fails, lift_error_bind]
  unfold afterInitialize
  rw [stops]
  rfl

theorem afterInitialize_runs (valid : server.mSocket ≠ none) (long : milliseconds 1 ≤ interval)
    (ready : outside.interrupted = false) (ran : play outside.rounds = .ok (next, loop, sends)) :
    Triple (held server.mSocket) (afterInitialize interval play outside true server)
      fun r left =>
        if next = .stopped then r = (.exited 0, sends) ∧ left = 0
        else r = (.running server, sends) ∧ left = held server.mSocket := by
  refine (UdpServer.runSocket_keeps valid long ready ran).bind ?_
  rintro - left ⟨rfl, rfl⟩
  cases next with
  | stopped => exact UdpServer.destroy_then
  | again => exact Triple.pure ⟨rfl, rfl⟩
  | reading => exact Triple.pure ⟨rfl, rfl⟩

variable {params : Params} {board : Board} {address : String} {port : UInt32}

theorem program_refused (refused : outside.handler = false) :
    program source inet params address port interval play outside ∅ =
      .ok ((.exited 1, []), ∅) := by
  unfold program
  rw [refused]
  rfl

theorem program_exits (handler : outside.handler = true) {code : Nat}
    (exits : WinSock.construct outside.startup = some code) :
    program source inet params address port interval play outside ∅ =
      .ok ((.exited 1, []), ∅) := by
  cases WinSock.eq_of_construct exits
  unfold program
  rw [handler, Tests.runAllTests_eq, exits]
  rfl

/-- The tests and the board never stop a program. -/
theorem program_eq (handler : outside.handler = true)
    (winSock : WinSock.construct outside.startup = none) :
    program source inet params address port interval play outside =
      (lift (Board.make params) >>= fun _ =>
        lift (UdpServer.construct address port) >>= fun server =>
        server.initializeSocket source inet outside.attempt >>= fun r =>
        afterInitialize interval play outside r.1 r.2) := by
  unfold program
  rw [handler, Tests.runAllTests_eq, winSock]
  rfl

/-- A program that gets to `Initialize` comes out of it with a socket, if it
succeeds. -/
theorem program_initializes (built : Board.make params = .ok board)
    (constructed : UdpServer.construct address port = .ok server)
    (handler : outside.handler = true) (winSock : WinSock.construct outside.startup = none) :
    ∃ initialized server' table,
      program source inet params address port interval play outside ∅ =
        afterInitialize interval play outside initialized server' table ∧
      table.val = held server'.mSocket + 0 ∧
      (outside.Starts inet server ↔ initialized = true) ∧
      (initialized = true → server'.mSocket ≠ none) := by
  obtain ⟨fresh, -, -⟩ := UdpServer.construct_eq_ok.mp constructed
  have start : (∅ : Finset Nat).val = held server.mSocket + 0 := by simp [fresh, held]
  obtain ⟨⟨initialized, server'⟩, table, left, called, shape, rfl, agrees⟩ :=
    server.initializeSocket_keeps source inet outside.attempt 0 ∅ start
  obtain ⟨result, kept⟩ := UdpServer.Agrees.result_iff fresh agrees
  refine ⟨initialized, server', table, ?_, shape, ?_, kept⟩
  · rw [program_eq handler winSock, built, constructed]
    change (server.initializeSocket source inet outside.attempt ∅ >>= fun r =>
      afterInitialize interval play outside r.1.1 r.1.2 r.2) = _
    rw [called]
    rfl
  · rw [result]
    exact ⟨fun starts => ⟨starts.obtains, starts.nonBlocking, starts.bound⟩,
      fun all => ⟨handler, winSock, all.1, all.2.1, all.2.2⟩⟩

theorem program_fares (built : Board.make params = .ok board)
    (constructed : UdpServer.construct address port = .ok server)
    (long : milliseconds 1 ≤ interval)
    (ran : outside.Starts inet server → ∃ loop, play outside.rounds = .ok (next, loop, sends)) :
    Fares inet server outside next sends
      (program source inet params address port interval play outside ∅) := by
  cases handler : outside.handler with
  | false =>
      have stays : ¬ outside.Starts inet server := fun starts => by
        rw [starts.handler] at handler
        cases handler
      exact ⟨fun _ => program_refused handler, fun starts => absurd starts stays,
        fun starts => absurd starts stays⟩
  | true =>
  cases winSock : WinSock.construct outside.startup with
  | some code =>
      have stays : ¬ outside.Starts inet server := fun starts => by
        rw [starts.winSock] at winSock
        cases winSock
      exact ⟨fun _ => program_exits handler winSock, fun starts => absurd starts stays,
        fun starts => absurd starts stays⟩
  | none =>
  obtain ⟨initialized, server', table, rest, shape, starts_iff, kept⟩ :=
    @program_initializes _ _ source inet interval play outside _ _ _ _ _ built constructed handler
      winSock
  rw [rest]
  simp only [starts_iff] at ran
  refine ⟨?refused, ?interrupted, ?plays⟩ <;> rw [starts_iff]
  case refused =>
    intro failed
    rw [Bool.eq_false_iff.mpr failed]
    obtain ⟨r, table', left, ended, closed, rfl, rfl⟩ := afterInitialize_failed 0 table shape
    rw [ended, Finset.val_eq_zero.mp closed]
  case interrupted =>
    rintro rfl interrupted
    rw [afterInitialize_asserts fun holds => by simp [interrupted] at holds]
  case plays =>
    rintro rfl ready
    obtain ⟨loop, ran⟩ := ran rfl
    obtain ⟨r, table', left, ended, open', holds⟩ :=
      afterInitialize_runs (kept rfl) long ready ran 0 table shape
    constructor
    · rintro rfl
      obtain ⟨rfl, rfl⟩ := holds
      rw [ended, Finset.val_eq_zero.mp open']
    · intro going
      obtain ⟨sock, stored⟩ := Option.ne_none_iff_exists'.mp (kept rfl)
      rw [if_neg going] at holds
      obtain ⟨rfl, rfl⟩ := holds
      have alone : table'.val = ({sock} : Finset Nat).val := by
        rw [open', stored, add_zero]
        rfl
      exact ⟨sock, server', stored, by rw [ended, Finset.val_inj.mp alone]⟩

/-- What a program that is in `Run` has gone through. -/
theorem of_program_running {server' : UdpServer} {table : Finset Nat}
    (runs : program source inet params address port interval play outside ∅ =
      .ok ((.running server', sends), table)) :
    (∃ board, Board.make params = .ok board) ∧
      (∃ server, UdpServer.construct address port = .ok server) ∧ milliseconds 1 ≤ interval := by
  cases handler : outside.handler with
  | false => cases (program_refused handler).symm.trans runs
  | true =>
  cases winSock : WinSock.construct outside.startup with
  | some code => cases (program_exits handler winSock).symm.trans runs
  | none =>
  have steps := (congrFun (program_eq handler winSock) ∅).symm.trans runs
  cases built : Board.make params with
  | error fault =>
      rw [built] at steps
      cases steps
  | ok board =>
  cases constructed : UdpServer.construct address port with
  | error fault =>
      rw [built, constructed] at steps
      cases steps
  | ok server =>
  obtain ⟨initialized, server'', table', rest, shape, -, -⟩ :=
    @program_initializes _ _ source inet interval play outside _ _ _ _ _ built constructed handler
      winSock
  have last := rest.symm.trans runs
  refine ⟨⟨board, rfl⟩, ⟨server, rfl⟩, ?_⟩
  cases initialized with
  | false =>
      obtain ⟨r, table'', left, ended, -, rfl, -⟩ := afterInitialize_failed 0 table' shape
      cases ended.symm.trans last
  | true =>
      by_contra short
      rw [afterInitialize_asserts fun holds => short holds.2.1] at last
      cases last

end Fare

/-! ## The two programs -/

/-- The board of both programs. -/
theorem exists_board (params : Params) (square : params.height = params.width)
    (small : params.height.toNat * params.width.toNat < 2 ^ 32) :
    ∃ board, Board.make params = .ok board := by
  obtain ⟨board, built, -⟩ := (Board.indexes_of_shape small (.inr square)).placed
  exact ⟨board, built⟩

namespace Server

open FirstCome

/-- The server gets as far as the system lets it, and does what `process` does
there.  It ends with every socket closed, or runs with one. -/
theorem server_main (source : Source Nat) (inet : Inet) (outside : Outside (Nat → Env))
    (few : (ofList (named inet (heard (milliseconds 30) outside.rounds))).length ≤ 2 ^ 32) :
    ∃ loop sends,
      process inet mainParams (milliseconds 30) outside.rounds =
        .ok (finish outside.rounds, loop, sends) ∧
      Fares inet mainServer outside (finish outside.rounds) sends (main source inet outside ∅) := by
  obtain ⟨loop, sends, ran⟩ := @exists_process inet mainParams _ _ few
  obtain ⟨board, built⟩ := exists_board mainParams rfl (by decide)
  have constructed : UdpServer.construct "127.0.0.1" 8088 = .ok mainServer :=
    UdpServer.construct_eq_ok.mpr ⟨rfl, rfl, rfl⟩
  refine ⟨loop, sends, ran, ?_⟩
  exact program_fares built constructed (by decide) fun _ => ⟨loop, ran⟩

/-- A login, and then a `Shutdown`. -/
theorem server_main_one_login :
    ∃ loop sends,
      process .dottedQuad mainParams (milliseconds 30)
          (oneLogin ++ [{ mShutdown := true, select := .timeout, now := 0, world := fun _ => {} }]) =
        .ok (.stopped, loop, sends) ∧
      main .nat .dottedQuad
          { attempt := { created := some 0 }
            rounds := oneLogin ++
              [{ mShutdown := true, select := .timeout, now := 0, world := fun _ => {} }] } ∅ =
        .ok ((.exited 0, sends), ∅) := by
  obtain ⟨loop, sends, ran, fares⟩ := server_main .nat .dottedQuad
    { attempt := { created := some 0 }
      rounds := oneLogin ++
        [{ mShutdown := true, select := .timeout, now := 0, world := fun _ => {} }] }
    (by decide +kernel)
  have plays := fares.plays ⟨rfl, WinSock.construct_default, rfl, rfl, rfl⟩ rfl
  exact ⟨loop, sends, ran, plays.stopped rfl⟩

end Server

namespace Client

/-- So does the client, for any traffic, and it speaks to its server only. -/
theorem client_main (source : Source Nat) (inet : Inet)
    (outside : Outside ((Nat → Env) × Env)) :
    ∃ sends,
      (outside.Starts inet mainServer → ∃ loop,
        process inet mainParams (milliseconds 30) outside.rounds =
          .ok (finish outside.rounds, loop, sends)) ∧
      (∀ call ∈ sends, ∃ env address, inet.pton mainParams.clientAddress = some address ∧
        call = loginRequest inet env mainParams address) ∧
      Fares inet mainServer outside (finish outside.rounds) sends (main source inet outside ∅) := by
  obtain ⟨board, built⟩ := exists_board mainParams.commonParams rfl (by decide)
  have constructed : UdpServer.construct mainParams.clientAddress mainParams.clientPort =
      .ok mainServer := UdpServer.construct_eq_ok.mpr ⟨rfl, rfl, rfl⟩
  cases resolved : inet.pton mainParams.clientAddress with
  | none =>
      have stays : ¬ outside.Starts inet mainServer := by
        intro starts
        have obtains := starts.obtains
        rw [obtains_eq] at obtains
        have unresolved : inet.pton mainServer.mAddress = none := resolved
        simp [unresolved] at obtains
      refine ⟨[], fun starts => absurd starts stays, by simp, ?_⟩
      exact program_fares built constructed (by decide) fun starts => absurd starts stays
  | some address =>
      obtain ⟨loop, sends, ran, aimed⟩ := exists_process inet (by decide) resolved (by decide)
        (milliseconds 30) outside.rounds
      refine ⟨sends, fun _ => ⟨loop, ran⟩, fun call member => ?_, ?_⟩
      · obtain ⟨env, request⟩ := aimed call member
        exact ⟨env, address, rfl, request⟩
      · exact program_fares built constructed (by decide) fun _ => ⟨loop, ran⟩

/-! ### Other parameters -/

/-- Every system call up to `Run` succeeds, and nobody calls `Shutdown` before it. -/
structure Cooperates {ω : Type*} (outside : Outside ω) : Prop where
  handler : outside.handler = true
  winSock : WinSock.construct outside.startup = none
  converted : outside.attempt.converted = true
  created : outside.attempt.created.isSome = true
  nonBlocking : outside.attempt.nonBlocking = true
  bound : outside.attempt.bound = true
  uninterrupted : outside.interrupted = false

theorem Cooperates.starts {ω : Type*} {outside : Outside ω} (cooperates : Cooperates outside)
    {inet : Inet} {server : UdpServer} {address : Address}
    (resolved : inet.pton server.mAddress = some address) : outside.Starts inet server where
  handler := cooperates.handler
  winSock := cooperates.winSock
  obtains := by
    rw [obtains_eq, cooperates.converted, resolved]
    simpa using cooperates.created
  nonBlocking := cooperates.nonBlocking
  bound := cooperates.bound

/-- A client that gets through its first login has parameters in order. -/
theorem ready_of_ticking {inet : Inet} {params : Params} {interval : Time} {next : Next}
    {loop : Loop (Game GameLoop)} {sends : List SendCall}
    (ran : process inet params interval
      [ticking interval 0 (fun _ => {}, { now := milliseconds 500 })] = .ok (next, loop, sends)) :
    params.serverPort ≤ 65535 ∧ ∃ address, inet.pton params.clientAddress = some address := by
  rw [process_eq, signals_ticking, Checked.bind_eq_ok] at ran
  obtain ⟨⟨game, sends'⟩, run, -⟩ := ran
  obtain ⟨game', out, rest, stepped, -, -⟩ := Run.run_cons_eq_ok.mp run
  obtain ⟨result, found, out', result', loop', calls', ticked, after, -, -⟩ :=
    step_tick_eq_ok.mp stepped
  cases ticked
  rw [afterEvents_new rfl, Checked.bind_eq_ok] at after
  obtain ⟨⟨loop'', calls''⟩, tried, -⟩ := after
  have due : ¬ milliseconds 500 < (GameLoop.initial params).mLoginAttemptTime + milliseconds 500 :=
    (lt_irrefl _ : ¬ milliseconds 500 < 0 + milliseconds 500)
  obtain ⟨address, resolved, -, serverPort⟩ := ready_of_tryLogin rfl due tried
  exact ⟨serverPort, address, resolved⟩

/-- A client that the system lets start survives any traffic, and speaks to its
server only, if and only if its parameters are in order.  With others it stops at an
assertion, or cannot initialize, or fails at its first login. -/
theorem client_process_iff (source : Source Nat) (inet : Inet) (params : Params)
    (interval : Time) :
    (∀ outside, Cooperates outside → ∃ loop sends,
      process inet params interval outside.rounds = .ok (finish outside.rounds, loop, sends) ∧
      (∀ call ∈ sends, ∃ env address, inet.pton params.clientAddress = some address ∧
        call = loginRequest inet env params address) ∧
      Plays (finish outside.rounds) sends (launch params interval source inet outside ∅)) ↔
    milliseconds 1 ≤ interval ∧ (∃ board, Board.make params.commonParams = .ok board) ∧
      params.clientAddress ≠ "" ∧ 0 < params.clientPort ∧ params.clientPort ≤ 65535 ∧
      params.serverPort ≤ 65535 ∧ ∃ address, inet.pton params.clientAddress = some address := by
  constructor
  · intro survives
    obtain ⟨loop, sends, ran, -, plays⟩ := survives
      { attempt := { created := some 0 }
        rounds := [ticking interval 0 (fun _ => {}, { now := milliseconds 500 })] }
      ⟨rfl, WinSock.construct_default, rfl, rfl, rfl, rfl, rfl⟩
    obtain ⟨serverPort, resolved⟩ := ready_of_ticking ran
    obtain ⟨sock, server', -, runs⟩ := plays.running fun stopped => by cases stopped
    obtain ⟨built, ⟨server, constructed⟩, long⟩ := of_program_running runs
    obtain ⟨-, address, port⟩ := UdpServer.construct_eq_ok.mp constructed
    exact ⟨long, built, address ▸ server.mAddress_nonempty, port ▸ server.mPort_pos,
      port ▸ server.mPort_le, serverPort, resolved⟩
  · rintro ⟨long, ⟨board, built⟩, nonempty, pos, clientPort, serverPort, address, resolved⟩
      outside cooperates
    obtain ⟨loop, sends, ran, aimed⟩ := exists_process inet clientPort resolved serverPort interval
      outside.rounds
    have constructed : UdpServer.construct params.clientAddress params.clientPort =
        .ok ⟨none, params.clientAddress, params.clientPort, nonempty, pos, clientPort⟩ :=
      UdpServer.construct_eq_ok.mpr ⟨rfl, rfl, rfl⟩
    have fares := @program_fares _ _ source inet interval (process inet params interval) outside _
      (finish outside.rounds) sends _ _ _ _ built constructed long fun _ => ⟨loop, ran⟩
    refine ⟨loop, sends, ran, fun call member => ?_,
      fares.plays (cooperates.starts resolved) cooperates.uninterrupted⟩
    obtain ⟨env, request⟩ := aimed call member
    exact ⟨env, address, resolved, request⟩

end Client

end UdpGame
