import UdpGame.Network
import UdpGame.Lib.Run
import Mathlib.Logic.Function.Basic

/-!
# `UdpServer::Initialize`

A call converts the address, creates a socket, makes it non-blocking and binds
it; the socket is stored in `mSocket` before the last two.  A later call takes a
stored socket for a finished one.  So a sequence of calls is all-or-nothing
exactly when the first call that gets a socket also gets it ready
(`initializeServer_allOrNothing_iff`).
-/

namespace UdpGame

/-- The members `Initialize` works on, as the constructor leaves them: the
address and the port have passed its assertions. -/
structure UdpServer where
  mSocket : Option Nat := none
  mAddress : String
  mPort : UInt32
  mAddress_nonempty : mAddress ≠ ""
  mPort_pos : 0 < mPort
  mPort_le : mPort ≤ 65535

/-- The constructor. -/
def UdpServer.construct (address : String) (port : UInt32) : Checked UdpServer :=
  if valid : address ≠ "" ∧ 0 < port ∧ port ≤ 65535 then
    .ok
      { mAddress := address
        mPort := port
        mAddress_nonempty := valid.1
        mPort_pos := valid.2.1
        mPort_le := valid.2.2 }
  else .error .assertion

theorem UdpServer.construct_eq_ok {address : String} {port : UInt32} {server : UdpServer} :
    construct address port = .ok server ↔
      server.mSocket = none ∧ server.mAddress = address ∧ server.mPort = port := by
  unfold construct
  constructor
  · intro made
    split at made
    · cases made
      exact ⟨rfl, rfl, rfl⟩
    · cases made
  · obtain ⟨mSocket, mAddress, mPort, nonempty, pos, le⟩ := server
    rintro ⟨rfl, rfl, rfl⟩
    exact dif_pos ⟨nonempty, pos, le⟩

/-- What the socket library knows of a socket. -/
structure SocketState where
  nonBlocking : Bool := false
  bound : Option SockAddr := none
  deriving DecidableEq, Repr

/-- A server and the sockets of its process, by handle. -/
structure Host where
  server : UdpServer
  sockets : Nat → SocketState

/-- What the calls a single `Initialize` makes come back with: whether
`inet_pton` can convert, the handle `WSASocketW` returns, and whether
`ioctlsocket` and `bind` succeed. -/
structure Attempt where
  converted : Bool := true
  created : Option Nat
  nonBlocking : Bool := true
  bound : Bool := true
  deriving DecidableEq, Repr

/-- The socket an attempt on a fresh server gets hold of, and the address it is for. -/
def Attempt.obtains (inet : Inet) (server : UdpServer) (attempt : Attempt) :
    Option (Nat × SockAddr) :=
  if attempt.converted then
    match inet.pton server.mAddress, attempt.created with
    | some address, some sock => some (sock, ⟨address, server.mPort.toUInt16⟩)
    | _, _ => none
  else none

namespace UdpServer

variable (inet : Inet)

/-- `UdpServer::Initialize`. -/
def initializeServer (attempt : Attempt) (host : Host) : Checked (Bool × Host) :=
  if host.server.mSocket ≠ none then
    return (true, host)
  else do
    let addr ← toSockAddr inet host.server.mAddress host.server.mPort
    match (if attempt.converted then addr else none) with
    | none => return (false, host)
    | some addr =>
      let host := { host with server := { host.server with mSocket := attempt.created } }
      match host.server.mSocket with
      | none => return (false, host)
      | some sock =>
        let host := { host with sockets := Function.update host.sockets sock {} }
        if !attempt.nonBlocking then
          return (false, host)
        else
          let host := { host with sockets := Function.update host.sockets sock { nonBlocking := true } }
          if !attempt.bound then
            return (false, host)
          else
            return (true, { host with
              sockets := Function.update host.sockets sock { nonBlocking := true, bound := some addr } })

/-- A call of `Initialize` that has returned. -/
structure Call where
  before : Host
  result : Bool
  after : Host

def initializeStep (attempt : Attempt) (host : Host) : Checked (Host × List Call) := do
  let (result, after) ← initializeServer inet attempt host
  return (after, [{ before := host, result := result, after := after }])

/-- `mSocket` is valid, non-blocking and bound to the server's address. -/
def Listening (host : Host) : Prop :=
  ∃ sock addr, host.server.mSocket = some sock ∧
    toSockAddr inet host.server.mAddress host.server.mPort = .ok (some addr) ∧
    host.sockets sock = { nonBlocking := true, bound := some addr }

/-- Success leaves the server listening, and failure leaves `mSocket` alone. -/
structure Call.AllOrNothing (call : Call) : Prop where
  success : call.result = true → Listening inet call.after
  failure : call.result = false → call.after.server.mSocket = call.before.server.mSocket

/-! ## One call -/

section Call

variable {inet} {attempt : Attempt} {host : Host}

theorem initializeServer_of_ne_none (valid : host.server.mSocket ≠ none) :
    initializeServer inet attempt host = .ok (true, host) := by
  rw [initializeServer, if_pos valid]
  rfl

/-- A failure before there is a socket. -/
theorem initializeServer_of_obtains_eq_none (fresh : host.server.mSocket = none)
    (failed : attempt.obtains inet host.server = none) :
    initializeServer inet attempt host = .ok (false, host) := by
  rcases host with ⟨⟨mSocket, mAddress, mPort, nonempty, pos, le⟩, sockets⟩
  obtain rfl : mSocket = none := fresh
  unfold Attempt.obtains at failed
  unfold initializeServer
  rw [if_neg (fun valid => valid rfl), toSockAddr_of_le le]
  simp only [Checked.ok_bind, Checked.pure_eq_ok]
  cases converts : attempt.converted with
  | false => rfl
  | true =>
      simp only [converts, if_true] at failed ⊢
      cases read : inet.pton mAddress with
      | none => rfl
      | some address =>
          cases created : attempt.created with
          | none => rfl
          | some sock =>
              rw [read, created] at failed
              cases failed

/-- A call that gets a socket keeps it, whatever becomes of it. -/
theorem initializeServer_of_obtains_eq_some {sock : Nat} {addr : SockAddr}
    (fresh : host.server.mSocket = none)
    (obtained : attempt.obtains inet host.server = some (sock, addr)) :
    ∃ state, initializeServer inet attempt host =
        .ok (attempt.nonBlocking && attempt.bound,
          { server := { host.server with mSocket := some sock }
            sockets := Function.update host.sockets sock state }) ∧
      (attempt.nonBlocking = true → attempt.bound = true →
        state = { nonBlocking := true, bound := some addr }) ∧
      toSockAddr inet host.server.mAddress host.server.mPort = .ok (some addr) := by
  rcases host with ⟨⟨mSocket, mAddress, mPort, nonempty, pos, le⟩, sockets⟩
  obtain rfl : mSocket = none := fresh
  rcases attempt with ⟨converted, created, nonBlocking, bound⟩
  unfold Attempt.obtains at obtained
  cases converted with
  | false => cases obtained
  | true =>
      cases read : inet.pton mAddress with
      | none => simp only [read, if_true, reduceCtorEq] at obtained
      | some address =>
          cases created with
          | none => simp only [read, if_true, reduceCtorEq] at obtained
          | some handle =>
              simp only [read, if_true, Option.some.injEq, Prod.mk.injEq] at obtained
              rcases obtained with ⟨rfl, rfl⟩
              have resolved : toSockAddr inet mAddress mPort =
                  .ok (some ⟨address, mPort.toUInt16⟩) := by
                rw [toSockAddr_of_le le, read, Option.map_some]
              unfold initializeServer
              rw [if_neg (fun valid => valid rfl), resolved, Checked.ok_bind]
              cases nonBlocking with
              | false => exact ⟨{}, rfl, fun able => (nomatch able), rfl⟩
              | true =>
                  cases bound with
                  | false =>
                      exact ⟨{ nonBlocking := true }, by simp, fun _ able => (nomatch able), rfl⟩
                  | true =>
                      exact ⟨{ nonBlocking := true, bound := some ⟨address, mPort.toUInt16⟩ },
                        by simp, fun _ _ => rfl, rfl⟩

end Call

/-! ## Sequences of calls -/

section Calls

variable {inet} {attempts : List Attempt} {host : Host}

/-- Once there is a socket every call says that all is well. -/
theorem run_of_ne_none (attempts : List Attempt) (valid : host.server.mSocket ≠ none) :
    ∃ calls, Run.run (initializeStep inet) attempts host = .ok (host, calls) ∧
      calls.length = attempts.length ∧
      ∀ call ∈ calls, call.result = true ∧ call.after = host := by
  induction attempts with
  | nil => exact ⟨[], rfl, rfl, by simp⟩
  | cons attempt attempts ih =>
      rcases ih with ⟨calls, ran, length, all⟩
      refine ⟨⟨host, true, host⟩ :: calls, ?_, by simp [length], ?_⟩
      · rw [Run.run_cons_eq_ok]
        refine ⟨host, [⟨host, true, host⟩], calls, ?_, ran, rfl⟩
        rw [initializeStep, initializeServer_of_ne_none valid]
        rfl
      · intro call member
        rcases List.mem_cons.mp member with rfl | later
        · exact ⟨rfl, rfl⟩
        · exact all call later

/-- The first attempt that gets a socket also gets it ready. -/
def FirstReady (inet : Inet) (server : UdpServer) (attempts : List Attempt) : Prop :=
  ∀ attempt, attempts.find? (fun attempt => (attempt.obtains inet server).isSome) = some attempt →
    attempt.nonBlocking = true ∧ attempt.bound = true

theorem firstReady_cons_of_none {attempt : Attempt}
    (failed : attempt.obtains inet host.server = none) :
    FirstReady inet host.server (attempt :: attempts) ↔ FirstReady inet host.server attempts := by
  simp only [FirstReady, List.find?_cons, failed, Option.isSome_none]

theorem firstReady_cons_of_some {attempt : Attempt} {got : Nat × SockAddr}
    (obtained : attempt.obtains inet host.server = some got) :
    FirstReady inet host.server (attempt :: attempts) ↔
      attempt.nonBlocking = true ∧ attempt.bound = true := by
  simp only [FirstReady, List.find?_cons, obtained, Option.isSome_some, Option.some.injEq,
    forall_eq']

/-- The call that gets a socket is all-or-nothing if it gets it ready. -/
theorem exists_call_of_obtains {attempt : Attempt} {got : Nat × SockAddr}
    (fresh : host.server.mSocket = none)
    (obtained : attempt.obtains inet host.server = some got) :
    ∃ after result, initializeServer inet attempt host = .ok (result, after) ∧
      after.server.mSocket ≠ none ∧
      ((⟨host, result, after⟩ : Call).AllOrNothing inet ↔
        attempt.nonBlocking = true ∧ attempt.bound = true) ∧
      (attempt.nonBlocking = true ∧ attempt.bound = true → Listening inet after) := by
  rcases got with ⟨sock, addr⟩
  obtain ⟨state, ran, ready, resolved⟩ := initializeServer_of_obtains_eq_some fresh obtained
  have listening : attempt.nonBlocking = true ∧ attempt.bound = true → Listening inet
      { server := { host.server with mSocket := some sock }
        sockets := Function.update host.sockets sock state } := by
    intro both
    have stored : Function.update host.sockets sock state sock =
        { nonBlocking := true, bound := some addr } := by
      rw [Function.update_self, ready both.1 both.2]
    exact ⟨sock, addr, rfl, resolved, stored⟩
  refine ⟨_, _, ran, nofun, ⟨?_, ?_⟩, listening⟩
  · intro call
    by_contra other
    have failed : (attempt.nonBlocking && attempt.bound) = false := by simpa using other
    have kept := call.failure failed
    rw [fresh] at kept
    cases kept
  · intro both
    refine ⟨fun _ => listening both, fun failed => ?_⟩
    simp only [both.1, both.2, Bool.and_self, Bool.true_eq_false] at failed

end Calls

/-- Every sequence of calls on a fresh server runs through, and its calls are
all-or-nothing exactly if the first one to get a socket gets it ready. -/
theorem initializeServer_allOrNothing_iff (inet : Inet) (attempts : List Attempt) (host : Host)
    (fresh : host.server.mSocket = none) :
    ∃ after calls, Run.run (initializeStep inet) attempts host = .ok (after, calls) ∧
      calls.length = attempts.length ∧
      ((∀ call ∈ calls, call.AllOrNothing inet) ↔ FirstReady inet host.server attempts) := by
  induction attempts with
  | nil => exact ⟨host, [], rfl, rfl, by simp [FirstReady]⟩
  | cons attempt attempts ih =>
      cases obtained : attempt.obtains inet host.server with
      | none =>
          rcases ih with ⟨after, calls, ran, length, iff⟩
          have step : initializeStep inet attempt host = .ok (host, [⟨host, false, host⟩]) := by
            rw [initializeStep, initializeServer_of_obtains_eq_none fresh obtained]
            rfl
          have kept : (⟨host, false, host⟩ : Call).AllOrNothing inet := ⟨nofun, fun _ => rfl⟩
          refine ⟨after, ⟨host, false, host⟩ :: calls,
            Run.run_cons_eq_ok.mpr ⟨host, _, calls, step, ran, rfl⟩, by simp [length], ?_⟩
          rw [List.forall_mem_cons, firstReady_cons_of_none obtained, ← iff]
          exact and_iff_right kept
      | some got =>
          obtain ⟨after, result, called, valid, first, listening⟩ :=
            exists_call_of_obtains fresh obtained
          obtain ⟨calls, ran, length, all⟩ := run_of_ne_none attempts valid
          have step : initializeStep inet attempt host = .ok (after, [⟨host, result, after⟩]) := by
            rw [initializeStep, called]
            rfl
          refine ⟨after, ⟨host, result, after⟩ :: calls,
            Run.run_cons_eq_ok.mpr ⟨after, _, calls, step, ran, rfl⟩, by simp [length], ?_⟩
          rw [List.forall_mem_cons, firstReady_cons_of_some obtained, first]
          refine and_iff_left_of_imp fun both call member => ?_
          obtain ⟨succeeded, same⟩ := all call member
          exact ⟨fun _ => same ▸ listening both, fun failed => nomatch succeeded.symm.trans failed⟩

/-- A server that has made no call yet. -/
def localhost : Host where
  server :=
    { mAddress := "127.0.0.1", mPort := 8088, mAddress_nonempty := by decide,
      mPort_pos := by decide, mPort_le := by decide }
  sockets _ := {}

theorem initializeServer_allOrNothing_iff_of_localhost :
    localhost.server.mSocket = none ∧
      ∃ after calls, Run.run (initializeStep .dottedQuad)
          [{ created := none }, { created := some 3 }] localhost = .ok (after, calls) ∧
        calls.length = 2 ∧
        ((∀ call ∈ calls, call.AllOrNothing .dottedQuad) ↔
          FirstReady .dottedQuad localhost.server [{ created := none }, { created := some 3 }]) :=
  ⟨rfl, initializeServer_allOrNothing_iff .dottedQuad _ localhost rfl⟩

/-- The same server with a socket that is not bound. -/
def unboundLocalhost : Host where
  server := { localhost.server with mSocket := some 3 }
  sockets := Function.update (Function.update (fun _ => {}) 3 {}) 3 { nonBlocking := true }

/-- `bind` fails in the first call, and the second reports success. -/
theorem not_allOrNothing_of_failed_bind :
    Run.run (initializeStep .dottedQuad)
        [{ created := some 3, bound := false }, { created := some 4 }] localhost =
      .ok (unboundLocalhost,
        [⟨localhost, false, unboundLocalhost⟩, ⟨unboundLocalhost, true, unboundLocalhost⟩]) ∧
    ¬ (⟨localhost, false, unboundLocalhost⟩ : Call).AllOrNothing .dottedQuad ∧
    ¬ (⟨unboundLocalhost, true, unboundLocalhost⟩ : Call).AllOrNothing .dottedQuad := by
  refine ⟨rfl, ?_, ?_⟩
  · intro call
    have kept := call.failure rfl
    cases kept
  · intro call
    obtain ⟨sock, addr, valid, -, ready⟩ := call.success rfl
    cases valid
    cases ready

end UdpServer

end UdpGame
