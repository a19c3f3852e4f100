import UdpGame.Initialize
import UdpGame.Lib.Handles

/-!
# Sockets

Which sockets are open.  `SendMessage` and `CreateSocketPair` close what they
open on every way out, by scope guards that look at the variables then;
`Initialize` leaves its socket in `mSocket`, also when it fails, and the
destructor closes that.  So whatever is called, in whatever order, and whatever
fails, the open sockets are `mSocket` and the pairs that were handed out, no
socket is used or closed that is not open, and nothing is left in the end
(`sockets_are_closed`).
-/

namespace UdpGame

open Handles

/-- A program over the sockets of the process. -/
abbrev SocketProgram (α : Type) : Type := Program Nat Fault α

variable (source : Source Nat)

/-! ## `CreateSocketPair` -/

/-- What the system calls of `CreateSocketPair` come back with, in their order. -/
structure PairOutcome where
  listener : Bool := true
  bound : Bool := true
  listening : Bool := true
  named : Bool := true
  client : Bool := true
  connected : Bool := true
  server : Bool := true
  clientNonBlocking : Bool := true
  serverNonBlocking : Bool := true
  deriving DecidableEq, Repr

def PairOutcome.succeeds (outcome : PairOutcome) : Bool :=
  outcome.listener && outcome.bound && outcome.listening && outcome.named && outcome.client &&
    outcome.connected && outcome.server && outcome.clientNonBlocking && outcome.serverNonBlocking

/-- The variables the guards of `CreateSocketPair` close. -/
structure PairSockets where
  listener : Option Nat := none
  client : Option Nat := none
  server : Option Nat := none

/-- The guards, last declared first. -/
def PairSockets.release (sockets : PairSockets) : SocketProgram Unit := do
  close sockets.server
  close sockets.client
  close sockets.listener

/-- A call on one socket that gives out another. -/
def accept (listener : Nat) (granted : Bool) : SocketProgram (Option Nat) := do
  let granted ← call listener granted
  create source granted

/-- `CreateSocketPair`: what `reader` and `writer` are set to, if it succeeds. -/
def createSocketPair (outcome : PairOutcome) : SocketProgram (Option (Nat × Nat)) :=
  guarded (do
    let some listener ← create source outcome.listener | return (none, {})
    if !(← call listener outcome.bound) then return (none, { listener })
    if !(← call listener outcome.listening) then return (none, { listener })
    if !(← call listener outcome.named) then return (none, { listener })
    let some client ← create source outcome.client | return (none, { listener })
    if !(← call client outcome.connected) then return (none, { listener, client })
    let some server ← accept source listener outcome.server
      | return (none, { listener, client })
    if !(← call client outcome.clientNonBlocking) then
      return (none, { listener, client, server })
    if !(← call server outcome.serverNonBlocking) then
      return (none, { listener, client, server })
    return (some (client, server), { listener })) PairSockets.release

/-- The sockets of a pair. -/
def pairHandles (pair : Nat × Nat) : Multiset Nat := {pair.1} + {pair.2}

def PairSockets.owned (sockets : PairSockets) : Multiset Nat :=
  held sockets.server + held sockets.client + held sockets.listener

theorem release_closes (sockets : PairSockets) (given : Multiset Nat) :
    Triple (sockets.owned + given) sockets.release fun _ left => left = given := by
  rw [PairSockets.owned, add_assoc, add_assoc]
  refine (Triple.close sockets.server _).bind ?_
  rintro - left rfl
  refine (Triple.close sockets.client _).bind ?_
  rintro - left rfl
  exact Triple.close sockets.listener given

/-- What the body of `CreateSocketPair` leaves to its guards. -/
def PairOutcome.Leaves (outcome : PairOutcome) (r : Option (Nat × Nat) × PairSockets)
    (left : Multiset Nat) : Prop :=
  ∃ given, (r.1.isSome = outcome.succeeds ∧ given = r.1.elim 0 pairHandles) ∧
    left = r.2.owned + given

section Body

variable {source} {outcome : PairOutcome} {sockets : PairSockets}

theorem leaves_of_failure (failed : outcome.succeeds = false) :
    Triple sockets.owned (pure (none, sockets) : SocketProgram _) outcome.Leaves :=
  Triple.pure ⟨0, ⟨failed.symm, rfl⟩, (add_zero _).symm⟩

/-- A call whose failure ends the body. -/
theorem call_or_fail {sock : Nat} {succeeds : Bool}
    {rest : SocketProgram (Option (Nat × Nat) × PairSockets)} (member : sock ∈ sockets.owned)
    (needed : succeeds = false → outcome.succeeds = false)
    (next : succeeds = true → Triple sockets.owned rest outcome.Leaves) :
    Triple sockets.owned
      (call sock succeeds >>= fun result => if (!result) = true then pure (none, sockets) else rest)
      outcome.Leaves := by
  refine (Triple.call member succeeds).bind ?_
  rintro result left ⟨rfl, rfl⟩
  cases result with
  | false => exact leaves_of_failure (needed rfl)
  | true => exact next rfl

/-- A socket whose absence ends the body. -/
theorem socket_or_fail {m : SocketProgram (Option Nat)} {granted : Bool}
    {rest : Option Nat → SocketProgram (Option (Nat × Nat) × PairSockets)}
    (gives : Triple sockets.owned m fun h left => h.isSome = granted ∧ left = held h + sockets.owned)
    (needed : granted = false → outcome.succeeds = false)
    (stops : rest none = pure (none, sockets))
    (next : ∀ h, granted = true →
      Triple (held (some h) + sockets.owned) (rest (some h)) outcome.Leaves) :
    Triple sockets.owned (m >>= rest) outcome.Leaves := by
  refine gives.bind ?_
  rintro h left ⟨rfl, rfl⟩
  cases h with
  | none =>
      rw [stops, held, zero_add]
      exact leaves_of_failure (needed rfl)
  | some h => exact next h rfl

theorem accept_gives {listener : Nat} {pre : Multiset Nat} (member : listener ∈ pre)
    (granted : Bool) :
    Triple pre (accept source listener granted) fun h left =>
      h.isSome = granted ∧ left = held h + pre := by
  refine (Triple.call member granted).bind ?_
  rintro result left ⟨rfl, rfl⟩
  exact Triple.create source result

end Body

/-- A pair is handed out if everything succeeds, and nothing else stays open. -/
theorem createSocketPair_closes (outcome : PairOutcome) :
    Triple 0 (createSocketPair source outcome) fun pair left =>
      pair.isSome = outcome.succeeds ∧ left = pair.elim 0 pairHandles := by
  refine Triple.guarded ?_ release_closes
  change Triple (PairSockets.owned {}) _ outcome.Leaves
  refine socket_or_fail (Triple.create source outcome.listener)
    (fun failed => by simp [PairOutcome.succeeds, failed]) rfl fun listener created => ?_
  have one : held (some listener) + PairSockets.owned {} =
      PairSockets.owned { listener := some listener } := by
    simp [PairSockets.owned, held]
  have mine : listener ∈ PairSockets.owned { listener := some listener } := by
    simp [PairSockets.owned, held]
  rw [one]
  refine call_or_fail mine (fun failed => by simp [PairOutcome.succeeds, failed]) fun bound => ?_
  refine call_or_fail mine (fun failed => by simp [PairOutcome.succeeds, failed]) fun listening => ?_
  refine call_or_fail mine (fun failed => by simp [PairOutcome.succeeds, failed]) fun named => ?_
  refine socket_or_fail (Triple.create source outcome.client)
    (fun failed => by simp [PairOutcome.succeeds, failed]) rfl fun client connecting => ?_
  have two : held (some client) + PairSockets.owned { listener := some listener } =
      PairSockets.owned { listener := some listener, client := some client } := by
    simp [PairSockets.owned, held]
  rw [two]
  refine call_or_fail (by simp [PairSockets.owned, held])
    (fun failed => by simp [PairOutcome.succeeds, failed]) fun connected => ?_
  refine socket_or_fail (accept_gives (by simp [PairSockets.owned, held]) outcome.server)
    (fun failed => by simp [PairOutcome.succeeds, failed]) rfl fun server accepted => ?_
  have three : held (some server) +
      PairSockets.owned { listener := some listener, client := some client } =
      PairSockets.owned
        { listener := some listener, client := some client, server := some server } := by
    simp only [PairSockets.owned, held, zero_add, add_assoc]
  rw [three]
  refine call_or_fail (by simp [PairSockets.owned, held])
    (fun failed => by simp [PairOutcome.succeeds, failed]) fun reader => ?_
  refine call_or_fail (by simp [PairSockets.owned, held])
    (fun failed => by simp [PairOutcome.succeeds, failed]) fun writer => ?_
  refine Triple.pure ⟨pairHandles (client, server), ⟨?_, rfl⟩, ?_⟩
  · simp [PairOutcome.succeeds, created, bound, listening, named, connecting, connected, accepted,
      reader, writer]
  · simp only [PairSockets.owned, held, zero_add, pairHandles]
    rw [add_comm, add_comm ({server} : Multiset Nat)]

/-! ## `SendMessage` -/

/-- Whether a `SendMessage` gets a socket, and whether that takes the datagram. -/
structure SendOutcome where
  created : Bool := true
  taken : Bool := true
  deriving DecidableEq, Repr

/-- `SendMessage` with its socket. -/
def sendMessageSocket (inet : Inet) (address : String) (port : UInt32) (buffer : NetworkBuffer)
    (outcome : SendOutcome) : SocketProgram Bool := do
  lift (Checked.assert (buffer.mOffset ≤ kNetworkBufferSize))
  let target ← lift (toSockAddr inet address port)
  let some sock ← create source outcome.created | return false
  guarded (do
    let result ← call sock (outcome.taken && target.isSome)
    return (result, some sock)) close

/-- It returns what `sendMessage` says, and closes its socket. -/
theorem sendMessageSocket_closes {inet : Inet} {env : Env} {address : String} {port : UInt32}
    {buffer : NetworkBuffer} {outcome : SendOutcome} {sendCall : SendCall}
    (sent : env.sent = (outcome.created && outcome.taken))
    (ran : sendMessage inet env address port buffer = .ok sendCall) :
    Triple 0 (sendMessageSocket source inet address port buffer outcome) fun result left =>
      result = sendCall.result ∧ left = 0 := by
  simp only [sendMessage, Checked.bind_eq_ok, Checked.pure_eq_ok, Except.ok.injEq] at ran
  obtain ⟨done, small, target, resolved, rfl⟩ := ran
  refine (Triple.lift small).bind ?_
  rintro - left ⟨-, rfl⟩
  refine (Triple.lift resolved).bind ?_
  rintro found left ⟨same, rfl⟩
  rw [same, sent]
  refine (Triple.create source outcome.created).bind ?_
  rintro sock left ⟨created, rfl⟩
  rw [← created]
  cases sock with
  | none => exact Triple.pure ⟨rfl, rfl⟩
  | some sock =>
      refine Triple.guarded ?_ fun vars given => Triple.close vars given
      refine (Triple.call (h := sock) (by simp [held]) (outcome.taken && target.isSome)).bind ?_
      rintro result left ⟨rfl, rfl⟩
      exact Triple.pure ⟨0, ⟨by simp, rfl⟩, rfl⟩

/-! ## The socket of the server -/

namespace UdpServer

/-- `Initialize` over the sockets of the process. -/
def initializeSocket (inet : Inet) (attempt : Attempt) (server : UdpServer) :
    SocketProgram (Bool × UdpServer) :=
  if server.mSocket ≠ none then return (true, server)
  else do
    let addr ← lift (toSockAddr inet server.mAddress server.mPort)
    match (if attempt.converted then addr else none) with
    | none => return (false, server)
    | some _ =>
      let mSocket ← create source attempt.created.isSome
      let server := { server with mSocket := mSocket }
      match mSocket with
      | none => return (false, server)
      | some sock =>
        let nonBlocking ← call sock attempt.nonBlocking
        if !nonBlocking then return (false, server)
        else
          let bound ← call sock attempt.bound
          if !bound then return (false, server)
          else return (true, server)

/-- The destructor. -/
def destroy (server : UdpServer) : SocketProgram UdpServer :=
  match server.mSocket with
  | none => return server
  | some sock => do
    close (some sock)
    return { server with mSocket := none }

/-- The sockets aside, a call does what `initializeServer` does. -/
def Agrees (inet : Inet) (attempt : Attempt) (server : UdpServer) (r : Bool × UdpServer) : Prop :=
  ∃ created : Option Nat, created.isSome = attempt.created.isSome ∧ ∀ sockets, ∃ sockets',
    initializeServer inet { attempt with created := created } ⟨server, sockets⟩ =
      .ok (r.1, ⟨r.2, sockets'⟩)

theorem obtains_eq (inet : Inet) (server : UdpServer) (attempt : Attempt) :
    attempt.obtains inet server =
      (if attempt.converted then (inet.pton server.mAddress).map fun sin_addr =>
          (⟨sin_addr, server.mPort.toUInt16⟩ : SockAddr)
        else none).bind fun addr => attempt.created.map fun sock => (sock, addr) := by
  unfold Attempt.obtains
  cases attempt.converted with
  | false => rfl
  | true =>
      cases inet.pton server.mAddress with
      | none => rfl
      | some address => cases attempt.created <;> rfl

/-- The server holds on to what it opens, also where it fails. -/
theorem initializeSocket_keeps (inet : Inet) (attempt : Attempt) (server : UdpServer) :
    Triple (held server.mSocket) (initializeSocket source inet attempt server) fun r left =>
      left = held r.2.mSocket ∧ Agrees inet attempt server r := by
  unfold initializeSocket
  by_cases valid : server.mSocket = none
  swap
  · rw [if_pos valid]
    refine Triple.pure ⟨rfl, attempt.created, rfl, fun sockets => ⟨sockets, ?_⟩⟩
    exact initializeServer_of_ne_none valid
  rw [if_neg (not_not.mpr valid)]
  have obtains := obtains_eq inet server
  obtain ⟨mSocket, mAddress, mPort, nonempty, pos, le⟩ := server
  obtain rfl : mSocket = none := valid
  refine (Triple.lift (toSockAddr_of_le le)).bind ?_
  rintro addr left ⟨rfl, rfl⟩
  cases found : (if attempt.converted then (inet.pton mAddress).map fun sin_addr =>
      (⟨sin_addr, mPort.toUInt16⟩ : SockAddr) else none) with
  | none =>
      have nothing := obtains attempt
      rw [found, Option.bind_none] at nothing
      refine Triple.pure ⟨rfl, attempt.created, rfl, fun sockets => ⟨sockets, ?_⟩⟩
      exact initializeServer_of_obtains_eq_none rfl nothing
  | some addr =>
      refine (Triple.create source attempt.created.isSome).bind ?_
      rintro mSocket left ⟨created, rfl⟩
      have got := obtains { attempt with created := mSocket }
      simp only [found, Option.bind_some] at got
      cases mSocket with
      | none =>
          refine Triple.pure ⟨rfl, none, created, fun sockets => ⟨sockets, ?_⟩⟩
          exact initializeServer_of_obtains_eq_none rfl got
      | some sock =>
          have agrees : Agrees inet attempt ⟨none, mAddress, mPort, nonempty, pos, le⟩
              (attempt.nonBlocking && attempt.bound,
                ⟨some sock, mAddress, mPort, nonempty, pos, le⟩) := by
            refine ⟨some sock, created, fun sockets => ?_⟩
            have called := @initializeServer_of_obtains_eq_some inet
              { attempt with created := some sock }
              ⟨⟨none, mAddress, mPort, nonempty, pos, le⟩, sockets⟩ sock addr rfl got
            obtain ⟨state, ran, -⟩ := called
            exact ⟨_, ran⟩
          have mine : sock ∈ held (some sock) + held none := by simp [held]
          refine (Triple.call mine attempt.nonBlocking).bind ?_
          rintro nonBlocking left ⟨rfl, rfl⟩
          cases able : attempt.nonBlocking with
          | false =>
              rw [able] at agrees
              exact Triple.pure ⟨add_zero _, agrees⟩
          | true =>
              rw [able] at agrees
              refine (Triple.call mine attempt.bound).bind ?_
              rintro bound left ⟨rfl, rfl⟩
              cases fixed : attempt.bound with
              | false =>
                  rw [fixed] at agrees
                  exact Triple.pure ⟨add_zero _, agrees⟩
              | true =>
                  rw [fixed] at agrees
                  exact Triple.pure ⟨add_zero _, agrees⟩

end UdpServer

/-! ## The sockets of a process -/

/-- The server of a process, and the socket pairs that its program has. -/
structure Life where
  server : UdpServer
  pairs : List (Nat × Nat) := []

/-- The sockets that ought to be open. -/
def Life.sockets (life : Life) : Multiset Nat :=
  held life.server.mSocket + (life.pairs.map pairHandles).sum

/-- A call that has to do with sockets.  `Run` reads from the socket of the
server, and what is sent has passed the assertions. -/
inductive SocketCall where
  | initializeServer (attempt : Attempt)
  | receive
  | sendMessage (address : String) (port : UInt32) (buffer : NetworkBuffer)
      (port_le : port ≤ 65535) (small : buffer.mOffset ≤ kNetworkBufferSize)
      (outcome : SendOutcome)
  | createSocketPair (outcome : PairOutcome)

def Life.step (inet : Inet) (life : Life) : SocketCall → SocketProgram Life
  | .initializeServer attempt => do
    let (_, server) ← life.server.initializeSocket source inet attempt
    return { life with server := server }
  | .receive =>
    match life.server.mSocket with
    | none => return life
    | some sock => do
      let _ ← call sock true
      return life
  | .sendMessage address port buffer _ _ outcome => do
    let _ ← sendMessageSocket source inet address port buffer outcome
    return life
  | .createSocketPair outcome => do
    match ← UdpGame.createSocketPair source outcome with
    | none => return life
    | some pair => return { life with pairs := pair :: life.pairs }

theorem Life.step_keeps (inet : Inet) (life : Life) (socketCall : SocketCall) :
    Triple life.sockets (life.step source inet socketCall) fun life' left =>
      left = life'.sockets := by
  cases socketCall with
  | initializeServer attempt =>
      have keeps := life.server.initializeSocket_keeps source inet attempt
      refine (keeps.frame _).bind ?_
      rintro ⟨result, server⟩ left ⟨own, ⟨rfl, -⟩, rfl⟩
      exact Triple.pure rfl
  | receive =>
      unfold Life.step
      cases stored : life.server.mSocket with
      | none => exact Triple.pure rfl
      | some sock =>
          have mine : sock ∈ life.sockets := by simp [Life.sockets, stored, held]
          refine (Triple.call mine true).bind ?_
          rintro result left ⟨-, rfl⟩
          exact Triple.pure rfl
  | sendMessage address port buffer port_le small outcome =>
      have ran := @sendMessage_eq inet { sent := outcome.created && outcome.taken } address port
        buffer small port_le
      have framed := (sendMessageSocket_closes source rfl ran).frame life.sockets
      rw [zero_add] at framed
      refine framed.bind ?_
      rintro result left ⟨own, ⟨-, rfl⟩, rfl⟩
      exact Triple.pure (zero_add _)
  | createSocketPair outcome =>
      have framed := (createSocketPair_closes source outcome).frame life.sockets
      rw [zero_add] at framed
      refine framed.bind ?_
      rintro pair left ⟨own, ⟨-, rfl⟩, rfl⟩
      cases pair with
      | none => exact Triple.pure (zero_add _)
      | some pair =>
          refine Triple.pure ?_
          simp only [Option.elim_some, Life.sockets, List.map_cons, List.sum_cons]
          exact add_left_comm ..

/-- The destructor closes what the server still has. -/
theorem UdpServer.destroy_closes (server : UdpServer) (others : Multiset Nat) :
    Triple (held server.mSocket + others) (server.destroy) fun server' left =>
      server'.mSocket = none ∧ left = others := by
  unfold UdpServer.destroy
  cases stored : server.mSocket with
  | none => exact Triple.pure ⟨stored, zero_add _⟩
  | some sock =>
      refine (Triple.close (some sock) others).bind ?_
      rintro - left rfl
      exact Triple.pure ⟨rfl, rfl⟩

/-- Whatever is called and whatever fails, every socket that was opened is open
once or closed, none was closed twice, and in the end only the pairs are open
that the program was given. -/
theorem sockets_are_closed (inet : Inet) {server : UdpServer} (fresh : server.mSocket = none)
    (calls : List SocketCall) :
    ∃ life table, calls.foldlM (Life.step source inet) { server := server } ∅ =
        .ok (life, table) ∧
      table.val = life.sockets ∧
      ∃ server' table', life.server.destroy table = .ok (server', table') ∧
        server'.mSocket = none ∧ table'.val = (life.pairs.map pairHandles).sum := by
  have start : (∅ : Finset Nat).val = Life.sockets { server := server } + 0 := by
    simp [Life.sockets, fresh, held]
  obtain ⟨life, table, left, ran, shape, rfl⟩ :=
    Triple.foldlM (Life.step_keeps source inet) calls { server := server } 0 ∅ start
  obtain ⟨server', table', left', destroyed, shape', closed, rfl⟩ :=
    life.server.destroy_closes _ 0 table shape
  rw [add_zero] at shape shape'
  exact ⟨life, table, ran, shape, server', table', destroyed, closed, shape'⟩

/-- The socket of a failed `Initialize`, a datagram that is not taken and a pair
whose connection fails: nothing is left. -/
theorem sockets_are_closed_after_failures :
    ∃ life table,
      [.initializeServer { created := some 0, bound := false },
        .sendMessage "127.0.0.1" 8088 {} (by decide) (by decide) { taken := false },
        .createSocketPair { connected := false }].foldlM
          (Life.step .nat .dottedQuad) { server := UdpServer.localhost.server } ∅ =
        .ok (life, table) ∧
      ∃ server' table', life.server.destroy table = .ok (server', table') ∧ table' = ∅ := by
  obtain ⟨life, table, ran, -, server', table', destroyed, -, left⟩ :=
    @sockets_are_closed .nat .dottedQuad UdpServer.localhost.server rfl
      [.initializeServer { created := some 0, bound := false },
        .sendMessage "127.0.0.1" 8088 {} (by decide) (by decide) { taken := false },
        .createSocketPair { connected := false }]
  refine ⟨life, table, ran, server', table', destroyed, ?_⟩
  have none_given : life.pairs = [] := by
    cases ran
    rfl
  rw [none_given] at left
  exact Finset.val_eq_zero.mp left

end UdpGame
