import UdpGame.UdpServer

/-!
# `DrainSocket`

The loop that empties a socket of `Network.cpp`, over the endless stream of what
its calls of `WSARecv` come back with.  The only way out is an error, so the
loop ends where the stream holds one (`drainSocket_returns_iff`).  A peer that
closes the connection produces none.
-/

namespace UdpGame

open UdpServer

/-- What one `WSARecv` comes back with; no bytes once the peer has closed. -/
inductive Received where
  | bytes (received : List UInt8)
  | error (err : Int)
  deriving DecidableEq, Repr

/-- `DrainSocket`, for at most `fuel` passes of its loop: the result with the
bytes consumed on the way, or `none` when it is still at it. -/
def drainSocket : Nat → (Nat → Received) → Option (Bool × List UInt8)
  | 0, _ => none
  | fuel + 1, recv =>
    match recv 0 with
    | .error err =>
      if err ≠ WSAEWOULDBLOCK then
        some (false, [])
      else
        some (true, [])
    | .bytes received =>
      (drainSocket fuel fun i => recv (i + 1)).map fun (result, rest) => (result, received ++ rest)

theorem drainSocket_error {recv : Nat → Received} {err : Int} (failed : recv 0 = .error err)
    (fuel : Nat) :
    drainSocket (fuel + 1) recv = some (decide (err = WSAEWOULDBLOCK), []) := by
  simp only [drainSocket, failed]
  split <;> simp_all

theorem drainSocket_bytes {recv : Nat → Received} {received : List UInt8}
    (read : recv 0 = .bytes received) (fuel : Nat) :
    drainSocket (fuel + 1) recv =
      (drainSocket fuel fun i => recv (i + 1)).map fun (result, rest) =>
        (result, received ++ rest) := by
  simp only [drainSocket, read]

/-- The loop ends on a stream with an error and on no other. -/
theorem drainSocket_returns_iff (recv : Nat → Received) :
    (∃ fuel, (drainSocket fuel recv).isSome) ↔ ∃ i err, recv i = .error err := by
  constructor
  · intro returns
    rcases returns with ⟨fuel, some⟩
    induction fuel generalizing recv with
    | zero => cases some
    | succ fuel ih =>
        cases first : recv 0 with
        | error err => exact ⟨0, err, first⟩
        | bytes received =>
            rw [drainSocket_bytes first, Option.isSome_map] at some
            rcases ih _ some with ⟨i, err, failed⟩
            exact ⟨i + 1, err, failed⟩
  · intro fails
    rcases fails with ⟨i, err, failed⟩
    induction i generalizing recv with
    | zero => exact ⟨1, by rw [drainSocket_error failed]; rfl⟩
    | succ i ih =>
        cases first : recv 0 with
        | error err => exact ⟨1, by rw [drainSocket_error first]; rfl⟩
        | bytes received =>
            rcases ih (fun i => recv (i + 1)) failed with ⟨fuel, some⟩
            exact ⟨fuel + 1, by rw [drainSocket_bytes first, Option.isSome_map]; exact some⟩

/-! ## Streams of a connected socket -/

/-- `kBufferSize` of `DrainSocket`. -/
def kDrainBufferSize : Nat := 16

/-- What the socket reports once everything the peer sent is read. -/
inductive Ending where
  | wouldBlock
  | error (err : Int) (other : err ≠ WSAEWOULDBLOCK)
  /-- The peer has closed: success with no bytes, for ever. -/
  | closed
  deriving DecidableEq, Repr

def Ending.From (recv : Nat → Received) (start : Nat) : Ending → Prop
  | .wouldBlock => recv start = .error WSAEWOULDBLOCK
  | .error err _ => recv start = .error err
  | .closed => ∀ i, start ≤ i → recv i = .bytes []

/-- The peer has sent the chunks, and then the stream ends one way or another. -/
structure PeerSends (recv : Nat → Received) (chunks : List (List UInt8)) (ending : Ending) :
    Prop where
  size : ∀ chunk ∈ chunks, 0 < chunk.length ∧ chunk.length ≤ kDrainBufferSize
  sent : ∀ i (inside : i < chunks.length), recv i = .bytes chunks[i]
  ending : ending.From recv chunks.length

/-- The loop returns, all bytes consumed: `true` when there was nothing more to
read, `false` on another error. -/
def Drains (recv : Nat → Received) (chunks : List (List UInt8)) (ending : Ending) : Prop :=
  ∃ fuel result, drainSocket fuel recv = some (result, chunks.flatten) ∧
    (ending = .wouldBlock → result = true) ∧
    ∀ err other, ending = .error err other → result = false

/-- By induction on the chunks: one pass for each, and one for the error. -/
theorem drainSocket_of_error {recv : Nat → Received} {chunks : List (List UInt8)} {err : Int}
    (sent : ∀ i (inside : i < chunks.length), recv i = .bytes chunks[i])
    (failed : recv chunks.length = .error err) :
    drainSocket (chunks.length + 1) recv =
      some (decide (err = WSAEWOULDBLOCK), chunks.flatten) := by
  induction chunks generalizing recv with
  | nil => exact drainSocket_error failed 0
  | cons chunk chunks ih =>
      have first : recv 0 = .bytes chunk := sent 0 (Nat.succ_pos _)
      have later : ∀ i (inside : i < chunks.length), recv (i + 1) = .bytes chunks[i] :=
        fun i inside => sent (i + 1) (Nat.succ_lt_succ inside)
      rw [List.length_cons, drainSocket_bytes first, ih later failed]
      rfl

theorem not_returns_of_closed {recv : Nat → Received} {chunks : List (List UInt8)}
    (sends : PeerSends recv chunks .closed) (fuel : Nat) : drainSocket fuel recv = none := by
  by_contra some
  have returns : ∃ fuel, (drainSocket fuel recv).isSome :=
    ⟨fuel, Option.isSome_iff_ne_none.mpr some⟩
  rcases (drainSocket_returns_iff recv).mp returns with ⟨i, err, failed⟩
  have read : ∃ received, recv i = .bytes received := by
    rcases Nat.lt_or_ge i chunks.length with inside | past
    · exact ⟨_, sends.sent i inside⟩
    · exact ⟨[], sends.ending i past⟩
  rcases read with ⟨received, read⟩
  rw [read] at failed
  cases failed

/-- The socket is drained unless the peer has closed it. -/
theorem drains_iff (recv : Nat → Received) (chunks : List (List UInt8)) (ending : Ending)
    (sends : PeerSends recv chunks ending) : Drains recv chunks ending ↔ ending ≠ .closed := by
  cases ending with
  | wouldBlock =>
      have run := drainSocket_of_error sends.sent sends.ending
      exact iff_of_true ⟨_, _, run, fun _ => decide_eq_true rfl, fun _ _ same => nomatch same⟩
        (fun same => nomatch same)
  | error err other =>
      have run := drainSocket_of_error sends.sent sends.ending
      exact iff_of_true ⟨_, _, run, fun same => (nomatch same), fun _ _ _ => decide_eq_false other⟩
        (fun same => nomatch same)
  | closed =>
      apply iff_of_false
      · intro drains
        rcases drains with ⟨fuel, result, returned, -⟩
        rw [not_returns_of_closed sends fuel] at returned
        cases returned
      · exact fun differ => differ rfl

/-- Two bytes, and then nothing more for now. -/
theorem drains_iff_of_two_bytes :
    let recv := fun i => if i = 0 then Received.bytes [1, 2] else .error WSAEWOULDBLOCK
    PeerSends recv [[1, 2]] .wouldBlock ∧
      (Drains recv [[1, 2]] .wouldBlock ↔ Ending.wouldBlock ≠ .closed) := by
  intro recv
  have sends : PeerSends recv [[1, 2]] .wouldBlock :=
    ⟨by decide, fun i inside => by obtain rfl : i = 0 := Nat.lt_one_iff.mp inside; rfl, rfl⟩
  exact ⟨sends, drains_iff recv [[1, 2]] .wouldBlock sends⟩

/-- The peer closes without having sent anything. -/
theorem not_drains_of_closed :
    PeerSends (fun _ => .bytes []) [] .closed ∧ ¬ Drains (fun _ => .bytes []) [] .closed := by
  have sends : PeerSends (fun _ => .bytes []) [] .closed :=
    ⟨by simp, fun _ inside => absurd inside (by simp), fun _ _ => rfl⟩
  refine ⟨sends, fun drains => ?_⟩
  rcases drains with ⟨fuel, result, returned, -⟩
  rw [not_returns_of_closed sends fuel] at returned
  cases returned

end UdpGame
