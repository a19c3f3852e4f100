import UdpGame.Process
import UdpGame.Replies

/-!
# Traffic

The server only answers, with one datagram for an accepted one and never with
more bytes than that had.  So nobody can make it send more than it is sent
(`server_does_not_amplify`), wherever the answers go.
-/

namespace UdpGame

namespace Server

open GameState UdpServer

section Event

variable {inet : Inet} {env : Env} {game after : GameState} {out : List SendCall}

/-- The number of bytes a call hands to the socket. -/
def weight (call : SendCall) : Nat := call.buffer.mOffset

theorem weight_loginReply (ev : LoginEvent) (id messageId : UInt32) :
    weight (loginReply inet env ev id messageId) = kLoginMessageSize :=
  Serializer.encodes_login.length_datagram _

theorem weight_pingReply (ev : PingEvent) (state : PlayerState) :
    weight (pingReply inet env ev state) = kAckMessageSize :=
  Serializer.encodes_acknowledge.length_datagram _

/-- The answer to a datagram, if there is one, is no longer than it. -/
theorem answer_of_carries {datagram : Datagram} {ev : Event} (carries : ev.Carries inet datagram)
    (keyed : game.Keyed) (stepped : step inet (env, ev) game = .ok (after, out)) :
    out = [] ∨ ∃ call, out = [call] ∧ weight call ≤ datagram.bytes.length := by
  cases ev with
  | login ev =>
      obtain ⟨-, -, -, -, -, decoded⟩ := carries
      have long : kLoginMessageSize ≤ datagram.bytes.length :=
        (Serializer.decodes_login.eq_some decoded).2.2.1
      obtain ⟨game', id, created, state, -, -, -, -, rfl, -⟩ := handleLogin_cases keyed stepped
      exact .inr ⟨_, rfl, (weight_loginReply ..).trans_le long⟩
  | ping ev =>
      obtain ⟨-, -, -, -, -, decoded⟩ := carries
      have long : kPingMessageSize ≤ datagram.bytes.length :=
        (Serializer.decodes_ping.eq_some decoded).2.2.1
      rcases handlePing_cases inet env ev game with ⟨ran, -⟩ | ⟨state, -, -, ran⟩
      · cases ran.symm.trans stepped
        exact .inl rfl
      · cases ran.symm.trans stepped
        exact .inr ⟨_, rfl, (weight_pingReply ..).trans_le (Nat.le_trans (by decide) long)⟩
  | acknowledge ev =>
      cases stepped
      exact .inl rfl

end Event

section Runs

variable {inet : Inet}

/-- The number of bytes of the datagram an event came with. -/
def received (ev : Event) : Nat := ev.base.msg.buffer.bytes.length

/-- The events of a run pay for its answers, in datagrams and in bytes. -/
theorem sends_of_run {params : Params} {events : List (Env × Event)} {game : GameState}
    {sends : List SendCall}
    (carried : ∀ input ∈ events, ∃ datagram, input.2.Carries inet datagram)
    (ran : Run.run (step inet) events { mParams := params } = .ok (game, sends)) :
    (sends.map weight).sum ≤ (events.map fun input => received input.2).sum ∧
      sends.length ≤ events.length := by
  have answer : ∀ {input : Env × Event} {game after : GameState} {out : List SendCall},
      game.Keyed → (∃ datagram, input.2.Carries inet datagram) →
      step inet input game = .ok (after, out) →
      out = [] ∨ ∃ call, out = [call] ∧ weight call ≤ received input.2 := by
    intro input game after out keyed carries stepped
    rcases carries with ⟨datagram, carries⟩
    rcases answer_of_carries carries keyed stepped with none | ⟨call, one, short⟩
    · exact .inl none
    · exact .inr ⟨call, one, by rw [received, carries.1]; exact short⟩
  constructor
  · have paid := @Run.run_amortized _ _ _ _ (step inet) ℕ _ _ _ _ _ weight
      (fun input => received input.2) (fun _ => 0) ?_ _ _ _ _ (keyed_initial params) carried ran
    · exact paid
    intro input game after out keyed carries stepped
    refine ⟨keyed_step keyed stepped, ?_⟩
    rcases answer keyed carries stepped with rfl | ⟨call, rfl, short⟩
    · exact Nat.zero_le _
    · simpa using short
  · have counted := @Run.run_amortized _ _ _ _ (step inet) ℕ _ _ _ _ _ (fun _ => 1)
      (fun _ => 1) (fun _ => 0) ?_ _ _ _ _ (keyed_initial params) carried ran
    · simpa using counted
    intro input game after out keyed carries stepped
    refine ⟨keyed_step keyed stepped, ?_⟩
    rcases answer keyed carries stepped with rfl | ⟨call, rfl, -⟩
    · exact Nat.zero_le _
    · exact Nat.le_refl _

/-- The accepted datagrams are some of those that arrived. -/
theorem sum_received_le (datagrams : List Datagram) :
    ((datagrams.filterMap (Datagram.event? inet)).map received).sum ≤
      (datagrams.map fun datagram => datagram.bytes.length).sum := by
  induction datagrams with
  | nil => exact Nat.le_refl _
  | cons datagram datagrams ih =>
      rw [List.map_cons, List.sum_cons, List.filterMap_cons]
      cases accepted : datagram.event? inet with
      | none => exact Nat.le_trans ih (Nat.le_add_left ..)
      | some ev =>
          have bytes := (Datagram.carries_of_event? accepted).1
          simp only [List.map_cons, List.sum_cons, received, bytes]
          exact Nat.add_le_add_left ih _

end Runs

/-- The server sends no more datagrams, and no more bytes, than it has heard. -/
theorem server_does_not_amplify (inet : Inet) (params : Params) (interval : Time)
    (rounds : List (Round (Nat → Env))) {next : Next} {loop : Loop (Game GameState)}
    {sends : List SendCall}
    (ran : process inet params interval rounds = .ok (next, loop, sends)) :
    (sends.map weight).sum ≤
        ((heard interval rounds).map fun datagram => datagram.bytes.length).sum ∧
      sends.length ≤ (heard interval rounds).length := by
  rw [process_eq, Checked.bind_eq_ok] at ran
  obtain ⟨⟨game, sends'⟩, handled, same⟩ := ran
  cases same
  have accepted := map_snd_handledEvents inet interval rounds
  have carried : ∀ input ∈ handledEvents inet interval rounds,
      ∃ datagram, input.2.Carries inet datagram := by
    intro input member
    have listed := List.mem_map_of_mem (f := Prod.snd) member
    rw [accepted] at listed
    rcases List.mem_filterMap.mp listed with ⟨datagram, -, made⟩
    exact ⟨datagram, Datagram.carries_of_event? made⟩
  rcases sends_of_run carried handled with ⟨bytes, count⟩
  constructor
  · have events : (handledEvents inet interval rounds).map (fun input => received input.2) =
        ((heard interval rounds).filterMap (Datagram.event? inet)).map received := by
      rw [← accepted, List.map_map]
      rfl
    rw [events] at bytes
    exact Nat.le_trans bytes (sum_received_le _)
  · have lengths := congrArg List.length accepted
    rw [List.length_map] at lengths
    rw [lengths] at count
    exact Nat.le_trans count (List.length_filterMap_le ..)

theorem server_does_not_amplify_one_login :
    ∃ loop sends, process .dottedQuad {} (milliseconds 30) oneLogin = .ok (.again, loop, sends) ∧
      (sends.map weight).sum ≤ 32 ∧ sends.length ≤ 1 := by
  have room : (FirstCome.ofList (named .dottedQuad (heard (milliseconds 30) oneLogin))).length ≤
      2 ^ 32 := by decide +kernel
  obtain ⟨loop, sends, ran⟩ := @exists_process .dottedQuad {} _ _ room
  exact ⟨loop, sends, ran, server_does_not_amplify .dottedQuad {} (milliseconds 30) oneLogin ran⟩

end Server

end UdpGame
