import UdpGame.Isolation

/-!
# The log of sent messages

`nextMessage` numbers the replies to a player, and `messages` keeps those that
were sent.  Against the list of all replies generated for the player this is a
log: entry `i` is reply `i` if its send succeeded, and is missing otherwise
(`message_log`).  The number is spent before the send, so a failed send leaves a
gap that nothing can be resent from (`resendable_iff`).
-/

namespace UdpGame

namespace Server

open GameState

/-! ## Replies and their numbers -/

/-- The datagram of a call encodes a reply with a message id, and shows it. -/
structure Stamped (call : SendCall) (messageId : UInt32) : Prop where
  encoded : (∃ login : LoginMessage, login.message.messageId = messageId ∧
      Serializer.login.encode login = .ok call.buffer) ∨
    ∃ ack : AcknowledgeMessage, ack.message.messageId = messageId ∧
      Serializer.acknowledge.encode ack = .ok call.buffer
  bytes : (Wire.message call.buffer.bytes).messageId = messageId

theorem stamped_loginReply (inet : Inet) (env : Env) (ev : LoginEvent)
    (session messageId : UInt32) :
    Stamped (loginReply inet env ev session messageId) messageId := by
  refine ⟨.inl ⟨_, rfl, LoginMessage.encode_eq _⟩, ?_⟩
  rw [loginReply, NetworkBuffer.bytes_holding, LoginMessage.datagram, Serializer.datagram,
    Wire.message_frame]
  · rfl
  · exact Serializer.encodes_login.datagram_fits _

theorem stamped_pingReply (inet : Inet) (env : Env) (ev : PingEvent) (state : PlayerState) :
    Stamped (pingReply inet env ev state) state.nextMessage := by
  refine ⟨.inr ⟨_, rfl, AcknowledgeMessage.encode_eq _⟩, ?_⟩
  rw [pingReply, NetworkBuffer.bytes_holding, AcknowledgeMessage.datagram, Serializer.datagram,
    Wire.message_frame]
  · rfl
  · exact Serializer.encodes_acknowledge.datagram_fits _

/-- What a player's state says about the replies generated for it. -/
structure Logged (log : List SendCall) (state : PlayerState) : Prop where
  stamped : ∀ i call, log[i]? = some call → Stamped call (UInt32.ofNat i)
  next : state.nextMessage = UInt32.ofNat log.length
  stored : log.length ≤ 2 ^ 32 → ∀ key buffer, state.messages.find? key = some buffer ↔
    ∃ call, log[key.toNat]? = some call ∧ call.result = true ∧ call.buffer = buffer

theorem logged_fresh (env : Env) (id : UInt32) (endpoint : Endpoint) :
    Logged [] (freshState env id endpoint) := by
  refine ⟨fun i call member => ?_, rfl, fun _ key buffer => ⟨fun found => ?_, ?_⟩⟩
  · cases member
  · cases found
  · intro kept
    rcases kept with ⟨call, member, -⟩
    cases member

/-- Only the number and the messages of a player are in its log. -/
theorem Logged.of_eq {log : List SendCall} {state state' : PlayerState} (logged : Logged log state)
    (next : state'.nextMessage = state.nextMessage) (messages : state'.messages = state.messages) :
    Logged log state' :=
  ⟨logged.stamped, next.trans logged.next, fun few => messages ▸ logged.stored few⟩

theorem nextMessage_answered (call : SendCall) (state : PlayerState) :
    (answered call state).nextMessage = state.nextMessage + 1 := by
  unfold answered
  cases call.result <;> rfl

theorem messages_answered (call : SendCall) (state : PlayerState) :
    (answered call state).messages =
      if call.result then (state.messages.tryEmplace state.nextMessage call.buffer).1
      else state.messages := by
  unfold answered
  cases call.result <;> rfl

theorem getElem?_snoc_eq_some {log : List SendCall} {call call' : SendCall} {i : Nat} :
    (log ++ [call])[i]? = some call' ↔
      log[i]? = some call' ∨ (i = log.length ∧ call = call') := by
  rw [List.getElem?_append]
  split
  · rename_i inside
    simp only [Nat.ne_of_lt inside, false_and, or_false]
  · rename_i outside
    rw [List.getElem?_eq_none (Nat.not_lt.mp outside), List.getElem?_singleton]
    have place : i - log.length = 0 ↔ i = log.length := by omega
    simp [place]

/-- The next reply extends the log. -/
theorem Logged.answered {log : List SendCall} {state : PlayerState} (logged : Logged log state)
    {call : SendCall} (stamped : Stamped call state.nextMessage) :
    Logged (log ++ [call]) (Server.answered call state) := by
  refine ⟨?_, ?_, ?_⟩
  · intro i call' member
    rcases getElem?_snoc_eq_some.mp member with old | ⟨rfl, rfl⟩
    · exact logged.stamped i call' old
    · exact logged.next ▸ stamped
  · rw [nextMessage_answered, logged.next, List.length_append, List.length_singleton,
      UInt32.ofNat_add]
    rfl
  · intro few key buffer
    rw [List.length_append, List.length_singleton] at few
    have stored := logged.stored (Nat.le_of_succ_le few)
    have number : state.nextMessage.toNat = log.length := by
      rw [logged.next, UInt32.toNat_ofNat_of_lt' few]
    have free : state.messages.find? state.nextMessage = none := by
      rw [Option.eq_none_iff_forall_ne_some]
      intro buffer found
      rcases (stored _ buffer).mp found with ⟨call, member, -⟩
      rw [number, List.getElem?_eq_none (Nat.le_refl _)] at member
      cases member
    rw [messages_answered]
    by_cases here : key = state.nextMessage
    · subst here
      simp only [getElem?_snoc_eq_some, number, List.getElem?_eq_none (Nat.le_refl _)]
      cases result : call.result with
      | false => simp [free, result]
      | true => simp [UnorderedMap.find?_tryEmplace_self free, result]
    · have other : key.toNat ≠ log.length := fun same =>
        here (UInt32.toNat_inj.mp (same.trans number.symm))
      have kept : (if call.result = true then
          (state.messages.tryEmplace state.nextMessage call.buffer).1 else state.messages).find? key
          = state.messages.find? key := by
        split
        · exact UnorderedMap.find?_tryEmplace_ne here
        · rfl
      simp only [kept, stored, getElem?_snoc_eq_some, other, false_and, or_false]

/-- A handler logs what it puts out. -/
theorem Logged.react {log : List SendCall} {state : PlayerState} (logged : Logged log state)
    (inet : Inet) (id : UInt32) (input : Env × Event) :
    Logged (log ++ (react inet id input state).2) (react inet id input state).1 := by
  obtain ⟨env, ev⟩ := input
  cases ev with
  | login ev => exact logged.answered (stamped_loginReply inet env ev id state.nextMessage)
  | ping ev =>
      simp only [Server.react]
      split
      · rw [List.append_nil]
        exact logged
      · have seen : Logged log (state.seen env.now) := logged.of_eq rfl rfl
        exact seen.answered (stamped_pingReply inet env ev state)
  | acknowledge ev =>
      rw [Server.react, List.append_nil]
      exact logged

/-! ## One event and one player -/

/-- What an event that returned has to do with an entry it left behind. -/
inductive Handled (inet : Inet) (input : Env × Event) (game : GameState) (id : UInt32)
    (state : PlayerState) (out : List SendCall) : Prop where
  /-- It was for somebody else. -/
  | other (held : (id, state) ∈ game.mPlayers.entries)
      (apart : ¬ Concerns inet input.2 id state)
  /-- It was for this player. -/
  | held {before : PlayerState} (held : (id, before) ∈ game.mPlayers.entries)
      (same : before.endpoint = state.endpoint) (concerns : Concerns inet input.2 id state)
      (reacts : react inet id input before = (state, out))
  /-- It made this player. -/
  | made (free : game.getPlayerById id = none)
      (absent : ∀ {key other}, (key, other) ∈ game.mPlayers.entries →
        other.endpoint ≠ state.endpoint)
      (concerns : Concerns inet input.2 id state)
      (reacts : react inet id input (freshState input.1 id state.endpoint) = (state, out))

section Step

variable {inet : Inet} {game after : GameState} {out : List SendCall} {id : UInt32}
  {state : PlayerState}

/-- The endpoint of a player is all that decides which logins concern it. -/
theorem concerns_congr {state' : PlayerState} (same : state.endpoint = state'.endpoint)
    (ev : Event) : Concerns inet ev id state ↔ Concerns inet ev id state' := by
  cases ev with
  | login ev => simp only [Concerns, same]
  | ping ev => rfl
  | acknowledge ev => rfl

theorem handled_of_known (keyed : game.Keyed) {input : Env × Event}
    (known : Known inet game input) (stepped : step inet input game = .ok (after, out))
    (held : (id, state) ∈ after.mPlayers.entries) : Handled inet input game id state out := by
  have same := (step_eq_cells keyed known).symm.trans stepped
  rw [Except.ok.injEq, Prod.mk.injEq] at same
  obtain ⟨rfl, rfl⟩ := same
  have found := getPlayerById_eq_some.mpr held
  by_cases mine : owner inet game.directory input = some id
  · cases before : game.getPlayerById id with
    | none =>
        rw [GameState.getPlayerById, reacted, Cells.step_of_stray mine before] at found
        cases before.symm.trans found
    | some state' =>
        have entry := getPlayerById_eq_some.mp before
        have step : (cells inet game.directory).step input game.mPlayers = _ :=
          Cells.step_of_owner mine before
        rw [GameState.getPlayerById, reacted, step, UnorderedMap.find?_modify_self before,
          Option.some_inj] at found
        have identity : state'.endpoint = state.endpoint :=
          found ▸ (keepsIdentity_react inet id input state').2.symm
        refine .held entry identity ?_ (Prod.ext found ?_)
        · exact (concerns_congr identity _).mp ((owner_eq_some_iff keyed entry input).mp mine)
        · rw [step]
          rfl
  · rw [GameState.getPlayerById, reacted, Cells.find?_step_of_other mine] at found
    have entry := getPlayerById_eq_some.mp found
    exact .other entry (mt (owner_eq_some_iff keyed entry input).mpr mine)

theorem handled_of_new {env : Env} {ev : LoginEvent}
    (absent : ∀ {id state}, (id, state) ∈ game.mPlayers.entries →
      state.endpoint ≠ loginEndpoint inet ev)
    (stepped : step inet (env, .login ev) game = .ok (after, out))
    (held : (id, state) ∈ after.mPlayers.entries) :
    Handled inet (env, .login ev) game id state out := by
  cases free : game.getPlayerById game.mNextPlayerId with
  | some taken =>
      cases (handleLogin_of_error (createPlayer_of_taken env absent free)).symm.trans stepped
  | none =>
      have ran := handleLogin_eq (createPlayer_of_new env absent free)
        (getPlayerById_enter_self env free) rfl
      cases ran.symm.trans stepped
      rcases UnorderedMap.mem_modify.mp held with ⟨before, entry, rfl⟩
      rw [entries_enter env free, List.mem_append, List.mem_singleton, Prod.mk.injEq] at entry
      rcases entry with old | ⟨rfl, rfl⟩
      · have ne : id ≠ game.mNextPlayerId := by
          intro same
          subst same
          cases free.symm.trans (getPlayerById_eq_some.mpr old)
        rw [if_neg ne]
        exact .other old fun concerns => absent old (Eq.symm concerns)
      · rw [if_pos rfl]
        let fresh := freshState env game.mNextPlayerId (loginEndpoint inet ev)
        let call := loginReply inet env ev game.mNextPlayerId fresh.nextMessage
        have identity : (answered call fresh).endpoint = loginEndpoint inet ev :=
          (keepsIdentity_answered call fresh).2
        refine .made free (fun entry here => absent entry (here.trans identity)) identity.symm ?_
        rw [identity]
        rfl

theorem handled_of_step (keyed : game.Keyed) {input : Env × Event}
    (stepped : step inet input game = .ok (after, out))
    (held : (id, state) ∈ after.mPlayers.entries) : Handled inet input game id state out := by
  by_cases known : Known inet game input
  · exact handled_of_known keyed known stepped held
  · obtain ⟨env, ev⟩ := input
    cases ev with
    | login ev =>
        refine handled_of_new (fun {key other} entry here => known ?_) stepped held
        intro endpoint login
        cases login
        exact ⟨key, other, entry, here⟩
    | ping ev => exact absurd (fun endpoint login => by cases login) known
    | acknowledge ev => exact absurd (fun endpoint login => by cases login) known

end Step

/-! ## Runs -/

section Runs

variable {inet : Inet} {params : Params} {past later : List (Env × Event)}
  {start game after : GameState} {sends out : List SendCall} {id : UInt32} {state : PlayerState}

theorem sentTo_congr {state' : PlayerState} (same : state.endpoint = state'.endpoint) :
    sentTo inet id state past start = sentTo inet id state' past start := by
  induction past generalizing start with
  | nil => rfl
  | cons input past ih =>
      simp only [sentTo, concerns_congr same, ih]

/-- An event sends one datagram at most. -/
theorem length_sends_le {input : Env × Event} (keyed : game.Keyed)
    (stepped : step inet input game = .ok (after, out)) : out.length ≤ 1 := by
  obtain ⟨env, ev⟩ := input
  cases ev with
  | login ev =>
      obtain ⟨game', key, created, before, -, -, -, -, rfl, -⟩ := handleLogin_cases keyed stepped
      exact Nat.le_refl 1
  | ping ev =>
      rcases handlePing_cases inet env ev game with ⟨handled, -⟩ | ⟨before, -, -, handled⟩
      · cases handled.symm.trans stepped
        exact Nat.zero_le 1
      · cases handled.symm.trans stepped
        exact Nat.le_refl 1
  | acknowledge ev =>
      cases stepped
      exact Nat.zero_le 1

theorem sentTo_append (ran : Run.run (step inet) past start = .ok (game, sends)) :
    sentTo inet id state (past ++ later) start =
      sentTo inet id state past start ++ sentTo inet id state later game := by
  induction past generalizing start sends with
  | nil =>
      cases ran
      rfl
  | cons input past ih =>
      rcases Run.run_cons_eq_ok.mp ran with ⟨next, out, rest, stepped, ran', -⟩
      rw [List.cons_append, sentTo, sentTo, stepped]
      simp only [ih ran', List.append_assoc]

theorem sentTo_snoc (ran : Run.run (step inet) past start = .ok (game, sends))
    {input : Env × Event} (stepped : step inet input game = .ok (after, out)) :
    sentTo inet id state (past ++ [input]) start =
      sentTo inet id state past start ++ if Concerns inet input.2 id state then out else [] := by
  rw [sentTo_append ran]
  simp only [sentTo, stepped, List.append_nil]

theorem length_sentTo_le
    (ran : Run.run (step inet) past { mParams := params } = .ok (game, sends)) :
    (sentTo inet id state past { mParams := params }).length ≤ past.length := by
  refine Run.run_induction (motive := fun past _ _ =>
    (sentTo inet id state past { mParams := params }).length ≤ past.length) (Nat.le_refl 0) ?_ ran
  intro past outs game input after out before fewer stepped
  have one := length_sends_le (keyed_run before) stepped
  rw [sentTo_snoc before stepped, List.length_append, List.length_append, List.length_singleton]
  refine Nat.add_le_add fewer ?_
  split
  · exact one
  · exact Nat.zero_le 1

/-- No entry of the directory is ever changed. -/
theorem directory_subset_of_run
    (ran : Run.run (step inet) past { mParams := params } = .ok (game, sends))
    (ran' : Run.run (step inet) (past ++ later) { mParams := params } = .ok (after, out)) :
    game.directory ⊆ after.directory := by
  rw [(numbered_of_run ran).directory, (numbered_of_run ran').directory]
  refine roster_subset ?_
  rw [registered, registered, logins, logins, List.filterMap_append]
  exact FirstCome.prefix_ofList_append ..

theorem free_of_subset (grown : game.directory ⊆ after.directory)
    (free : after.getPlayerById id = none) : game.getPlayerById id = none := by
  rw [Option.eq_none_iff_forall_ne_some]
  intro state held
  rcases exists_entry_of_subset grown (getPlayerById_eq_some.mp held) with ⟨state', held', -⟩
  cases free.symm.trans (getPlayerById_eq_some.mpr held')

/-- Every player's state is its log, and nobody has been written to before being
registered. -/
structure Journaled (inet : Inet) (params : Params) (past : List (Env × Event))
    (game : GameState) : Prop where
  held : ∀ {id state}, (id, state) ∈ game.mPlayers.entries →
    Logged (sentTo inet id state past { mParams := params }) state
  unborn : ∀ {id state}, game.getPlayerById id = none →
    (∀ {key other}, (key, other) ∈ game.mPlayers.entries → other.endpoint ≠ state.endpoint) →
    sentTo inet id state past { mParams := params } = []

/-- An event for a player that is not registered afterwards puts nothing out. -/
theorem out_of_unborn {input : Env × Event} (keyed : game.Keyed)
    (grown : game.directory ⊆ after.directory)
    (stepped : step inet input game = .ok (after, out)) (free : after.getPlayerById id = none)
    (absent : ∀ {key other}, (key, other) ∈ after.mPlayers.entries →
      other.endpoint ≠ state.endpoint)
    (concerns : Concerns inet input.2 id state) : out = [] := by
  obtain ⟨env, ev⟩ := input
  cases ev with
  | login ev =>
      obtain ⟨game', key, created, state', -, -, held, here, -, rfl⟩ :=
        handleLogin_cases keyed stepped
      let call := loginReply inet env ev key state'.nextMessage
      have entry := getPlayerById_eq_some.mp (getPlayerById_update_self (answered call) held)
      have identity := (keepsIdentity_answered call state').2
      exact absurd (identity.trans (here.trans concerns)) (absent entry)
  | ping ev =>
      cases concerns
      rcases handlePing_cases inet env ev game with ⟨ran, -⟩ | ⟨before, -, held, -⟩
      · cases ran.symm.trans stepped
        rfl
      · cases (free_of_subset grown free).symm.trans held
  | acknowledge ev => exact concerns.elim

theorem journaled_of_run
    (ran : Run.run (step inet) past { mParams := params } = .ok (game, sends)) :
    Journaled inet params past game := by
  refine Run.run_induction (motive := fun past _ game => Journaled inet params past game)
    ⟨fun held => absurd held List.not_mem_nil, fun _ _ => rfl⟩ ?_ ran
  intro past outs game input after out before journaled stepped
  have whole := Run.run_snoc_eq_ok.mpr ⟨game, outs, out, before, stepped, rfl⟩
  have grown := directory_subset_of_run before whole
  constructor
  · intro id state held
    rw [sentTo_snoc before stepped]
    rcases handled_of_step (keyed_run before) stepped held with
      ⟨old, apart⟩ | ⟨old, same, concerns, reacts⟩ | ⟨free, absent, concerns, reacts⟩
    · rw [if_neg apart, List.append_nil]
      exact journaled.held old
    · have next := (journaled.held old).react inet id input
      rw [sentTo_congr same, reacts] at next
      rw [if_pos concerns]
      exact next
    · have next := (logged_fresh input.1 id state.endpoint).react inet id input
      rw [reacts] at next
      rw [if_pos concerns, journaled.unborn free absent]
      exact next
  · intro id state free absent
    have unknown := free_of_subset grown free
    have elsewhere : ∀ {key other}, (key, other) ∈ game.mPlayers.entries →
        other.endpoint ≠ state.endpoint := by
      intro key other held here
      rcases exists_entry_of_subset grown held with ⟨other', held', -, same⟩
      exact absent held' (same.trans here)
    rw [sentTo_snoc before stepped, journaled.unborn unknown elsewhere, List.nil_append]
    split
    · rename_i concerns
      exact out_of_unborn (keyed_run before) grown stepped free absent concerns
    · rfl

end Runs

/-- After any run the state of each player is its log.  What was stored at some
point of the run is stored still. -/
theorem message_log {inet : Inet} {params : Params} {events : List (Env × Event)}
    {game : GameState} {sends : List SendCall}
    (ran : Run.run (step inet) events { mParams := params } = .ok (game, sends))
    {id : UInt32} {state : PlayerState} (held : (id, state) ∈ game.mPlayers.entries)
    (few : (sentTo inet id state events { mParams := params }).length ≤ 2 ^ 32) :
    Logged (sentTo inet id state events { mParams := params }) state ∧
    ∀ past rest, events = past ++ rest → ∀ before outs,
      Run.run (step inet) past { mParams := params } = .ok (before, outs) →
      ∀ earlier, (id, earlier) ∈ before.mPlayers.entries → ∀ key buffer,
        earlier.messages.find? key = some buffer → state.messages.find? key = some buffer := by
  have logged := (journaled_of_run ran).held held
  refine ⟨logged, ?_⟩
  intro past rest split before outs ran' earlier held' key buffer found
  subst split
  have same : earlier.endpoint = state.endpoint := by
    have grown := directory_subset_of_run ran' ran
    rcases exists_entry_of_subset grown held' with ⟨state', there, -, same⟩
    rw [UnorderedMap.eq_of_mem held there]
    exact same.symm
  have logged' := (journaled_of_run ran').held held'
  rw [sentTo_congr same] at logged'
  rw [sentTo_append ran'] at few logged
  rw [List.length_append] at few
  rcases (logged'.stored (by omega) key buffer).mp found with ⟨call, member, sent, kept⟩
  refine (logged.stored (by rw [List.length_append]; exact few) key buffer).mpr
    ⟨call, ?_, sent, kept⟩
  rw [List.getElem?_append_left (List.getElem?_eq_some_iff.mp member).1]
  exact member

/-- A host logs in, and the answer to its ping is lost. -/
def lostReply : List (Env × Event) :=
  [({}, loginFrom ⟨10, 0, 0, 2⟩ 8081), ({ sent := false }, pingFrom ⟨10, 0, 0, 2⟩ 1)]

theorem message_log_lost_reply :
    ∃ game sends state, Run.run (step .dottedQuad) lostReply {} = .ok (game, sends) ∧
      (1, state) ∈ game.mPlayers.entries ∧
      Logged (sentTo .dottedQuad 1 state lostReply {}) state := by
  obtain ⟨game, sends, ran, registers⟩ := run_registers .dottedQuad {} lostReply
    (by decide +kernel)
  have logged : (addressToString .dottedQuad ⟨10, 0, 0, 2⟩, 8081) ∈
      registered .dottedQuad lostReply := by decide +kernel
  rcases registers.numbered.held logged with ⟨state, held, -⟩
  have place : (registered .dottedQuad lostReply).idxOf
      (addressToString .dottedQuad ⟨10, 0, 0, 2⟩, 8081) = 0 := by decide +kernel
  rw [place] at held
  have entry := getPlayerById_eq_some.mp held
  have few : (sentTo .dottedQuad 1 state lostReply {}).length ≤ lostReply.length :=
    length_sentTo_le ran
  exact ⟨game, sends, state, ran, entry,
    (message_log ran entry (Nat.le_trans few (by decide))).1⟩

/-! ## Failed sends -/

/-- A failed send to a registered player leaves its numbers and messages as they
were. -/
def Intact (inet : Inet) (input : Env × Event) (game : GameState) : Prop :=
  ∀ id state, (id, state) ∈ game.mPlayers.entries → Concerns inet input.2 id state →
    ∀ after out, step inet input game = .ok (after, out) → ∀ call ∈ out, call.result = false →
      ∃ state', (id, state') ∈ after.mPlayers.entries ∧
        state'.nextMessage = state.nextMessage ∧ state'.messages = state.messages

/-- Every message that was generated for a player is there to be sent again. -/
def Resendable (inet : Inet) (params : Params) (past : List (Env × Event)) (game : GameState) :
    Prop :=
  ∀ id state, (id, state) ∈ game.mPlayers.entries →
    (sentTo inet id state past { mParams := params }).length < 2 ^ 32 →
    ∀ key, key < state.nextMessage → ∃ call,
      (sentTo inet id state past { mParams := params })[key.toNat]? = some call ∧
      state.messages.find? key = some call.buffer

/-- No failed send of the run shows in the numbers of a player. -/
structure Sequenced (inet : Inet) (params : Params) (events : List (Env × Event)) : Prop where
  intact : Throughout inet params events (Intact inet)
  resendable : ∀ past rest, events = past ++ rest → ∀ game sends,
    Run.run (step inet) past { mParams := params } = .ok (game, sends) →
      Resendable inet params past game

/-- The socket takes the reply, if there is one. -/
def Delivers : Env × Event → GameState → Prop
  | (env, .login _), _ => env.sent = true
  | (env, .ping ev), game =>
      ev.ping.playerId ≠ kInvalidPlayer →
        (∃ state, game.getPlayerById ev.ping.playerId = some state) → env.sent = true
  | (_, .acknowledge _), _ => True

section Resend

variable {inet : Inet} {params : Params} {past : List (Env × Event)} {game after : GameState}
  {sends out : List SendCall} {id : UInt32} {state : PlayerState} {input : Env × Event}

/-- A reply costs a number. -/
theorem nextMessage_react {state' : PlayerState} {call : SendCall}
    (reacts : react inet id input state = (state', [call])) :
    state'.nextMessage = state.nextMessage + 1 := by
  obtain ⟨env, ev⟩ := input
  cases ev with
  | login ev =>
      cases reacts
      exact nextMessage_answered _ state
  | ping ev =>
      simp only [react] at reacts
      split at reacts
      · cases reacts
      · cases reacts
        exact nextMessage_answered _ (state.seen env.now)
  | acknowledge ev => cases reacts

/-- Only a reply that was sent is stored. -/
theorem messages_react {state' : PlayerState} {call : SendCall}
    (reacts : react inet id input state = (state', [call])) (failed : call.result = false) :
    state'.messages = state.messages := by
  obtain ⟨env, ev⟩ := input
  cases ev with
  | login ev =>
      cases reacts
      rw [messages_answered, failed]
      rfl
  | ping ev =>
      simp only [react] at reacts
      split at reacts
      · cases reacts
      · cases reacts
        rw [messages_answered, failed]
        rfl
  | acknowledge ev => cases reacts

theorem not_intact (keyed : game.Keyed) (held : (id, state) ∈ game.mPlayers.entries)
    (concerns : Concerns inet input.2 id state) {call : SendCall}
    (stepped : step inet input game = .ok (after, [call])) (failed : call.result = false) :
    ¬ Intact inet input game := by
  intro intact
  rcases intact id state held concerns after [call] stepped call List.mem_cons_self failed with
    ⟨state', held', next, -⟩
  rcases handled_of_step keyed stepped held' with
    ⟨old, apart⟩ | ⟨old, -, -, reacts⟩ | ⟨free, -, -, -⟩
  · rw [UnorderedMap.eq_of_mem old held] at apart
    exact apart concerns
  · rw [UnorderedMap.eq_of_mem old held] at reacts
    have advanced := nextMessage_react reacts
    exact absurd (next.symm.trans advanced) (by simp)
  · cases free.symm.trans (getPlayerById_eq_some.mpr held)

theorem not_intact_of_ping (keyed : game.Keyed) {env : Env} {ev : PingEvent}
    (valid : ev.ping.playerId ≠ kInvalidPlayer)
    (held : game.getPlayerById ev.ping.playerId = some state) (unsent : env.sent = false) :
    ¬ Intact inet (env, .ping ev) game := by
  have stepped : step inet (env, .ping ev) game = .ok (_, [pingReply inet env ev state]) :=
    handlePing_eq valid held
  have concerns : Concerns inet (.ping ev) ev.ping.playerId state := rfl
  have failed : (pingReply inet env ev state).result = false := by
    simp only [pingReply, unsent, Bool.false_and]
  exact not_intact keyed (getPlayerById_eq_some.mp held) concerns stepped failed

/-- When the first reply to a player fails, message 0 is missing. -/
theorem not_resendable
    (ran : Run.run (step inet) past { mParams := params } = .ok (game, sends)) {call : SendCall}
    (stepped : step inet input game = .ok (after, [call]))
    (held : (id, state) ∈ after.mPlayers.entries) (free : game.getPlayerById id = none)
    (absent : ∀ {key other}, (key, other) ∈ game.mPlayers.entries →
      other.endpoint ≠ state.endpoint)
    (concerns : Concerns inet input.2 id state)
    (reacts : react inet id input (freshState input.1 id state.endpoint) = (state, [call]))
    (failed : call.result = false) : ¬ Resendable inet params (past ++ [input]) after := by
  intro resendable
  have log : sentTo inet id state (past ++ [input]) { mParams := params } = [call] := by
    rw [sentTo_snoc ran stepped, (journaled_of_run ran).unborn free absent, if_pos concerns]
    rfl
  have next : state.nextMessage = 0 + 1 := nextMessage_react reacts
  have few : [call].length < 2 ^ 32 := by simp
  rcases resendable id state held (log ▸ few) 0 (next ▸ by decide) with ⟨call', -, found⟩
  rw [messages_react reacts failed] at found
  cases found

/-- Sends that fail show in the state of the player or in what can be resent. -/
theorem delivers_of_intact
    (ran : Run.run (step inet) past { mParams := params } = .ok (game, sends))
    (stepped : step inet input game = .ok (after, out)) (intact : Intact inet input game)
    (resendable : Resendable inet params (past ++ [input]) after) : Delivers input game := by
  have keyed := keyed_run ran
  obtain ⟨env, ev⟩ := input
  cases ev with
  | login ev =>
      obtain ⟨game', id, created, before, -, -, entry, here, rfl, rfl⟩ :=
        handleLogin_cases keyed stepped
      let call := loginReply inet env ev id before.nextMessage
      have held : (id, answered call before) ∈ (game'.update id (answered call)).mPlayers.entries :=
        getPlayerById_eq_some.mp (getPlayerById_update_self _ entry)
      by_contra unsent
      have failed : call.result = false := Bool.eq_false_iff.mpr unsent
      rcases handled_of_step keyed stepped held with
        ⟨-, apart⟩ | ⟨old, same, concerns, -⟩ | ⟨free, absent, concerns, reacts⟩
      · exact apart (here.symm.trans (keepsIdentity_answered call before).2.symm)
      · have concerned := (concerns_congr same (.login ev)).mpr concerns
        exact not_intact keyed old concerned stepped failed intact
      · exact not_resendable ran stepped held free absent concerns reacts failed resendable
  | ping ev =>
      intro valid registered
      rcases registered with ⟨state, held⟩
      by_contra unsent
      exact not_intact_of_ping keyed valid held (Bool.eq_false_iff.mpr unsent) intact
  | acknowledge ev => trivial

/-- The address of a registered player resolves. -/
theorem resolves_of_run
    (ran : Run.run (step inet) past { mParams := params } = .ok (game, sends))
    (held : (id, state) ∈ game.mPlayers.entries) : (inet.pton state.address).isSome := by
  rcases (numbered_of_run ran).mem_iff held with ⟨place, inside, here, -, -⟩
  have logged : state.endpoint ∈ logins inet past :=
    mem_registered.mp (here ▸ List.getElem_mem inside)
  rcases List.mem_filterMap.mp logged with ⟨⟨env, ev⟩, -, login⟩
  cases ev with
  | login ev =>
      have address : inet.ntop ev.login.address = state.address :=
        congrArg Prod.fst (Option.some.inj login)
      rw [← address, inet.pton_ntop]
      rfl
  | ping ev => cases login
  | acknowledge ev => cases login

theorem result_of_delivers
    (ran : Run.run (step inet) past { mParams := params } = .ok (game, sends))
    (stepped : step inet input game = .ok (after, out)) (delivers : Delivers input game) :
    ∀ call ∈ out, call.result = true := by
  obtain ⟨env, ev⟩ := input
  cases ev with
  | login ev =>
      obtain ⟨game', key, created, before, -, -, -, -, rfl, -⟩ :=
        handleLogin_cases (keyed_run ran) stepped
      intro call member
      rw [List.mem_singleton] at member
      rw [member]
      exact delivers
  | ping ev =>
      rcases handlePing_cases inet env ev game with ⟨handled, -⟩ | ⟨before, valid, held, handled⟩
      · cases handled.symm.trans stepped
        exact fun call none => absurd none List.not_mem_nil
      · cases handled.symm.trans stepped
        intro call member
        rw [List.mem_singleton] at member
        have resolves := resolves_of_run ran (getPlayerById_eq_some.mp held)
        rw [member, pingReply, delivers valid ⟨before, held⟩, resolves]
        rfl
  | acknowledge ev =>
      cases stepped
      exact fun call none => absurd none List.not_mem_nil

theorem Throughout.of_append {events later : List (Env × Event)}
    {holds : Env × Event → GameState → Prop}
    (all : Throughout inet params (events ++ later) holds) :
    Throughout inet params events holds := by
  intro past input rest split
  rw [split] at all
  exact all past input (rest ++ later) (List.append_assoc ..)

/-- In a run that loses no reply all that was generated was sent. -/
theorem results_of_delivers
    (ran : Run.run (step inet) past { mParams := params } = .ok (game, sends))
    (delivers : Throughout inet params past Delivers) :
    ∀ call ∈ sentTo inet id state past { mParams := params }, call.result = true := by
  induction past using List.reverseRecOn generalizing game sends with
  | nil => exact fun call none => absurd none List.not_mem_nil
  | append_singleton past input ih =>
      rcases Run.run_snoc_eq_ok.mp ran with ⟨before, outs, out, ran', stepped, -⟩
      have last := result_of_delivers ran' stepped (delivers past input [] rfl before outs ran')
      rw [sentTo_snoc ran' stepped]
      intro call member
      rcases List.mem_append.mp member with old | new
      · exact ih ran' delivers.of_append call old
      · split at new
        · exact last call new
        · cases new

theorem resendable_of_delivers
    (ran : Run.run (step inet) past { mParams := params } = .ok (game, sends))
    (delivers : Throughout inet params past Delivers) : Resendable inet params past game := by
  intro id state held few key below
  have logged := (journaled_of_run ran).held held
  have inside : key.toNat < (sentTo inet id state past { mParams := params }).length := by
    rw [logged.next, UInt32.lt_iff_toNat_lt, UInt32.toNat_ofNat_of_lt' few] at below
    exact below
  have member := List.getElem?_eq_getElem inside
  have sent := results_of_delivers ran delivers _ (List.getElem_mem inside)
  exact ⟨_, member, (logged.stored (Nat.le_of_lt few) key _).mpr ⟨_, member, sent, rfl⟩⟩

end Resend

/-- Numbering and messages stay together in a run if and only if no send of it
fails. -/
theorem resendable_iff {inet : Inet} {params : Params} {events : List (Env × Event)}
    {game : GameState} {sends : List SendCall}
    (ran : Run.run (step inet) events { mParams := params } = .ok (game, sends)) :
    Sequenced inet params events ↔ Throughout inet params events Delivers := by
  constructor
  · intro sequenced past input rest split before outs ran'
    rw [split, List.append_cons] at ran
    rcases Run.run_append_eq_ok.mp ran with ⟨after, outs', -, whole, -, -⟩
    rcases Run.run_snoc_eq_ok.mp whole with ⟨before', left, out, ran'', stepped, -⟩
    cases ran'.symm.trans ran''
    exact delivers_of_intact ran' stepped (sequenced.intact past input rest split before outs ran')
      (sequenced.resendable _ rest (split.trans (List.append_cons ..)) after _ whole)
  · intro delivers
    constructor
    · intro past input rest split before outs ran' id state held concerns after out stepped call
        member failed
      have sent := result_of_delivers ran' stepped
        (delivers past input rest split before outs ran') call member
      cases failed.symm.trans sent
    · intro past rest split before outs ran'
      rw [split] at delivers
      exact resendable_of_delivers ran' delivers.of_append

theorem resendable_login :
    Sequenced .dottedQuad {} [({}, loginFrom ⟨10, 0, 0, 2⟩ 8081)] := by
  obtain ⟨game, sends, ran, -⟩ := run_registers .dottedQuad {}
    [({}, loginFrom ⟨10, 0, 0, 2⟩ 8081)] (by decide +kernel)
  refine (resendable_iff ran).mpr fun past input rest split before outs ran' => ?_
  cases past with
  | nil =>
      cases split
      rfl
  | cons input past => exact absurd split (by simp)

/-- The number of the lost reply is spent. -/
theorem lost_reply_breaks_sequence : ¬ Sequenced .dottedQuad {} lostReply := by
  intro sequenced
  obtain ⟨game, sends, ran, registers⟩ :=
    run_registers .dottedQuad {} [({}, loginFrom ⟨10, 0, 0, 2⟩ 8081)] (by decide +kernel)
  have intact := sequenced.intact _ ({ sent := false }, pingFrom ⟨10, 0, 0, 2⟩ 1) [] rfl _ _ ran
  rcases registers.numbered.held (List.mem_singleton_self _) with ⟨state, held, -⟩
  exact not_intact_of_ping (keyed_run ran) (by decide) held rfl intact

end Server

end UdpGame
