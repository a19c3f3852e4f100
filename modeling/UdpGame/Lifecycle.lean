import UdpGame.KeepAlive

/-!
# The life of a client

A client is new until it handles the first login with a valid session, and from
then on it is the player of that session (`client_lifecycle`).  Only the branch
for new clients looks whether a session is valid, so the table stays clean if
and only if no invalid one comes later (`valid_players_iff`).

A run is here one of single handlers and of what a tick does after them, so that
the states inside a tick are states of it too (`exists_moves`).
-/

namespace UdpGame

namespace Client

/-! ## Moves -/

/-- A step of a client: a handler, or the rest of a tick. -/
inductive Move where
  | handle (env : Env) (ev : Event)
  | rest (env : Env)

def move (inet : Inet) : Move → GameLoop → Checked (GameLoop × List SendCall)
  | .handle env ev, loop => (gameLoop inet).handle env ev loop
  | .rest env, loop => do
    let (_, loop, calls) ← afterEvents inet env true loop
    return (loop, calls)

theorem move_rest_eq_ok {inet : Inet} {env : Env} {loop after : GameLoop}
    {calls : List SendCall} :
    move inet (.rest env) loop = .ok (after, calls) ↔
      ∃ result, afterEvents inet env true loop = .ok (result, after, calls) := by
  rw [move, Checked.bind_eq_ok]
  constructor
  · intro moved
    rcases moved with ⟨⟨result, loop', sent⟩, ran, same⟩
    cases same
    exact ⟨result, ran⟩
  · intro done
    rcases done with ⟨result, ran⟩
    exact ⟨_, ran, rfl⟩

/-- Every run of the client is one of moves. -/
theorem exists_moves {inet : Inet} {params : Params} {inputs : List Input}
    {game : Game GameLoop} {sends : List SendCall}
    (ran : Run.run (step inet) inputs { loop := .initial params } = .ok (game, sends)) :
    ∃ moves, Run.run (move inet) moves (.initial params) = .ok (game.loop, sends) := by
  refine Run.run_induction (motive := fun _ sends game =>
    ∃ moves, Run.run (move inet) moves (.initial params) = .ok (game.loop, sends))
    ⟨[], rfl⟩ ?_ ran
  intro past outs game input after out before made stepped
  rcases made with ⟨moves, moved⟩
  cases input with
  | recv datagram =>
      rw [step, Game.step_recv] at stepped
      cases stepped
      exact ⟨moves, by rw [List.append_nil]; exact moved⟩
  | tick env last =>
      obtain ⟨result, found, left, result', loop, calls, ticked, rest, rfl, rfl⟩ :=
        step_tick_eq_ok.mp stepped
      rcases (Game.tick_eq_ok_run _ (sound_run before).tagged).mp ticked with
        ⟨loop', handled, rfl, rfl⟩
      let events := (stamped env game.mEvents).map fun input => Move.handle input.1 input.2
      have drained : Run.run (move inet) events game.loop = .ok (loop', left) := by
        rw [Run.run_map]
        exact handled
      have last' : move inet (.rest last) loop' = .ok (loop, calls) :=
        move_rest_eq_ok.mpr ⟨result', rest⟩
      refine ⟨moves ++ (events ++ [.rest last]), ?_⟩
      exact Run.run_append_eq_ok.mpr ⟨game.loop, outs, left ++ calls, moved,
        Run.run_snoc_eq_ok.mpr ⟨loop', left, calls, drained, last', rfl⟩, rfl⟩

/-! ## What a move does -/

theorem ne_new_of_loggedIn {state : State} (loggedIn : state = .loggedIn) : state ≠ .new := by
  rw [loggedIn]
  exact State.noConfusion

/-- The login of a move that can make a new client a player. -/
def Move.grant? : Move → Option LoginEvent
  | .handle _ (.login ev) => if ev.login.session = kInvalidSession then none else some ev
  | _ => none

/-- The first login with a valid session. -/
def granted (moves : List Move) : Option LoginEvent := moves.findSome? Move.grant?

theorem granted_snoc (past : List Move) (next : Move) :
    granted (past ++ [next]) = (granted past).or next.grant? := by
  rw [granted, List.findSome?_append, granted]
  simp

/-- What a move that returned has done to the client. -/
inductive Moved (inet : Inet) (next : Move) (loop after : GameLoop) (calls : List SendCall) :
    Prop where
  /-- Nothing that concerns its players. -/
  | idle (nothing : next.grant? = none) (game : after.game = loop.game)
      (state : after.mState = loop.mState) (player : after.mThisPlayer = loop.mThisPlayer)
      (quiet : loop.mState ≠ .new → calls = [])
  /-- It made the client a player. -/
  | joined (env : Env) (ev : LoginEvent) (login : next = .handle env (.login ev))
      (new : loop.mState = .new) (valid : ev.login.session ≠ kInvalidSession)
      (game : after.game = Client.joined inet env ev.login loop.game)
      (state : after.mState = .loggedIn) (player : after.mThisPlayer = some ev.login.session)
  /-- It was a login of another player. -/
  | added (env : Env) (ev : LoginEvent) (login : next = .handle env (.login ev))
      (past : loop.mState ≠ .new)
      (game : after.game = (loop.game.createPlayerById env ev.login.session).2)
      (state : after.mState = loop.mState) (player : after.mThisPlayer = loop.mThisPlayer)
      (quiet : calls = [])

theorem moved_of_move {inet : Inet} {next : Move} {loop after : GameLoop} {calls : List SendCall}
    (sound : loop.Sound) (moved : move inet next loop = .ok (after, calls)) :
    Moved inet next loop after calls := by
  cases next with
  | rest env =>
      rcases move_rest_eq_ok.mp moved with ⟨result, ran⟩
      rcases afterEvents_cases ran with ⟨rfl, rfl⟩ | ⟨address, new, -, -, rfl, rfl⟩
      · exact .idle rfl rfl rfl rfl fun _ => rfl
      · refine .idle rfl ?_ (mState_attempted ..) ?_ fun past => absurd new past
        · unfold attempted
          split <;> rfl
        · unfold attempted
          split <;> rfl
  | handle env ev =>
      cases ev with
      | login ev =>
          by_cases new : loop.mState = .new
          · by_cases invalid : ev.login.session = kInvalidSession
            · cases (handleLogin_invalid new invalid).symm.trans moved
              exact .idle (if_pos invalid) rfl rfl rfl fun _ => rfl
            · cases (handleLogin_new new invalid (sound.free new _)).symm.trans moved
              exact .joined env ev rfl new invalid rfl rfl rfl
          · cases (handleLogin_past new).symm.trans moved
            exact .added env ev rfl new rfl rfl rfl rfl
      | ping ev =>
          cases moved
          exact .idle rfl rfl rfl rfl fun _ => rfl
      | acknowledge ev =>
          cases moved
          exact .idle rfl rfl rfl rfl fun _ => rfl

theorem sound_move {inet : Inet} {next : Move} {loop after : GameLoop} {calls : List SendCall}
    (sound : loop.Sound) (moved : move inet next loop = .ok (after, calls)) : after.Sound := by
  cases next with
  | handle env ev =>
      have handled : (gameLoop inet).handle (env, ev).1 (env, ev).2 loop = .ok (after, calls) :=
        moved
      exact sound_handle sound handled
  | rest env =>
      rcases move_rest_eq_ok.mp moved with ⟨result, ran⟩
      rcases afterEvents_cases ran with ⟨rfl, -⟩ | ⟨address, -, -, -, rfl, -⟩
      · exact sound
      · exact sound_attempted sound env _

theorem sound_moves {inet : Inet} {params : Params} {moves : List Move} {loop : GameLoop}
    {sends : List SendCall}
    (ran : Run.run (move inet) moves (.initial params) = .ok (loop, sends)) : loop.Sound :=
  Run.run_invariant sound_move (sound_initial params) ran

/-! ## The life of a client -/

/-- The entry a client keeps for itself, as its login had it. -/
structure Own (inet : Inet) (ev : LoginEvent) (loop : GameLoop) : Prop where
  pointer : loop.mThisPlayer = some ev.login.session
  entry : ∃ state, loop.game.getPlayerById ev.login.session = some state ∧
    state.player = some { mId := ev.login.session } ∧
    state.address = addressToString inet ev.login.address ∧
    state.port = ev.login.port.toUInt32

/-- State, pointer and table after a run. -/
structure Lifecycle (inet : Inet) (moves : List Move) (loop : GameLoop) : Prop where
  pointer : loop.mState = .new ↔ loop.mThisPlayer = none
  table : loop.mThisPlayer = none ↔ loop.game.mPlayers = ∅
  states : loop.mState = .new ∨ loop.mState = .loggedIn
  new : loop.mState = .new → granted moves = none
  loggedIn : loop.mState = .loggedIn → ∃ ev, granted moves = some ev ∧ Own inet ev loop
  /-- A new client never finds the session of its login taken. -/
  fresh : loop.mState = .new → ∀ env session,
    (loop.game.createPlayerById env session).1 = some session

/-- What no further move does. -/
structure Settled (next : Move) (loop after : GameLoop) (calls : List SendCall) : Prop where
  loggedIn : loop.mState = .loggedIn → after.mState = .loggedIn
  own : ∀ id, loop.mThisPlayer = some id → after.mThisPlayer = some id ∧
    after.game.getPlayerById id = loop.game.getPlayerById id
  present : ∀ env ev state, next = .handle env (.login ev) →
    loop.game.getPlayerById ev.login.session = some state →
      after.game.mPlayers = loop.game.mPlayers
  silent : loop.mState = .loggedIn → calls = []

section Life

variable {inet : Inet} {loop after : GameLoop} {next : Move} {calls : List SendCall}

theorem Own.moved {ev : LoginEvent} (own : Own inet ev loop) (past : loop.mState ≠ .new)
    (moved : Moved inet next loop after calls) : Own inet ev after := by
  rcases own.entry with ⟨state, held, identity⟩
  rcases moved with ⟨-, game, -, player, -⟩ | ⟨-, -, -, new, -⟩ |
    ⟨env, other, -, -, game, -, player, -⟩
  · exact ⟨player.trans own.pointer, state, game ▸ held, identity⟩
  · exact absurd new past
  · exact ⟨player.trans own.pointer, state,
      game ▸ getPlayerById_createPlayerById held _ _, identity⟩

theorem GameLoop.Sound.settled (sound : loop.Sound)
    (moved : Moved inet next loop after calls) : Settled next loop after calls := by
  rcases moved with ⟨-, game, state, player, quiet⟩ | ⟨env, ev, rfl, new, -, -, state, -⟩ |
    ⟨env, ev, rfl, past, game, state, player, rfl⟩
  · constructor
    · exact state.trans
    · exact fun id own => ⟨player.trans own, by rw [game]⟩
    · exact fun _ _ _ _ _ => by rw [game]
    · exact fun loggedIn => quiet (ne_new_of_loggedIn loggedIn)
  · constructor
    · exact fun _ => state
    · intro id own
      cases own.symm.trans (sound.new new).1
    · intro env' ev' taken _ held
      cases (sound.free new _).symm.trans held
    · intro loggedIn
      cases loggedIn.symm.trans new
  · rcases sound.past past with ⟨-, id, mine, own, held, -⟩
    constructor
    · exact state.trans
    · intro id' own'
      cases own.symm.trans own'
      rw [game, getPlayerById_createPlayerById held, held]
      exact ⟨player.trans own, rfl⟩
    · intro env' ev' taken same held'
      cases same
      rw [game, createPlayerById_of_taken env held']
    · exact fun _ => rfl

/-- Where the run has got to is all a client remembers of its logins. -/
theorem granted_of_run {params : Params} {moves : List Move} {sends : List SendCall}
    (ran : Run.run (move inet) moves (.initial params) = .ok (loop, sends)) :
    (loop.mState = .new ∧ granted moves = none) ∨
    (loop.mState = .loggedIn ∧ ∃ ev, granted moves = some ev ∧ Own inet ev loop) := by
  refine Run.run_induction (motive := fun moves _ loop =>
    (loop.mState = .new ∧ granted moves = none) ∨
    (loop.mState = .loggedIn ∧ ∃ ev, granted moves = some ev ∧ Own inet ev loop))
    (.inl ⟨rfl, rfl⟩) ?_ ran
  intro past outs loop next after calls before story stepped
  have moved := moved_of_move (sound_moves before) stepped
  rw [granted_snoc]
  rcases story with ⟨new, nothing⟩ | ⟨loggedIn, ev, first, own⟩
  · rw [nothing, Option.none_or]
    rcases moved with ⟨idle, game, state, player, -⟩ |
      ⟨env, ev, rfl, -, valid, game, state, player⟩ | ⟨-, -, -, past, -⟩
    · exact .inl ⟨state.trans new, idle⟩
    · have free := (sound_moves before).free new ev.login.session
      exact .inr ⟨state, ev, if_neg valid, player, _, game ▸ getPlayerById_joined free, rfl, rfl,
        rfl⟩
    · exact absurd new past
  · have past := ne_new_of_loggedIn loggedIn
    rw [first, Option.some_or]
    exact .inr ⟨((sound_moves before).settled moved).loggedIn loggedIn, ev, rfl,
      own.moved past moved⟩

theorem lifecycle_of_run {params : Params} {moves : List Move} {sends : List SendCall}
    (ran : Run.run (move inet) moves (.initial params) = .ok (loop, sends)) :
    Lifecycle inet moves loop := by
  have sound := sound_moves ran
  rcases granted_of_run ran with ⟨new, nothing⟩ | ⟨loggedIn, ev, first, own⟩
  · rcases sound.new new with ⟨none, empty⟩
    refine ⟨iff_of_true new none, iff_of_true none empty, .inl new, fun _ => nothing, ?_, ?_⟩
    · intro loggedIn
      cases loggedIn.symm.trans new
    · intro _ env session
      rw [createPlayerById_of_free env (sound.free new session)]
  · have past := ne_new_of_loggedIn loggedIn
    have some : loop.mThisPlayer ≠ none := by
      rw [own.pointer]
      exact Option.some_ne_none _
    have filled : loop.game.mPlayers ≠ ∅ := by
      intro empty
      rcases own.entry with ⟨state, held, -⟩
      rw [GameState.getPlayerById, empty] at held
      cases held
    exact ⟨iff_of_false past some, iff_of_false some filled, .inr loggedIn,
      fun new => absurd new past, fun _ => ⟨ev, first, own⟩, fun new => absurd new past⟩

end Life

/-- After any run of moves, and over the next one. -/
theorem client_lifecycle {inet : Inet} {params : Params} {moves : List Move} {loop : GameLoop}
    {sends : List SendCall}
    (ran : Run.run (move inet) moves (.initial params) = .ok (loop, sends)) :
    Lifecycle inet moves loop ∧
    ∀ next after calls, move inet next loop = .ok (after, calls) →
      Settled next loop after calls :=
  ⟨lifecycle_of_run ran, fun _ _ _ moved =>
    (sound_moves ran).settled (moved_of_move (sound_moves ran) moved)⟩

/-- The server's reply to the client of `hostParams`, with some session. -/
def replyWith (session : UInt32) : LoginEvent where
  msg := .received .dottedQuad ⟨⟨10, 0, 0, 1⟩, 8088⟩ wrongHash
  action := .login
  login := { message := { action := .login }, session := session, address := ⟨10, 0, 0, 2⟩,
             port := 8081 }

theorem joins_with_one :
    ∃ loop, move .dottedQuad (.handle {} (.login (replyWith 1))) (.initial hostParams) =
      .ok (loop, []) ∧ loop.mState = .loggedIn :=
  ⟨_, @handleLogin_new .dottedQuad {} (.initial hostParams) (replyWith 1) rfl (by decide) rfl, rfl⟩

/-- Two logins: the client's own and that of another player. -/
theorem client_lifecycle_two_logins :
    ∃ loop sends, Run.run (move .dottedQuad)
        [.handle {} (.login (replyWith 1)), .handle {} (.login (replyWith 2))]
        (.initial hostParams) = .ok (loop, sends) ∧
      Lifecycle .dottedQuad
        [.handle {} (.login (replyWith 1)), .handle {} (.login (replyWith 2))] loop ∧
      loop.mState = .loggedIn := by
  rcases joins_with_one with ⟨loop, first, loggedIn⟩
  have second : move .dottedQuad (.handle {} (.login (replyWith 2))) loop = _ :=
    handleLogin_past (ne_new_of_loggedIn loggedIn)
  have ran := Run.run_cons_eq_ok.mpr ⟨_, _, _, first,
    Run.run_cons_eq_ok.mpr ⟨_, _, _, second, Run.run_nil _, rfl⟩, rfl⟩
  exact ⟨_, _, ran, (client_lifecycle ran).1, loggedIn⟩

/-! ## Valid players -/

/-- No entry of the table stands for no player. -/
def GameLoop.Valid (loop : GameLoop) : Prop :=
  ∀ id state, (id, state) ∈ loop.game.mPlayers.entries →
    id ≠ kInvalidPlayerId ∧ ∃ player, state.player = some player ∧ player.isValid

/-- The table of a client is valid throughout a run, and no invalid session gets
into it. -/
structure Clean (inet : Inet) (params : Params) (moves : List Move) : Prop where
  valid : ∀ past rest, moves = past ++ rest → ∀ loop sends,
    Run.run (move inet) past (.initial params) = .ok (loop, sends) → loop.Valid
  rejects : ∀ past env ev rest, moves = past ++ .handle env (.login ev) :: rest →
    ev.login.session = kInvalidSession → ∀ loop sends after calls,
    Run.run (move inet) past (.initial params) = .ok (loop, sends) →
    move inet (.handle env (.login ev)) loop = .ok (after, calls) →
      after.game.mPlayers = loop.game.mPlayers

/-- Invalid sessions come before the first valid one only. -/
def Early (moves : List Move) : Prop :=
  ∀ past env ev rest, moves = past ++ .handle env (.login ev) :: rest →
    ev.login.session = kInvalidSession → granted past = none

section Valid

variable {inet : Inet} {params : Params} {moves : List Move} {loop after : GameLoop}
  {next : Move} {sends calls : List SendCall}

/-- Where an entry of the table comes from. -/
theorem Moved.entry (sound : loop.Sound) (moved : Moved inet next loop after calls) {id : UInt32}
    {state : PlayerState} (held : (id, state) ∈ after.game.mPlayers.entries) :
    (id, state) ∈ loop.game.mPlayers.entries ∨
    ∃ env ev, next = .handle env (.login ev) ∧ id = ev.login.session ∧
      state.player = some { mId := id } ∧ (loop.mState = .new → id ≠ kInvalidSession) := by
  rcases moved with ⟨-, game, -, -, -⟩ | ⟨env, ev, rfl, new, valid, game, -, -⟩ |
    ⟨env, ev, rfl, past, game, -, -, -⟩
  · exact .inl (game ▸ held)
  · have free := sound.free new ev.login.session
    rw [game, Client.joined, (UnorderedMap.tryEmplace_of_fresh free).1, List.mem_append,
      List.mem_singleton, Prod.mk.injEq] at held
    rcases held with old | ⟨rfl, rfl⟩
    · exact .inl old
    · exact .inr ⟨env, ev, rfl, rfl, rfl, fun _ => valid⟩
  · rw [game] at held
    cases taken : loop.game.getPlayerById ev.login.session with
    | some state' =>
        rw [createPlayerById_of_taken env taken] at held
        exact .inl held
    | none =>
        rw [createPlayerById_of_free env taken, (UnorderedMap.tryEmplace_of_fresh taken).1,
          List.mem_append, List.mem_singleton, Prod.mk.injEq] at held
        rcases held with old | ⟨rfl, rfl⟩
        · exact .inl old
        · exact .inr ⟨env, ev, rfl, rfl, rfl, fun new => absurd new past⟩

theorem Early.of_append {later : List Move} (early : Early (moves ++ later)) : Early moves := by
  intro past env ev rest split
  rw [split] at early
  exact early past env ev (rest ++ later) (List.append_assoc ..)

theorem valid_of_early (early : Early moves)
    (ran : Run.run (move inet) moves (.initial params) = .ok (loop, sends)) : loop.Valid := by
  refine Run.run_induction (motive := fun moves _ loop => Early moves → loop.Valid)
    (fun _ id state held => absurd held List.not_mem_nil) ?_ ran early
  intro past outs loop next after calls before valid stepped early id state held
  rcases (moved_of_move (sound_moves before) stepped).entry (sound_moves before) held with
    old | ⟨env, ev, rfl, rfl, player, guarded⟩
  · exact valid early.of_append id state old
  · have session : ev.login.session ≠ kInvalidSession := by
      intro invalid
      have nothing := early past env ev [] rfl invalid
      rcases granted_of_run before with ⟨new, -⟩ | ⟨-, first, some, -⟩
      · exact guarded new invalid
      · cases nothing.symm.trans some
    exact ⟨session, _, player, decide_eq_true session⟩

/-- A client that is past its login takes the invalid session for a player. -/
theorem new_of_clean (clean : Clean inet params moves) {past rest : List Move} {env : Env}
    {ev : LoginEvent} (split : moves = past ++ .handle env (.login ev) :: rest)
    (invalid : ev.login.session = kInvalidSession)
    (ran : Run.run (move inet) past (.initial params) = .ok (loop, sends)) :
    loop.mState = .new := by
  by_contra late
  have handled : move inet (.handle env (.login ev)) loop = _ := handleLogin_past late
  have same := clean.rejects past env ev rest split invalid loop sends _ _ ran handled
  cases taken : loop.game.getPlayerById ev.login.session with
  | some state =>
      have held := GameState.getPlayerById_eq_some.mp taken
      exact (clean.valid past _ split loop sends ran _ state held).1 invalid
  | none =>
      rw [createPlayerById_of_free env taken] at same
      have lengths := congrArg (fun players => players.entries.length) same
      simp only [(UnorderedMap.tryEmplace_of_fresh taken).1, List.length_append,
        List.length_singleton] at lengths
      omega

end Valid

/-- The table of a client stays valid if and only if no login with the invalid
session is handled after one with a valid session. -/
theorem valid_players_iff {inet : Inet} {params : Params} {moves : List Move} {loop : GameLoop}
    {sends : List SendCall}
    (ran : Run.run (move inet) moves (.initial params) = .ok (loop, sends)) :
    Clean inet params moves ↔ Early moves := by
  constructor
  · intro clean past env ev rest split invalid
    rw [split] at ran
    rcases Run.run_append_eq_ok.mp ran with ⟨before, outs, -, ran', -, -⟩
    exact (lifecycle_of_run ran').new (new_of_clean clean split invalid ran')
  · intro early
    constructor
    · intro past rest split before outs ran'
      rw [split] at early
      exact valid_of_early early.of_append ran'
    · intro past env ev rest split invalid before outs after calls ran' stepped
      rcases granted_of_run ran' with ⟨new, -⟩ | ⟨-, first, some, -⟩
      · cases (handleLogin_invalid new invalid).symm.trans stepped
        rfl
      · cases (early past env ev rest split invalid).symm.trans some

/-- An invalid session that comes first is rejected. -/
theorem early_invalid_session :
    Clean .dottedQuad hostParams
      [.handle {} (.login (replyWith kInvalidSession)), .handle {} (.login (replyWith 1))] := by
  rcases joins_with_one with ⟨loop, joins, -⟩
  have rejected : move .dottedQuad (.handle {} (.login (replyWith kInvalidSession)))
      (.initial hostParams) = .ok (.initial hostParams, []) :=
    @handleLogin_invalid .dottedQuad {} (.initial hostParams) (replyWith kInvalidSession) rfl rfl
  have ran := Run.run_cons_eq_ok.mpr ⟨_, _, _, rejected,
    Run.run_cons_eq_ok.mpr ⟨_, _, _, joins, Run.run_nil _, rfl⟩, rfl⟩
  refine (valid_players_iff ran).mpr fun past env ev rest split invalid => ?_
  rcases past with _ | ⟨one, _ | ⟨two, more⟩⟩
  · rfl
  · cases split
    exact absurd invalid (by decide)
  · exact absurd split (by simp)

/-- An invalid session in state `LoggedIn` becomes a player. -/
theorem late_invalid_session :
    ¬ Clean .dottedQuad hostParams
      [.handle {} (.login (replyWith 1)), .handle {} (.login (replyWith kInvalidSession))] := by
  intro clean
  rcases joins_with_one with ⟨loop, first, loggedIn⟩
  have ran : Run.run (move .dottedQuad) [.handle {} (.login (replyWith 1))]
      (.initial hostParams) = .ok (loop, []) :=
    Run.run_cons_eq_ok.mpr ⟨_, _, _, first, rfl, rfl⟩
  have split : [Move.handle {} (.login (replyWith 1)),
      .handle {} (.login (replyWith kInvalidSession))] =
      [.handle {} (.login (replyWith 1))] ++
        .handle {} (.login (replyWith kInvalidSession)) :: [] := rfl
  have new := new_of_clean clean split rfl ran
  cases loggedIn.symm.trans new

end Client

end UdpGame
