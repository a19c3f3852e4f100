import UdpGame.Process
import UdpGame.MessageLog

/-!
# What the server answers

The answers of the server follow from the list of the endpoints it has answered
so far: the session of an endpoint is its place in the order of first
occurrence, and its next message has the number of its occurrences.  `answer`
says so, and the server refines it (`server_answers`).  The clock, the tick
interval, the parameters, the order of the hash map and what became of earlier
sends do not show in what it says.
-/

namespace UdpGame

namespace Server

open GameState UdpServer FirstCome

/-! ## Answers from the past -/

/-- What the server says, and the endpoint it says it to. -/
inductive Reply where
  | login (target : Endpoint) (login : LoginMessage)
  | acknowledge (target : Endpoint) (ack : AcknowledgeMessage)
  deriving DecidableEq, Repr

def Reply.target : Reply → Endpoint
  | .login target _ => target
  | .acknowledge target _ => target

def Reply.encode : Reply → Checked NetworkBuffer
  | .login _ message => Serializer.login.encode message
  | .acknowledge _ message => Serializer.acknowledge.encode message

/-- The session of an endpoint that is answered now. -/
def sessionOf (served : List Endpoint) (endpoint : Endpoint) : UInt32 :=
  idAt ((ofList (served ++ [endpoint])).idxOf endpoint)

/-- The number of the next message to an endpoint. -/
def turnOf (served : List Endpoint) (endpoint : Endpoint) : UInt32 :=
  UInt32.ofNat (served.count endpoint)

/-- The answer to an event, and the endpoint whose turn it counts as.  A ping is
answered at the address of its player, but at the port it came from. -/
def answer (inet : Inet) (served : List Endpoint) : Event → Option (Endpoint × Reply)
  | .login ev =>
    let endpoint := loginEndpoint inet ev
    some (endpoint, .login endpoint
      { message := { action := .login, messageId := turnOf served endpoint }
        session := sessionOf served endpoint
        address := ev.login.address
        port := ev.login.port })
  | .ping ev =>
    if ev.ping.playerId = kInvalidPlayer then none
    else (ofList served)[(ev.ping.playerId - 1).toNat]?.map fun endpoint =>
      (endpoint, .acknowledge (endpoint.1, ev.msg.port)
        { message := { action := .acknowledge, messageId := turnOf served endpoint }
          messageId := ev.ping.messageId })
  | .acknowledge _ => none

/-- The endpoints answered after some more events, and the answers to these. -/
def answers (inet : Inet) : List Event → List Endpoint → List Endpoint × List Reply
  | [], served => (served, [])
  | ev :: events, served =>
    match answer inet served ev with
    | none => answers inet events served
    | some (endpoint, reply) =>
      let (served, replies) := answers inet events (served ++ [endpoint])
      (served, reply :: replies)

/-! ## The tie to the server -/

/-- The call hands the reply to the socket, whether or not that takes it. -/
structure Sent (inet : Inet) (reply : Reply) (call : SendCall) : Prop where
  endpoint : (call.address, call.port) = reply.target
  buffer : reply.encode = .ok call.buffer
  target : call.target = (inet.pton call.address).map fun sin_addr =>
    ⟨sin_addr, call.port.toUInt16⟩

/-- Every player's next message has the number of answers to its endpoint. -/
def Turns (served : List Endpoint) (game : GameState) : Prop :=
  ∀ id state, (id, state) ∈ game.mPlayers.entries →
    state.nextMessage = turnOf served state.endpoint

/-- The registry of a server that has answered these endpoints. -/
structure Serves (served : List Endpoint) (game : GameState) : Prop where
  numbered : Numbered (ofList served) game
  turns : Turns served game

theorem serves_initial (params : Params) : Serves [] { mParams := params } :=
  ⟨numbered_initial params, fun _ _ held => absurd held List.not_mem_nil⟩

theorem sent_loginReply (inet : Inet) (env : Env) (ev : LoginEvent) (session messageId : UInt32) :
    Sent inet (.login (loginEndpoint inet ev)
      { message := { action := .login, messageId := messageId }
        session := session
        address := ev.login.address
        port := ev.login.port }) (loginReply inet env ev session messageId) := by
  refine ⟨rfl, LoginMessage.encode_eq _, ?_⟩
  simp only [loginReply, addressToString, inet.pton_ntop, Option.map_some,
    UInt16.toUInt16_toUInt32]

theorem sent_pingReply (inet : Inet) (env : Env) (ev : PingEvent) (state : PlayerState) :
    Sent inet (.acknowledge (state.address, ev.msg.port)
      { message := { action := .acknowledge, messageId := state.nextMessage }
        messageId := ev.ping.messageId }) (pingReply inet env ev state) :=
  ⟨rfl, AcknowledgeMessage.encode_eq _, rfl⟩

/-! ## One event -/

section Step

variable {inet : Inet} {env : Env} {served : List Endpoint} {game after : GameState}
  {out : List SendCall}

theorem idAt_pred (id : UInt32) : idAt (id - 1).toNat = id := by
  rw [idAt, UInt32.ofNat_add, UInt32.ofNat_toNat, UInt32.ofNat_one, UInt32.sub_add_cancel]

/-- An id and its place. -/
theorem toNat_idAt_pred {place : Nat} (small : place < 2 ^ 32) :
    (idAt place - 1).toNat = place := by
  rw [idAt, UInt32.ofNat_add, UInt32.ofNat_one, UInt32.add_sub_cancel,
    UInt32.toNat_ofNat_of_lt' small]

/-- One more answer, and one more turn. -/
theorem turnOf_snoc_self (served : List Endpoint) (endpoint : Endpoint) :
    turnOf (served ++ [endpoint]) endpoint = turnOf served endpoint + 1 := by
  rw [turnOf, List.count_append, List.count_singleton_self, UInt32.ofNat_add]
  rfl

theorem turnOf_snoc_ne (served : List Endpoint) {endpoint other : Endpoint}
    (apart : other ≠ endpoint) : turnOf (served ++ [endpoint]) other = turnOf served other := by
  rw [turnOf, List.count_append, List.count_singleton, if_neg (by simpa using Ne.symm apart),
    Nat.add_zero, turnOf]

/-- A message to a player is a turn of its endpoint. -/
theorem Turns.update (turns : Turns served game) (keyed : game.Keyed) {id : UInt32}
    {state : PlayerState} {endpoint : Endpoint} (held : game.getPlayerById id = some state)
    (here : state.endpoint = endpoint) {f : PlayerState → PlayerState} (keeps : KeepsIdentity f)
    (next : ∀ state, (f state).nextMessage = state.nextMessage + 1) :
    Turns (served ++ [endpoint]) (game.update id f) := by
  subst here
  intro id' state' member
  have entry := getPlayerById_eq_some.mp held
  rcases UnorderedMap.mem_modify.mp member with ⟨before, old, rfl⟩
  by_cases here : id' = id
  · subst here
    obtain rfl := UnorderedMap.eq_of_mem old entry
    rw [if_pos rfl, next, (keeps before).2, turns _ _ old, turnOf_snoc_self]
  · have apart : before.endpoint ≠ state.endpoint := fun same =>
      here (keyed.endpoint old entry same)
    rw [if_neg here, turns _ _ old, turnOf_snoc_ne served apart]

/-- Registration is not a turn. -/
theorem Turns.createPlayer (turns : Turns served game) (numbered : Numbered (ofList served) game)
    {endpoint : Endpoint} {id : UInt32} {created : Bool} {game' : GameState}
    (entry : game.createPlayer env endpoint.1 endpoint.2 = .ok (id, created, game')) :
    Turns served game' := by
  rcases createPlayer_cases env numbered.keyed entry with
    ⟨-, -, -, -, rfl⟩ | ⟨absent, free, -, -, rfl⟩
  · exact turns
  intro id state member
  rw [entries_enter env free, List.mem_append, List.mem_singleton, Prod.mk.injEq] at member
  rcases member with old | ⟨-, rfl⟩
  · exact turns _ _ old
  · have stranger : endpoint ∉ served := by
      intro known
      rcases numbered.held (mem_ofList.mpr known) with ⟨state, held, here, -⟩
      exact absent (getPlayerById_eq_some.mp held) here
    rw [endpoint_freshState, turnOf, List.count_eq_zero_of_not_mem stranger]
    rfl

theorem answer_of_login (serves : Serves served game) {ev : LoginEvent}
    (stepped : step inet (env, .login ev) game = .ok (after, out)) :
    ∃ endpoint reply call, answer inet served (.login ev) = some (endpoint, reply) ∧
      out = [call] ∧ Sent inet reply call ∧ Serves (served ++ [endpoint]) after := by
  have room := room_of_step serves.numbered stepped
  obtain ⟨created, game', state, entry, held, player, numbered⟩ :=
    createPlayer_of_numbered env serves.numbered room
  have turns := serves.turns.createPlayer serves.numbered entry
  have ran := handleLogin_eq entry held player
  cases ran.symm.trans stepped
  have here : state.endpoint = loginEndpoint inet ev := by
    have known : loginEndpoint inet ev ∈ enrol (ofList served) (loginEndpoint inet ev) :=
      mem_enrol.mpr (.inr rfl)
    rcases numbered.held known with ⟨state', held', here, -⟩
    cases held.symm.trans held'
    exact here
  have number : state.nextMessage = turnOf served (loginEndpoint inet ev) := by
    rw [← here]
    exact turns _ _ (getPlayerById_eq_some.mp held)
  refine ⟨_, _, _, rfl, rfl, ?_, ?_, ?_⟩
  · rw [sessionOf, ofList_snoc, ← number]
    exact sent_loginReply ..
  · rw [ofList_snoc]
    exact numbered.update (keepsIdentity_answered _) _
  · exact turns.update numbered.keyed held here (keepsIdentity_answered _) (nextMessage_answered _)

theorem answer_of_ping (serves : Serves served game) {ev : PingEvent}
    (stepped : step inet (env, .ping ev) game = .ok (after, out)) :
    (answer inet served (.ping ev) = none ∧ out = [] ∧ after = game) ∨
    ∃ endpoint reply call, answer inet served (.ping ev) = some (endpoint, reply) ∧
      out = [call] ∧ Sent inet reply call ∧ Serves (served ++ [endpoint]) after := by
  have numbered := serves.numbered
  rcases handlePing_cases inet env ev game with ⟨ran, dropped⟩ | ⟨state, valid, held, ran⟩
  · cases ran.symm.trans stepped
    refine .inl ⟨?_, rfl, rfl⟩
    rcases dropped with invalid | unknown
    · exact if_pos invalid
    · have stranger : (ofList served)[(ev.ping.playerId - 1).toNat]? = none := by
        rw [Option.eq_none_iff_forall_ne_some]
        intro endpoint there
        obtain ⟨inside, same⟩ := List.getElem?_eq_some_iff.mp there
        rcases numbered.held (List.getElem_mem inside) with ⟨state, held, -⟩
        rw [numbered.distinct.idxOf_getElem, idAt_pred] at held
        cases unknown.symm.trans held
      simp only [answer, stranger, Option.map_none, ite_self]
  · cases ran.symm.trans stepped
    have entry := getPlayerById_eq_some.mp held
    rcases numbered.mem_iff entry with ⟨place, inside, here, id, -⟩
    have found : (ofList served)[(ev.ping.playerId - 1).toNat]? = some state.endpoint := by
      rw [id, toNat_idAt_pred (Nat.lt_of_lt_of_le inside numbered.room), ← here,
        List.getElem?_eq_getElem inside]
    have member : state.endpoint ∈ ofList served := here ▸ List.getElem_mem inside
    refine .inr ⟨state.endpoint, _, pingReply inet env ev state, ?_, rfl,
      sent_pingReply inet env ev state, ?_, ?_⟩
    · simp only [answer, if_neg valid, found, Option.map_some, ← serves.turns _ _ entry]
      rfl
    · rw [ofList_snoc, enrol_of_mem member]
      exact numbered.update (keepsIdentity_pinged env _) _
    · refine serves.turns.update numbered.keyed held rfl (keepsIdentity_pinged env _) ?_
      intro state'
      exact nextMessage_answered _ (state'.seen env.now)

end Step

/-! ## Runs -/

/-- The server says what its past tells it to. -/
theorem answers_of_run {inet : Inet} {events : List (Env × Event)} {served : List Endpoint}
    {game after : GameState} {sends : List SendCall} (serves : Serves served game)
    (ran : Run.run (step inet) events game = .ok (after, sends)) :
    List.Forall₂ (Sent inet) (answers inet (events.map Prod.snd) served).2 sends ∧
      Serves (answers inet (events.map Prod.snd) served).1 after := by
  induction events generalizing served game sends with
  | nil =>
      cases ran
      exact ⟨.nil, serves⟩
  | cons input events ih =>
      obtain ⟨next, out, rest, stepped, later, rfl⟩ := Run.run_cons_eq_ok.mp ran
      obtain ⟨env, ev⟩ := input
      have silent : answer inet served ev = none → out = [] → next = game →
          List.Forall₂ (Sent inet) (answers inet (ev :: events.map Prod.snd) served).2
            (out ++ rest) ∧ Serves (answers inet (ev :: events.map Prod.snd) served).1 after := by
        rintro none rfl rfl
        simp only [answers, none, List.nil_append]
        exact ih serves later
      have spoken : (∃ endpoint reply call, answer inet served ev = some (endpoint, reply) ∧
          out = [call] ∧ Sent inet reply call ∧ Serves (served ++ [endpoint]) next) →
          List.Forall₂ (Sent inet) (answers inet (ev :: events.map Prod.snd) served).2
            (out ++ rest) ∧ Serves (answers inet (ev :: events.map Prod.snd) served).1 after := by
        rintro ⟨endpoint, reply, call, some, rfl, sent, kept⟩
        simp only [answers, some]
        rcases ih kept later with ⟨replies, last⟩
        exact ⟨.cons sent replies, last⟩
      cases ev with
      | login ev => exact spoken (answer_of_login serves stepped)
      | ping ev =>
          rcases answer_of_ping serves stepped with ⟨none, quiet, same⟩ | reply
          · exact silent none quiet same
          · exact spoken reply
      | acknowledge ev =>
          cases stepped
          exact silent rfl rfl rfl

/-- What the server says is settled by the accepted datagrams it has heard. -/
theorem server_answers (inet : Inet) (params : Params) (interval : Time)
    (rounds : List (Round (Nat → Env))) {next : Next} {loop : Loop (Game GameState)}
    {sends : List SendCall}
    (ran : process inet params interval rounds = .ok (next, loop, sends)) :
    List.Forall₂ (Sent inet)
        (answers inet ((heard interval rounds).filterMap (Datagram.event? inet)) []).2 sends ∧
      Serves (answers inet ((heard interval rounds).filterMap (Datagram.event? inet)) []).1
        loop.app.loop := by
  rw [process_eq, Checked.bind_eq_ok] at ran
  obtain ⟨⟨game, sends'⟩, handled, same⟩ := ran
  cases same
  have refined := answers_of_run (serves_initial params) handled
  rw [map_snd_handledEvents] at refined
  exact refined

theorem server_answers_one_login :
    ∃ loop sends, process .dottedQuad {} (milliseconds 30) oneLogin = .ok (.again, loop, sends) ∧
      ∃ reply, List.Forall₂ (Sent .dottedQuad) [reply] sends := by
  have room : (ofList (named .dottedQuad (heard (milliseconds 30) oneLogin))).length ≤
      2 ^ 32 := by decide +kernel
  obtain ⟨loop, sends, ran⟩ := @exists_process .dottedQuad {} _ _ room
  have one : (answers .dottedQuad ((heard (milliseconds 30) oneLogin).filterMap
      (Datagram.event? .dottedQuad)) []).2.length = 1 := by decide +kernel
  obtain ⟨reply, single⟩ := List.length_eq_one_iff.mp one
  refine ⟨loop, sends, ran, reply, ?_⟩
  rw [← single]
  exact (server_answers .dottedQuad {} (milliseconds 30) oneLogin ran).1

end Server

end UdpGame
