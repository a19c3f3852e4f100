import UdpGame.Network
import UdpGame.Board

/-!
# `Game`

Players, events and the event queue.  The handlers that `Server::GameLoop` and
`Client::GameLoop` override are a `Handlers` record over whatever state the
derived class has; `Game.tick` is the loop that calls them.  A `PlayerState*` is
the key of the entry it points to: entries are never erased, and the nodes of
the map stay where they are.
-/

namespace UdpGame

/-! ## Players -/

def kInvalidPlayerId : UInt32 := UInt32.ofNat (2 ^ 32 - 1)

structure Player where
  mId : UInt32 := kInvalidPlayerId
  deriving DecidableEq, Repr

def Player.getId (player : Player) : UInt32 := player.mId

def Player.isValid (player : Player) : Bool := player.mId ≠ kInvalidPlayerId

structure PlayerState where
  player : Option Player := none
  address : String := ""
  port : UInt32 := 0
  connectStart : Time := 0
  lastMessage : Time := 0
  nextMessage : UInt32 := 0
  ackCount : UInt32 := 0
  messages : UnorderedMap UInt32 NetworkBuffer := ∅

structure GameState where
  mParams : Params := {}
  mPlayers : UnorderedMap UInt32 PlayerState := ∅
  mNextPlayerId : UInt32 := 1

namespace GameState

def getPlayerById (game : GameState) (id : UInt32) : Option PlayerState :=
  game.mPlayers.find? id

/-- A write through a `PlayerState*`. -/
def update (game : GameState) (id : UInt32) (f : PlayerState → PlayerState) : GameState :=
  { game with mPlayers := game.mPlayers.modify id f }

/-- `CreatePlayer(address, port)`: the entry and whether it is new. -/
def createPlayer (env : Env) (address : String) (port : UInt32) (game : GameState) :
    Checked (UInt32 × Bool × GameState) :=
  match (env.order.arrange game.mPlayers.entries).find?
      (fun entry => entry.2.address = address ∧ entry.2.port = port) with
  | some entry => return (entry.1, false, game)
  | none => do
    let id := game.mNextPlayerId
    let (players, inserted) := game.mPlayers.tryEmplace id {}
    let game := { game with mPlayers := players, mNextPlayerId := id + 1 }
    Checked.assert inserted
    let game := game.update id fun state =>
      { state with
        player := some { mId := id }
        address := address
        port := port
        connectStart := env.now
        lastMessage := env.now }
    return (id, true, game)

/-- `CreatePlayer(id)`: the new entry, or null. -/
def createPlayerById (env : Env) (id : UInt32) (game : GameState) : Option UInt32 × GameState :=
  match game.getPlayerById id with
  | none =>
    let game := { game with mPlayers := (game.mPlayers.tryEmplace id {}).1 }
    let game := game.update id fun state =>
      { state with
        player := some { mId := id }
        connectStart := env.now
        lastMessage := env.now }
    (some id, game)
  | some _ => (none, game)

end GameState

/-! ## Events -/

/-- `Game::Event`. -/
structure EventBase where
  msg : NetworkMessage
  action : Action
  deriving DecidableEq, Repr

structure LoginEvent extends EventBase where
  login : LoginMessage
  deriving DecidableEq, Repr

structure PingEvent extends EventBase where
  ping : PingMessage
  deriving DecidableEq, Repr

structure AcknowledgeEvent extends EventBase where
  ack : AcknowledgeMessage
  deriving DecidableEq, Repr

/-- An object of one of the event classes; the constructor is its dynamic
type. -/
inductive Event where
  | login (ev : LoginEvent)
  | ping (ev : PingEvent)
  | acknowledge (ev : AcknowledgeEvent)
  deriving DecidableEq, Repr

namespace Event

def base : Event → EventBase
  | .login ev => ev.toEventBase
  | .ping ev => ev.toEventBase
  | .acknowledge ev => ev.toEventBase

/-- `static_cast<LoginEvent*>`. -/
def asLogin : Event → Checked LoginEvent
  | .login ev => return ev
  | _ => .error .badCast

/-- `static_cast<PingEvent*>`. -/
def asPing : Event → Checked PingEvent
  | .ping ev => return ev
  | _ => .error .badCast

/-- `static_cast<AcknowledgeEvent*>`. -/
def asAcknowledge : Event → Checked AcknowledgeEvent
  | .acknowledge ev => return ev
  | _ => .error .badCast

end Event

/-- The pure virtual functions of `Game`, over the state of a derived class. -/
structure Handlers (σ : Type) where
  handleLogin : Env → LoginEvent → σ → Checked (σ × List SendCall)
  handlePing : Env → PingEvent → σ → Checked (σ × List SendCall)
  handleAcknowledge : Env → AcknowledgeEvent → σ → Checked (σ × List SendCall)

/-- The virtual call for an event of its own type. -/
def Handlers.handle {σ : Type} (handlers : Handlers σ) (env : Env) :
    Event → σ → Checked (σ × List SendCall)
  | .login ev => handlers.handleLogin env ev
  | .ping ev => handlers.handlePing env ev
  | .acknowledge ev => handlers.handleAcknowledge env ev

/-- The `switch` in `Game::Tick`. -/
def Handlers.dispatch {σ : Type} (handlers : Handlers σ) (env : Env) (ev : Event) (loop : σ) :
    Checked (σ × List SendCall) :=
  match ev.base.action with
  | .login => do handlers.handleLogin env (← ev.asLogin) loop
  | .ping => do handlers.handlePing env (← ev.asPing) loop
  | .acknowledge => do handlers.handleAcknowledge env (← ev.asAcknowledge) loop
  | _ => return (loop, [])

/-! ## The queue -/

/-- A game loop: the event queue of `Game` and the rest of the object. -/
structure Game (σ : Type) where
  mEvents : List Event := []
  loop : σ

namespace Game

variable {σ : Type}

/-- `mEvents.emplace_back`. -/
def push (game : Game σ) (ev : Event) : Game σ :=
  { game with mEvents := game.mEvents ++ [ev] }

def onMessage (action : Action) (msg : NetworkMessage) (game : Game σ) : Checked (Game σ) :=
  let data := msg.buffer.bytes
  match action with
  | .login => do
    match ← LoginMessage.deserialize data with
    | none => return game
    | some login => return game.push (.login { msg := msg, action := action, login := login })
  | .ping => do
    match ← PingMessage.deserialize data with
    | none => return game
    | some ping => return game.push (.ping { msg := msg, action := action, ping := ping })
  | .acknowledge => do
    match ← AcknowledgeMessage.deserialize data with
    | none => return game
    | some ack => return game.push (.acknowledge { msg := msg, action := action, ack := ack })
  | _ => return game

/-- The callback that `main` registers with `OnRecv`. -/
def onRecv (msg : NetworkMessage) (game : Game σ) : Checked (Game σ) := do
  match ← Message.deserialize msg.buffer.bytes with
  | none => return game
  | some message => game.onMessage message.action msg

/-- The loop of `Game::Tick`: the `i`-th event is handled in world `env i`. -/
def drain (handlers : Handlers σ) : (Nat → Env) → List Event → σ → Checked (σ × List SendCall)
  | _, [], loop => return (loop, [])
  | env, ev :: events, loop => do
    let (loop, sends) ← handlers.dispatch (env 0) ev loop
    let (loop, rest) ← drain handlers (fun i => env (i + 1)) events loop
    return (loop, sends ++ rest)

/-- `Game::Tick`: its result, the object afterwards and what was sent. -/
def tick (handlers : Handlers σ) (env : Nat → Env) (game : Game σ) :
    Checked (Bool × Game σ × List SendCall) := do
  let (loop, sends) ← drain handlers env game.mEvents game.loop
  return (true, { mEvents := [], loop := loop }, sends)

end Game

end UdpGame
