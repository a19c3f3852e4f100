import UdpGame.MemoryReader
import UdpGame.MemoryWriter

/-!
# Messages and their serializers

The message structures of `Message.h` and the functions of `Message.cpp` that
encode and decode them.  A decoder takes the bytes of its input span; an
encoder takes the block its output span lies in and returns the number of bytes
written, the message with the header it filled in, and the block.
-/

namespace UdpGame

/-! ## Actions -/

/-- `enum class Action : uint32_t`.  A value read from the wire need not be one
of the named ones. -/
inductive Action where
  | none
  | acknowledge
  | login
  | ping
  | other (value : UInt32) (unnamed : 3 < value)
  deriving DecidableEq, Repr

/-- `Action(value)`. -/
def Action.ofUInt32 (value : UInt32) : Action :=
  if value = 0 then .none
  else if value = 1 then .acknowledge
  else if value = 2 then .login
  else if value = 3 then .ping
  else if unnamed : 3 < value then .other value unnamed
  else .none

/-- `uint32_t(action)`. -/
def Action.toUInt32 : Action → UInt32
  | .none => 0
  | .acknowledge => 1
  | .login => 2
  | .ping => 3
  | .other value _ => value

@[simp] theorem Action.ofUInt32_toUInt32 (action : Action) :
    Action.ofUInt32 action.toUInt32 = action := by
  cases action with
  | other value unnamed =>
      have large := UInt32.lt_iff_toNat_lt.mp unnamed
      have low : ∀ n : UInt32, n.toNat ≤ 3 → value ≠ n := by
        rintro n small rfl
        exact absurd large (by simpa using small)
      simp only [toUInt32, ofUInt32, low 0 (by decide), low 1 (by decide), low 2 (by decide),
        low 3 (by decide), if_false]
      exact dif_pos unnamed
  | _ => rfl

/-! ## Message structures -/

structure MessageHeader where
  magic : UInt8 × UInt8 := (0, 0)
  hash : UInt64 := 0
  payloadSize : UInt32 := 0
  deriving DecidableEq, Repr

/-- `MessageHeader::kMagicBytes`. -/
def kMagicBytes : UInt8 × UInt8 := (0xBE, 0xEF)

/-- `sizeof(MessageHeader)`, packed. -/
def kMessageHeaderSize : Nat := 2 + 8 + 4

structure Message where
  header : MessageHeader := {}
  action : Action := .none
  messageId : UInt32 := 0
  deriving DecidableEq, Repr

def kMessageSize : Nat := kMessageHeaderSize + 4 + 4

/-- `LoginMessage::kInvalidSession`. -/
def kInvalidSession : UInt32 := UInt32.ofNat (2 ^ 32 - 1)

structure LoginMessage where
  message : Message := { action := .login }
  session : UInt32 := kInvalidSession
  address : Address := ⟨0, 0, 0, 0⟩
  port : UInt16 := 0
  deriving DecidableEq, Repr

def kLoginMessageSize : Nat := kMessageSize + 4 + 4 + 2

def kLoginMessagePayload : Nat := kLoginMessageSize - kMessageSize

/-- `PingMessage::kInvalidPlayer`. -/
def kInvalidPlayer : UInt32 := UInt32.ofNat (2 ^ 32 - 1)

structure PingMessage where
  message : Message := { action := .ping }
  playerId : UInt32 := kInvalidPlayer
  messageId : UInt64 := 0
  deriving DecidableEq, Repr

def kPingMessageSize : Nat := kMessageSize + 4 + 8

structure AcknowledgeMessage where
  message : Message := { action := .acknowledge }
  messageId : UInt64 := 0
  deriving DecidableEq, Repr

def kAckMessageSize : Nat := kMessageSize + 8

/-- The capacity of a `NetworkBuffer`, the largest payload of a datagram. -/
def kNetworkBufferSize : Nat := 1472

/-! ## Header -/

def kFnv1aSeed : UInt64 := 14695981039346656037

def kFnv1aPrime : UInt64 := 1099511628211

/-- `FNV1A_64` of the bytes behind a pointer. -/
def fnv1a64 (data : List UInt8) : UInt64 :=
  data.foldl (fun seed d => (seed ^^^ d.toUInt64) * kFnv1aPrime) kFnv1aSeed

def deserializeHeader (data : List UInt8) : Checked (Bool × MessageHeader) := do
  Checked.assert (kMessageHeaderSize ≤ data.length)
  let reader : MemoryReader := { mData := data }
  let (magic0, reader) ← reader.read
  let (magic1, reader) ← reader.read
  let (hash, reader) ← reader.read64BE
  let (payloadSize, reader) ← reader.read32BE
  Checked.assert (reader.remaining = 0)
  return (magic0 = kMagicBytes.1 ∧ magic1 = kMagicBytes.2 ∧ 0 < hash ∧ 0 < payloadSize,
    { magic := (magic0, magic1), hash := hash, payloadSize := payloadSize })

def serializeHeader (header : MessageHeader) (buffer data : Span) (mem : Memory) :
    Checked (MessageHeader × Memory) := do
  Checked.assert (kMessageHeaderSize ≤ buffer.size)
  let writer : MemoryWriter := { mData := buffer.data, mSize := kMessageHeaderSize }
  let header := { header with magic := kMagicBytes }
  let (writer, mem) ← writer.put [header.magic.1, header.magic.2] mem
  let bytes ← mem.load data.data data.size
  let header := { header with hash := fnv1a64 bytes }
  let (writer, mem) ← writer.put64BE header.hash mem
  let header := { header with payloadSize := UInt32.ofNat data.size }
  let (_, mem) ← writer.put32BE header.payloadSize mem
  return (header, mem)

/-! ## `Serializer<Message>` -/

def Message.deserialize (input : List UInt8) : Checked (Option Message) :=
  if input.length < kMessageHeaderSize then
    return Option.none
  else do
    let headerData ← subspan input 0 kMessageHeaderSize
    let (accepted, header) ← deserializeHeader headerData
    if ¬ accepted then
      return Option.none
    else if kNetworkBufferSize < header.payloadSize.toNat ∨
        input.length < header.payloadSize.toNat then
      return Option.none
    else do
      let messageData ← subspan input kMessageHeaderSize
      let reader : MemoryReader := { mData := messageData }
      if reader.mSize < 8 then
        return Option.none
      else do
        let (action, reader) ← reader.read32BE
        let (messageId, _) ← reader.read32BE
        return some { header := header, action := .ofUInt32 action, messageId := messageId }

def Message.serialize (message : Message) (output : Span) (mem : Memory) :
    Checked (Nat × Memory) :=
  if output.size < kMessageSize then
    return (0, mem)
  else do
    let messageData ← output.subspan kMessageHeaderSize
    let writer := MemoryWriter.over messageData
    let (writer, mem) ← writer.put32BE message.action.toUInt32 mem
    let (writer, mem) ← writer.put32BE message.messageId mem
    return (kMessageHeaderSize + writer.mOffset, mem)

/-! ## The three message types

Their decoders differ in the action, the payload size and the fields; they are
one function of these. -/

/-- The common body of the decoders of a message with a payload. -/
def deserializePayload {T : Type} (action : Action) (payloadSize : Nat)
    (fields : Message → MemoryReader → Checked T) (input : List UInt8) :
    Checked (Option T) := do
  match ← Message.deserialize input with
  | Option.none => return Option.none
  | some message =>
    if message.action ≠ action then
      return Option.none
    else do
      let data ← subspan input kMessageSize
      let reader : MemoryReader := { mData := data }
      if reader.mSize < payloadSize then
        return Option.none
      else do
        let payload ← fields message reader
        return some payload

def LoginMessage.deserialize (input : List UInt8) : Checked (Option LoginMessage) :=
  deserializePayload .login kLoginMessagePayload (fun message reader => do
    let (session, reader) ← reader.read32BE
    let (a, reader) ← reader.read
    let (b, reader) ← reader.read
    let (c, reader) ← reader.read
    let (d, reader) ← reader.read
    let (port, _) ← reader.read16BE
    return { message := message, session := session, address := ⟨a, b, c, d⟩, port := port })
    input

def PingMessage.deserialize (input : List UInt8) : Checked (Option PingMessage) :=
  deserializePayload .ping (kPingMessageSize - kMessageSize) (fun message reader => do
    let (playerId, reader) ← reader.read32BE
    let (messageId, _) ← reader.read64BE
    return { message := message, playerId := playerId, messageId := messageId })
    input

def AcknowledgeMessage.deserialize (input : List UInt8) : Checked (Option AcknowledgeMessage) :=
  deserializePayload .acknowledge (kAckMessageSize - kMessageSize) (fun message reader => do
    let (messageId, _) ← reader.read64BE
    return { message := message, messageId := messageId })
    input

/-- The common body of `Serialize` for pings and acknowledges: fields first,
then the message, then the header over both. -/
def serializePayload (message : Message) (size : Nat)
    (fields : MemoryWriter → Memory → Checked (MemoryWriter × Memory))
    (output : Span) (mem : Memory) : Checked (Nat × Message × Memory) :=
  if output.size < size then
    return (0, message, mem)
  else do
    let payloadData ← output.subspan kMessageSize
    let (writer, mem) ← fields (MemoryWriter.over payloadData) mem
    let messageData ← output.subspan 0 kMessageSize
    let (messageSize, mem) ← message.serialize messageData mem
    let payloadSize := sizeAdd messageSize writer.mOffset
    Checked.assert (messageSize = kMessageSize)
    let headerData ← output.subspan 0 kMessageHeaderSize
    let payload : Span := ⟨output.data + kMessageHeaderSize, payloadSize⟩
    let (header, mem) ← serializeHeader message.header headerData payload mem
    return (sizeAdd kMessageSize writer.mOffset, { message with header := header }, mem)

def PingMessage.serialize (ping : PingMessage) (output : Span) (mem : Memory) :
    Checked (Nat × PingMessage × Memory) := do
  let (size, message, mem) ← serializePayload ping.message kPingMessageSize
    (fun writer mem => do
      let (writer, mem) ← writer.put32BE ping.playerId mem
      writer.put64BE ping.messageId mem) output mem
  return (size, { ping with message := message }, mem)

def AcknowledgeMessage.serialize (ack : AcknowledgeMessage) (output : Span) (mem : Memory) :
    Checked (Nat × AcknowledgeMessage × Memory) := do
  let (size, message, mem) ← serializePayload ack.message kAckMessageSize
    (fun writer mem => writer.put64BE ack.messageId mem) output mem
  return (size, { ack with message := message }, mem)

/-- The login serializer takes the header span out of the message span and
checks the message size last. -/
def LoginMessage.serialize (login : LoginMessage) (output : Span) (mem : Memory) :
    Checked (Nat × LoginMessage × Memory) :=
  if output.size < kLoginMessageSize then
    return (0, login, mem)
  else do
    let payloadData ← output.subspan kMessageSize
    let writer := MemoryWriter.over payloadData
    let (writer, mem) ← writer.put32BE login.session mem
    let (writer, mem) ← writer.put login.address.bytes mem
    let (writer, mem) ← writer.put16BE login.port mem
    let messageData ← output.subspan 0 kMessageSize
    let (messageSize, mem) ← login.message.serialize messageData mem
    let payloadSize := sizeAdd messageSize writer.mOffset
    let headerData ← messageData.subspan 0 kMessageHeaderSize
    let payload : Span := ⟨output.data + kMessageHeaderSize, payloadSize⟩
    let (header, mem) ← serializeHeader login.message.header headerData payload mem
    Checked.assert (messageSize = kMessageSize)
    return (sizeAdd messageSize writer.mOffset,
      { login with message := { login.message with header := header } }, mem)

/-- `Serializer<T>` for a message type with a payload: its functions and the
constants of `T` they use. -/
structure Serializer (T : Type) where
  action : Action
  size : Nat
  message : T → Message
  withMessage : T → Message → T
  serialize : T → Span → Memory → Checked (Nat × T × Memory)
  deserialize : List UInt8 → Checked (Option T)

def Serializer.login : Serializer LoginMessage where
  action := .login
  size := kLoginMessageSize
  message := LoginMessage.message
  withMessage := fun login message => { login with message := message }
  serialize := LoginMessage.serialize
  deserialize := LoginMessage.deserialize

def Serializer.ping : Serializer PingMessage where
  action := .ping
  size := kPingMessageSize
  message := PingMessage.message
  withMessage := fun ping message => { ping with message := message }
  serialize := PingMessage.serialize
  deserialize := PingMessage.deserialize

def Serializer.acknowledge : Serializer AcknowledgeMessage where
  action := .acknowledge
  size := kAckMessageSize
  message := AcknowledgeMessage.message
  withMessage := fun ack message => { ack with message := message }
  serialize := AcknowledgeMessage.serialize
  deserialize := AcknowledgeMessage.deserialize

end UdpGame
