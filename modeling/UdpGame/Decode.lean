import UdpGame.Message

/-!
# What the decoders accept

Every decoder is total: it trips no assertion, reads nothing outside its input
and returns a message exactly when the input has the shape `WellFormed`
describes, with the fields read off at fixed offsets.
-/

namespace UdpGame

open ByteWindow

/-! ## Fields at fixed offsets -/

namespace Wire

def header (input : List UInt8) : MessageHeader :=
  { magic := (input.getD 0 0, input.getD 1 0)
    hash := be64 (window input 2 8)
    payloadSize := be32 (window input 10 4) }

def action (input : List UInt8) : Action := .ofUInt32 (be32 (window input 14 4))

def message (input : List UInt8) : Message :=
  { header := header input
    action := action input
    messageId := be32 (window input 18 4) }

def login (input : List UInt8) : LoginMessage :=
  { message := message input
    session := be32 (window input 22 4)
    address := ⟨input.getD 26 0, input.getD 27 0, input.getD 28 0, input.getD 29 0⟩
    port := be16 (window input 30 2) }

def ping (input : List UInt8) : PingMessage :=
  { message := message input
    playerId := be32 (window input 22 4)
    messageId := be64 (window input 26 8) }

def acknowledge (input : List UInt8) : AcknowledgeMessage :=
  { message := message input
    messageId := be64 (window input 22 8) }

end Wire

/-- The checks of `Serializer<Message>::Deserialize`. -/
structure WellFormed (input : List UInt8) : Prop where
  size : kMessageSize ≤ input.length
  magic : (Wire.header input).magic = kMagicBytes
  hash : 0 < (Wire.header input).hash
  payload : 0 < (Wire.header input).payloadSize
  buffer : (Wire.header input).payloadSize.toNat ≤ kNetworkBufferSize
  declared : (Wire.header input).payloadSize.toNat ≤ input.length

theorem wellFormed_iff {input : List UInt8} :
    WellFormed input ↔
      kMessageSize ≤ input.length ∧ (Wire.header input).magic = kMagicBytes ∧
        0 < (Wire.header input).hash ∧ 0 < (Wire.header input).payloadSize ∧
        (Wire.header input).payloadSize.toNat ≤ kNetworkBufferSize ∧
        (Wire.header input).payloadSize.toNat ≤ input.length :=
  ⟨fun h => ⟨h.1, h.2, h.3, h.4, h.5, h.6⟩, fun ⟨a, b, c, d, e, f⟩ => ⟨a, b, c, d, e, f⟩⟩

instance (input : List UInt8) : Decidable (WellFormed input) :=
  decidable_of_iff' _ wellFormed_iff

/-! ## Header -/

/-- The header is read off the first 14 bytes, and then the buffer must be used up. -/
theorem deserializeHeader_eq_assert {data : List UInt8} (room : kMessageHeaderSize ≤ data.length)
    (small : data.length < 2 ^ 64) :
    deserializeHeader data = (do
      Checked.assert (data.length = kMessageHeaderSize)
      return (decide ((Wire.header data).magic.1 = kMagicBytes.1 ∧
          (Wire.header data).magic.2 = kMagicBytes.2 ∧ 0 < (Wire.header data).hash ∧
          0 < (Wire.header data).payloadSize),
        Wire.header data)) := by
  have length : 14 ≤ data.length := room
  have left : MemoryReader.remaining ⟨data, 14⟩ = 0 ↔ data.length = kMessageHeaderSize := by
    simp only [MemoryReader.remaining, MemoryReader.mSize, sizeSub, kMessageHeaderSize]
    omega
  simp only [deserializeHeader, Checked.assert_of room, Checked.ok_bind,
    MemoryReader.read_of_lt data 0 (by omega) (by omega),
    MemoryReader.read_of_lt data 1 (by omega) (by omega),
    MemoryReader.read64BE_of_le data 2 (by omega) (by omega),
    MemoryReader.read32BE_of_le data 10 (by omega) (by omega), Checked.pure_eq_ok]
  simp only [Nat.reduceAdd, left]
  rfl

theorem deserializeHeader_eq {data : List UInt8} (exact : data.length = kMessageHeaderSize) :
    deserializeHeader data =
      .ok (decide ((Wire.header data).magic.1 = kMagicBytes.1 ∧
          (Wire.header data).magic.2 = kMagicBytes.2 ∧ 0 < (Wire.header data).hash ∧
          0 < (Wire.header data).payloadSize),
        Wire.header data) := by
  have small : data.length < 2 ^ 64 := by rw [exact]; decide
  rw [deserializeHeader_eq_assert (Nat.le_of_eq exact.symm) small, Checked.assert_of exact]
  rfl

/-- Bytes behind the header trip its last assertion. -/
theorem deserializeHeader_of_lt {data : List UInt8} (long : kMessageHeaderSize < data.length)
    (small : data.length < 2 ^ 64) : deserializeHeader data = .error .assertion := by
  rw [deserializeHeader_eq_assert (Nat.le_of_lt long) small,
    Checked.assert_of_not (Nat.ne_of_gt long)]
  rfl

theorem header_window (input : List UInt8) :
    Wire.header (window input 0 kMessageHeaderSize) = Wire.header input := by
  have first : (window input 0 kMessageHeaderSize).getD 0 0 = input.getD 0 0 := by
    simp [window, kMessageHeaderSize]
  have second : (window input 0 kMessageHeaderSize).getD 1 0 = input.getD 1 0 := by
    simp [window, kMessageHeaderSize]
  simp only [Wire.header, first, second]
  rw [window_window 2 _ (by decide), window_window 10 _ (by decide)]

/-! ## `Serializer<Message>` -/

theorem Message.deserialize_eq (input : List UInt8) :
    Message.deserialize input =
      .ok (if WellFormed input then some (Wire.message input) else Option.none) := by
  by_cases short : input.length < kMessageHeaderSize
  · have rejected : ¬ WellFormed input := fun shape => by
      have := shape.size
      simp only [kMessageSize, kMessageHeaderSize] at this short
      omega
    rw [Message.deserialize, if_pos short, if_neg rejected]
    rfl
  have room : kMessageHeaderSize ≤ input.length := by omega
  have exact : (window input 0 kMessageHeaderSize).length = kMessageHeaderSize :=
    length_window (by omega)
  rw [Message.deserialize, if_neg short, subspan_of_le (by decide) room (by decide),
    Checked.ok_bind, Nat.sub_zero, deserializeHeader_eq exact, header_window input,
    Checked.ok_bind, subspan_to_end room]
  simp only [decide_eq_true_eq, Checked.pure_eq_ok, Checked.ok_bind]
  by_cases accepted : (Wire.header input).magic.1 = kMagicBytes.1 ∧
      (Wire.header input).magic.2 = kMagicBytes.2 ∧ 0 < (Wire.header input).hash ∧
      0 < (Wire.header input).payloadSize
  swap
  · have rejected : ¬ WellFormed input := fun shape =>
      accepted ⟨by rw [shape.magic], by rw [shape.magic], shape.hash, shape.payload⟩
    rw [if_pos accepted, if_neg rejected]
  rw [if_neg (not_not.mpr accepted)]
  by_cases large : kNetworkBufferSize < (Wire.header input).payloadSize.toNat ∨
      input.length < (Wire.header input).payloadSize.toNat
  · have rejected : ¬ WellFormed input := fun shape => by
      have := shape.buffer
      have := shape.declared
      omega
    rw [if_pos large, if_neg rejected]
  rw [if_neg large]
  have size : MemoryReader.mSize ⟨input.drop kMessageHeaderSize, 0⟩ =
      input.length - kMessageHeaderSize := List.length_drop
  rw [size]
  by_cases cut : input.length - kMessageHeaderSize < 8
  · have rejected : ¬ WellFormed input := fun shape => by
      have := shape.size
      simp only [kMessageSize] at this
      omega
    rw [if_pos cut, if_neg rejected]
  have enough : 0 + 8 ≤ (input.drop kMessageHeaderSize).length := by
    rw [List.length_drop]
    omega
  have shape : WellFormed input :=
    ⟨by simp only [kMessageSize]; omega, Prod.ext accepted.1 accepted.2.1, accepted.2.2.1,
      accepted.2.2.2, by omega, by omega⟩
  rw [if_neg cut, if_pos shape]
  simp only [MemoryReader.read32BE_of_le _ 0 (Nat.le_trans (by omega) enough)
      (by omega), MemoryReader.read32BE_of_le _ 4 enough (by omega),
    Checked.ok_bind, window_drop]
  rfl

/-! ## The three message types -/

/-- A message with a payload is accepted when the base message is, its action
is the right one and the payload is there. -/
theorem deserializePayload_eq {T : Type} {action : Action} {payloadSize : Nat}
    {fields : Message → MemoryReader → Checked T} (value : Message → List UInt8 → T)
    (reads : ∀ (message : Message) (data : List UInt8), payloadSize ≤ data.length →
      fields message ⟨data, 0⟩ = .ok (value message data)) (input : List UInt8) :
    deserializePayload action payloadSize fields input =
      .ok (if WellFormed input ∧ Wire.action input = action ∧
          kMessageSize + payloadSize ≤ input.length
        then some (value (Wire.message input) (input.drop kMessageSize)) else none) := by
  rw [deserializePayload, Message.deserialize_eq, Checked.ok_bind]
  by_cases shape : WellFormed input
  swap
  · rw [if_neg shape, if_neg fun accepted => shape accepted.1]
    rfl
  rw [if_pos shape]
  simp only [Checked.pure_eq_ok]
  by_cases other : (Wire.message input).action ≠ action
  · rw [if_pos other, if_neg fun accepted => other accepted.2.1]
  rw [if_neg other, subspan_to_end shape.size, Checked.ok_bind]
  have size : MemoryReader.mSize ⟨input.drop kMessageSize, 0⟩ =
      input.length - kMessageSize := List.length_drop
  have base := shape.size
  rw [size]
  by_cases cut : input.length - kMessageSize < payloadSize
  · rw [if_pos cut, if_neg fun accepted => by have := accepted.2.2; omega]
  rw [if_neg cut, reads _ _ (by rw [List.length_drop]; omega), Checked.ok_bind,
    if_pos ⟨shape, not_not.mp other, by omega⟩]

theorem LoginMessage.deserialize_eq (input : List UInt8) :
    LoginMessage.deserialize input =
      .ok (if WellFormed input ∧ Wire.action input = .login ∧ kLoginMessageSize ≤ input.length
        then some (Wire.login input) else none) := by
  rw [LoginMessage.deserialize, deserializePayload_eq (fun message data =>
    { message := message, session := be32 (window data 0 4),
      address := ⟨data.getD 4 0, data.getD 5 0, data.getD 6 0, data.getD 7 0⟩,
      port := be16 (window data 8 2) })]
  · simp only [window_drop, getD_drop]
    rfl
  · intro message data enough
    have length : 10 ≤ data.length := enough
    simp only [MemoryReader.read32BE_of_le data 0 (by omega) (by omega),
      MemoryReader.read_of_lt data 4 (by omega) (by omega),
      MemoryReader.read_of_lt data 5 (by omega) (by omega),
      MemoryReader.read_of_lt data 6 (by omega) (by omega),
      MemoryReader.read_of_lt data 7 (by omega) (by omega),
      MemoryReader.read16BE_of_le data 8 (by omega) (by omega),
      Checked.ok_bind, Checked.pure_eq_ok]

theorem PingMessage.deserialize_eq (input : List UInt8) :
    PingMessage.deserialize input =
      .ok (if WellFormed input ∧ Wire.action input = .ping ∧ kPingMessageSize ≤ input.length
        then some (Wire.ping input) else none) := by
  rw [PingMessage.deserialize, deserializePayload_eq (fun message data =>
    { message := message, playerId := be32 (window data 0 4),
      messageId := be64 (window data 4 8) })]
  · simp only [window_drop]
    rfl
  · intro message data enough
    have length : 12 ≤ data.length := enough
    simp only [MemoryReader.read32BE_of_le data 0 (by omega) (by omega),
      MemoryReader.read64BE_of_le data 4 (by omega) (by omega),
      Checked.ok_bind, Checked.pure_eq_ok]

theorem AcknowledgeMessage.deserialize_eq (input : List UInt8) :
    AcknowledgeMessage.deserialize input =
      .ok (if WellFormed input ∧ Wire.action input = .acknowledge ∧
          kAckMessageSize ≤ input.length
        then some (Wire.acknowledge input) else none) := by
  rw [AcknowledgeMessage.deserialize, deserializePayload_eq (fun message data =>
    { message := message, messageId := be64 (window data 0 8) })]
  · simp only [window_drop]
    rfl
  · intro message data enough
    have length : 8 ≤ data.length := enough
    simp only [MemoryReader.read64BE_of_le data 0 (by omega) (by omega),
      Checked.ok_bind, Checked.pure_eq_ok]

/-! ## `Serializer<T>` as a decoder -/

/-- A decoder that returns `value input` when the input has the shape and the
action of its type. -/
structure Serializer.Decodes {T : Type} (serializer : Serializer T) (value : List UInt8 → T) :
    Prop where
  deserialize : ∀ input, serializer.deserialize input =
    .ok (if WellFormed input ∧ Wire.action input = serializer.action ∧
        serializer.size ≤ input.length then some (value input) else none)
  message : ∀ input, serializer.message (value input) = Wire.message input

theorem Serializer.Decodes.eq_some {T : Type} {serializer : Serializer T}
    {value : List UInt8 → T} (decodes : serializer.Decodes value) {input : List UInt8} {m : T}
    (accepted : serializer.deserialize input = .ok (some m)) :
    WellFormed input ∧ Wire.action input = serializer.action ∧
      serializer.size ≤ input.length ∧ m = value input := by
  rw [decodes.deserialize] at accepted
  by_cases shape : WellFormed input ∧ Wire.action input = serializer.action ∧
      serializer.size ≤ input.length
  · rw [if_pos shape] at accepted
    cases accepted
    exact ⟨shape.1, shape.2.1, shape.2.2, rfl⟩
  · rw [if_neg shape] at accepted
    cases accepted

theorem Serializer.Decodes.action_of_some {T : Type} {serializer : Serializer T}
    {value : List UInt8 → T} (decodes : serializer.Decodes value) {input : List UInt8} {m : T}
    (accepted : serializer.deserialize input = .ok (some m)) :
    (serializer.message m).action = serializer.action := by
  rcases decodes.eq_some accepted with ⟨-, action, -, rfl⟩
  rw [decodes.message]
  exact action

theorem Serializer.decodes_login : Serializer.login.Decodes Wire.login :=
  ⟨LoginMessage.deserialize_eq, fun _ => rfl⟩

theorem Serializer.decodes_ping : Serializer.ping.Decodes Wire.ping :=
  ⟨PingMessage.deserialize_eq, fun _ => rfl⟩

theorem Serializer.decodes_acknowledge : Serializer.acknowledge.Decodes Wire.acknowledge :=
  ⟨AcknowledgeMessage.deserialize_eq, fun _ => rfl⟩

end UdpGame
