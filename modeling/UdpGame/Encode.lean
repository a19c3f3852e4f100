import UdpGame.Message

/-!
# What the encoders write

An encoder with enough room writes header, message and fields end to end over
the front of its output span (`serializePayload_eq`).  The header it computes
covers one header's length more than it should: `payloadSize` counts the whole
message, so the hash runs over the 14 bytes behind it as well.
-/

namespace UdpGame

open ByteWindow BigEndian MemoryWriter

namespace Wire

def headerBytes (header : MessageHeader) : List UInt8 :=
  [header.magic.1, header.magic.2] ++ toBytes 8 header.hash.toNat ++
    toBytes 4 header.payloadSize.toNat

def messageBytes (message : Message) : List UInt8 :=
  toBytes 4 message.action.toUInt32.toNat ++ toBytes 4 message.messageId.toNat

def loginBytes (login : LoginMessage) : List UInt8 :=
  toBytes 4 login.session.toNat ++ login.address.bytes ++ toBytes 2 login.port.toNat

def pingBytes (ping : PingMessage) : List UInt8 :=
  toBytes 4 ping.playerId.toNat ++ toBytes 8 ping.messageId.toNat

def ackBytes (ack : AcknowledgeMessage) : List UInt8 := toBytes 8 ack.messageId.toNat

@[simp] theorem length_headerBytes (header : MessageHeader) :
    (headerBytes header).length = kMessageHeaderSize := by
  simp [headerBytes, kMessageHeaderSize]

@[simp] theorem length_messageBytes (message : Message) : (messageBytes message).length = 8 := by
  simp [messageBytes]

@[simp] theorem length_loginBytes (login : LoginMessage) : (loginBytes login).length = 10 := by
  simp [loginBytes]

@[simp] theorem length_pingBytes (ping : PingMessage) : (pingBytes ping).length = 12 := by
  simp [pingBytes]

@[simp] theorem length_ackBytes (ack : AcknowledgeMessage) : (ackBytes ack).length = 8 := by
  simp [ackBytes]

/-- The header an encoder computes for a message with the given fields, where
`stale` is what the buffer held in the 14 bytes behind the message. -/
def sealedHeader (message : Message) (fields stale : List UInt8) : MessageHeader :=
  { magic := kMagicBytes
    hash := fnv1a64 (messageBytes message ++ fields ++ stale)
    payloadSize := UInt32.ofNat (kMessageSize + fields.length) }

/-- The size it declares, which counts the header's length once too often. -/
theorem toNat_payloadSize_sealedHeader {message : Message} {fields stale : List UInt8}
    (bounded : kMessageSize + fields.length ≤ kNetworkBufferSize) :
    (sealedHeader message fields stale).payloadSize.toNat = kMessageSize + fields.length := by
  simp only [kNetworkBufferSize] at bounded
  exact UInt32.toNat_ofNat_of_lt' (by simp only [UInt32.size]; omega)

/-- The bytes of a whole datagram. -/
def frame (header : MessageHeader) (message : Message) (fields : List UInt8) : List UInt8 :=
  headerBytes header ++ (messageBytes message ++ fields)

theorem length_frame (header : MessageHeader) (message : Message) (fields : List UInt8) :
    (frame header message fields).length = kMessageSize + fields.length := by
  simp only [frame, List.length_append, length_headerBytes, length_messageBytes, kMessageSize]
  omega

end Wire

/-! ## Header -/

/-- What a data span shows once the magic bytes stand in the buffer, which is
when `SerializeHeader` hashes it. -/
def hashedData (buffer data : Span) (mem : Memory) : List UInt8 :=
  window (overwrite mem buffer.data [kMagicBytes.1, kMagicBytes.2]) data.data data.size

/-- Data behind the magic bytes are hashed as they are. -/
theorem hashedData_of_le {buffer data : Span} {mem : Memory}
    (block : buffer.data + 2 ≤ mem.length) (behind : buffer.data + 2 ≤ data.data) :
    hashedData buffer data mem = window mem data.data data.size :=
  window_overwrite_behind block behind

theorem serializeHeader_eq_hashedData (header : MessageHeader) {buffer data : Span} {mem : Memory}
    (room : kMessageHeaderSize ≤ buffer.size)
    (block : buffer.data + kMessageHeaderSize ≤ mem.length) (inside : data.Inside mem) :
    serializeHeader header buffer data mem =
      .ok ({ magic := kMagicBytes, hash := fnv1a64 (hashedData buffer data mem),
             payloadSize := UInt32.ofNat data.size },
        overwrite mem buffer.data (Wire.headerBytes
          { magic := kMagicBytes, hash := fnv1a64 (hashedData buffer data mem),
            payloadSize := UInt32.ofNat data.size })) := by
  simp only [kMessageHeaderSize] at block
  have room₀ : Fits ⟨buffer.data, kMessageHeaderSize, 0⟩ (2 + (8 + 4)) mem :=
    ⟨Nat.le_refl _, block, by simp only; omega⟩
  obtain ⟨first, room₁⟩ := (writes_put [kMagicBytes.1, kMagicBytes.2] (by decide)).step
    buffer.data (8 + 4) rfl rfl room₀
  have small : buffer.data + [kMagicBytes.1, kMagicBytes.2].length ≤ mem.length :=
    Nat.le_trans (Nat.add_le_add_left (by decide) _) block
  have bytes : Memory.load (overwrite mem buffer.data [kMagicBytes.1, kMagicBytes.2])
      data.data data.size = .ok (hashedData buffer data mem) :=
    Memory.load_of_le (by rw [length_overwrite small]; exact inside)
  obtain ⟨second, room₂⟩ := (writes_put64BE (fnv1a64 (hashedData buffer data mem))).step
    (buffer.data + 2) 4 rfl (length_toBytes ..) room₁
  obtain ⟨third, -⟩ := (writes_put32BE (UInt32.ofNat data.size)).step
    (buffer.data + 2 + 8) 0 rfl (length_toBytes ..) room₂
  simp only [serializeHeader, Checked.assert_of room, Checked.ok_bind, Checked.pure_eq_ok,
    first, bytes, second, third, Wire.headerBytes]
  rw [← overwrite_append (by simp; omega), ← overwrite_append (by simp; omega)]
  simp only [List.length_append, length_toBytes, List.length_cons, List.length_nil, Nat.add_assoc]

theorem serializeHeader_eq {header : MessageHeader} {buffer data : Span} {mem : Memory}
    (room : kMessageHeaderSize ≤ buffer.size)
    (apart : buffer.data + kMessageHeaderSize ≤ data.data) (inside : data.Inside mem) :
    serializeHeader header buffer data mem =
      .ok ({ magic := kMagicBytes, hash := fnv1a64 (window mem data.data data.size),
             payloadSize := UInt32.ofNat data.size },
        overwrite mem buffer.data (Wire.headerBytes
          { magic := kMagicBytes, hash := fnv1a64 (window mem data.data data.size),
            payloadSize := UInt32.ofNat data.size })) := by
  have block : buffer.data + kMessageHeaderSize ≤ mem.length := by
    unfold Span.Inside at inside
    omega
  simp only [kMessageHeaderSize] at block apart
  rw [serializeHeader_eq_hashedData header room block inside,
    hashedData_of_le (by omega) (by omega)]

/-- A data span that runs out of the block is read past its end. -/
theorem serializeHeader_outOfBounds {header : MessageHeader} {buffer data : Span} {mem : Memory}
    (room : kMessageHeaderSize ≤ buffer.size)
    (block : buffer.data + kMessageHeaderSize ≤ mem.length) (outside : ¬ data.Inside mem) :
    serializeHeader header buffer data mem = .error .outOfBounds := by
  have fits : Fits ⟨buffer.data, kMessageHeaderSize, 0⟩ (2 + 12) mem :=
    ⟨Nat.le_refl _, block, by simp only; omega⟩
  obtain ⟨first, -⟩ := (writes_put [kMagicBytes.1, kMagicBytes.2] (by decide)).step
    buffer.data 12 rfl rfl fits
  have small : buffer.data + [kMagicBytes.1, kMagicBytes.2].length ≤ mem.length :=
    Nat.le_trans (Nat.add_le_add_left (by decide) _) block
  have bytes : Memory.load (overwrite mem buffer.data [kMagicBytes.1, kMagicBytes.2])
      data.data data.size = .error .outOfBounds := by
    rw [Memory.load_of_lt (by rw [length_overwrite small]; exact Nat.not_le.mp outside)]
  simp only [serializeHeader, Checked.assert_of room, Checked.ok_bind, first, bytes,
    Checked.error_bind]

/-! ## `Serializer<Message>` -/

theorem Message.serialize_eq {message : Message} {output : Span} {mem : Memory}
    (room : kMessageSize ≤ output.size) (block : output.data + kMessageSize ≤ mem.length) :
    message.serialize output mem =
      .ok (kMessageSize,
        overwrite mem (output.data + kMessageHeaderSize) (Wire.messageBytes message)) := by
  have header : kMessageHeaderSize ≤ output.size := Nat.le_trans (by decide) room
  have fits : Fits (.over ⟨output.data + kMessageHeaderSize, output.size - kMessageHeaderSize⟩)
      (4 + 4) mem := by
    simp only [kMessageSize] at room block
    exact ⟨by simp only [MemoryWriter.over]; omega, by simp only [MemoryWriter.over]; omega,
      by simp only [MemoryWriter.over]; omega⟩
  obtain ⟨first, fits⟩ := (writes_put32BE message.action.toUInt32).step
    (output.data + kMessageHeaderSize) 4 rfl (length_toBytes ..) fits
  obtain ⟨second, -⟩ := (writes_put32BE message.messageId).step
    (output.data + kMessageHeaderSize + 4) 0 rfl (length_toBytes ..) fits
  simp only [Message.serialize, if_neg (Nat.not_lt.mpr room), Span.subspan_to_end header,
    Checked.ok_bind, Checked.pure_eq_ok, first, second, Wire.messageBytes]
  rw [← overwrite_append (by simp; simp only [kMessageSize] at block; omega)]
  simp only [length_toBytes]
  rfl

/-! ## Messages with a payload -/

section Payload

variable {message : Message} {bytes : List UInt8} {output : Span} {mem : Memory}

/-- The message is written in front of fields that are already in place. -/
theorem Message.serialize_before (message : Message)
    (block : output.data + (kMessageSize + bytes.length) ≤ mem.length) :
    message.serialize ⟨output.data, kMessageSize⟩
        (overwrite mem (output.data + kMessageSize) bytes) =
      .ok (kMessageSize, overwrite mem (output.data + kMessageHeaderSize)
        (Wire.messageBytes message ++ bytes)) := by
  have start : output.data + kMessageSize =
      output.data + kMessageHeaderSize + (Wire.messageBytes message).length := by
    rw [Wire.length_messageBytes, kMessageSize]
    omega
  have fits : output.data + kMessageSize + bytes.length ≤ mem.length := by omega
  rw [Message.serialize_eq (Nat.le_refl _) (by rw [length_overwrite fits]; simp only; omega)]
  simp only
  rw [start, overwrite_prepend (by rw [← start]; omega)]

/-- The header is written last, over the bytes it is computed from and the 14
bytes behind them. -/
theorem serializeHeader_sealed {header : MessageHeader}
    (block : output.data + (kMessageSize + bytes.length) + kMessageHeaderSize ≤ mem.length) :
    serializeHeader header ⟨output.data, kMessageHeaderSize⟩
        ⟨output.data + kMessageHeaderSize, kMessageSize + bytes.length⟩
        (overwrite mem (output.data + kMessageHeaderSize) (Wire.messageBytes message ++ bytes)) =
      .ok (Wire.sealedHeader message bytes
          (window mem (output.data + (kMessageSize + bytes.length)) kMessageHeaderSize),
        overwrite mem output.data (Wire.frame (Wire.sealedHeader message bytes
          (window mem (output.data + (kMessageSize + bytes.length)) kMessageHeaderSize))
          message bytes)) := by
  have length : (Wire.messageBytes message ++ bytes).length = 8 + bytes.length := by simp
  have fits : output.data + kMessageHeaderSize + (Wire.messageBytes message ++ bytes).length ≤
      mem.length := by
    rw [length]
    simp only [kMessageSize, kMessageHeaderSize] at block ⊢
    omega
  have hashed : window
      (overwrite mem (output.data + kMessageHeaderSize) (Wire.messageBytes message ++ bytes))
      (output.data + kMessageHeaderSize) (kMessageSize + bytes.length) =
        Wire.messageBytes message ++ bytes ++
          window mem (output.data + (kMessageSize + bytes.length)) kMessageHeaderSize := by
    have split : kMessageSize + bytes.length =
        (Wire.messageBytes message ++ bytes).length + kMessageHeaderSize := by
      rw [length]
      simp only [kMessageSize]
      omega
    rw [split, ← window_append_window, window_overwrite fits,
      window_overwrite_behind fits (Nat.le_refl _)]
    congr 2
    omega
  rw [serializeHeader_eq (Nat.le_refl _) (Nat.le_refl _) (by
    rw [Span.Inside, length_overwrite fits]
    simp only
    omega)]
  simp only [hashed]
  generalize sealed : Wire.sealedHeader message bytes
    (window mem (output.data + (kMessageSize + bytes.length)) kMessageHeaderSize) = header'
  have place : output.data + kMessageHeaderSize =
      output.data + (Wire.headerBytes header').length := by rw [Wire.length_headerBytes]
  rw [Wire.sealedHeader] at sealed
  rw [sealed, place, overwrite_prepend (by rw [← place]; exact fits), Wire.frame]

/-- Up to its last step the common body writes message and fields. -/
theorem serializePayload_to_header {size : Nat}
    {fields : MemoryWriter → Memory → Checked (MemoryWriter × Memory)}
    (writes : Writes fields bytes) (total : size = kMessageSize + bytes.length)
    (small : size < 2 ^ 64) (room : size ≤ output.size)
    (block : output.data + size ≤ mem.length) :
    serializePayload message size fields output mem = do
      let (header, mem) ← serializeHeader message.header ⟨output.data, kMessageHeaderSize⟩
        ⟨output.data + kMessageHeaderSize, size⟩
        (overwrite mem (output.data + kMessageHeaderSize) (Wire.messageBytes message ++ bytes))
      return (size, { message with header := header }, mem) := by
  subst total
  have base : kMessageSize ≤ output.size := by omega
  have header : kMessageHeaderSize ≤ output.size := Nat.le_trans (by decide) base
  have fits : Fits (.over ⟨output.data + kMessageSize, output.size - kMessageSize⟩)
      (bytes.length + 0) mem :=
    ⟨by simp only [MemoryWriter.over]; omega, by simp only [MemoryWriter.over]; omega,
      by simp only [MemoryWriter.over]; omega⟩
  rcases writes.step (output.data + kMessageSize) 0 rfl rfl fits with ⟨written, -⟩
  have placed := Message.serialize_before message block
  have offset : sizeAdd kMessageSize
      ((MemoryWriter.over ⟨output.data + kMessageSize, output.size - kMessageSize⟩).past
        bytes.length).mOffset = kMessageSize + bytes.length := by
    simp only [MemoryWriter.past, MemoryWriter.over, Nat.zero_add]
    exact sizeAdd_of_lt small
  simp only [serializePayload, if_neg (Nat.not_lt.mpr room), Span.subspan_to_end base,
    Span.subspan_of_le (by decide) base (Nat.zero_le _),
    Span.subspan_of_le (by decide) header (Nat.zero_le _), Nat.add_zero, Nat.sub_zero,
    Checked.ok_bind, Checked.pure_eq_ok, written, placed, offset,
    Checked.assert_of True.intro]

theorem serializePayload_eq {size : Nat}
    {fields : MemoryWriter → Memory → Checked (MemoryWriter × Memory)}
    (writes : Writes fields bytes) (total : size = kMessageSize + bytes.length)
    (small : size < 2 ^ 64) (room : size ≤ output.size)
    (block : output.data + size + kMessageHeaderSize ≤ mem.length) :
    serializePayload message size fields output mem =
      .ok (size,
        { message with
          header := Wire.sealedHeader message bytes
            (window mem (output.data + size) kMessageHeaderSize) },
        overwrite mem output.data (Wire.frame (Wire.sealedHeader message bytes
          (window mem (output.data + size) kMessageHeaderSize)) message bytes)) := by
  rw [serializePayload_to_header writes total small room (by omega)]
  subst total
  simp only [serializeHeader_sealed block, Checked.ok_bind, Checked.pure_eq_ok]

/-- Without 14 more bytes in the block the hash is read past its end. -/
theorem serializePayload_outOfBounds {size : Nat}
    {fields : MemoryWriter → Memory → Checked (MemoryWriter × Memory)}
    (writes : Writes fields bytes) (total : size = kMessageSize + bytes.length)
    (small : size < 2 ^ 64) (room : size ≤ output.size)
    (block : output.data + size ≤ mem.length)
    (short : mem.length < output.data + size + kMessageHeaderSize) :
    serializePayload message size fields output mem = .error .outOfBounds := by
  rw [serializePayload_to_header writes total small room block]
  have fits : output.data + kMessageHeaderSize + (Wire.messageBytes message ++ bytes).length ≤
      mem.length := by
    simp only [List.length_append, Wire.length_messageBytes]
    simp only [kMessageSize] at total
    omega
  have base : kMessageHeaderSize ≤ size := by
    simp only [kMessageSize] at total
    omega
  rw [serializeHeader_outOfBounds (Nat.le_refl _)
    (by rw [length_overwrite fits]; simp only; omega)
    (by rw [Span.Inside, length_overwrite fits]; simp only; omega), Checked.error_bind]

/-! ## The three message types -/

theorem writes_loginFields (login : LoginMessage) :
    Writes (fun writer mem => do
      let (writer, mem) ← writer.put32BE login.session mem
      let (writer, mem) ← writer.put login.address.bytes mem
      writer.put16BE login.port mem) (Wire.loginBytes login) := by
  rw [Wire.loginBytes, List.append_assoc]
  exact (writes_put32BE login.session).andThen
    ((writes_put _ (by simp)).andThen (writes_put16BE login.port))

theorem writes_pingFields (ping : PingMessage) :
    Writes (fun writer mem => do
      let (writer, mem) ← writer.put32BE ping.playerId mem
      writer.put64BE ping.messageId mem) (Wire.pingBytes ping) :=
  (writes_put32BE ping.playerId).andThen (writes_put64BE ping.messageId)

/-- The login serializer has a body of its own that does what the common one
does. -/
theorem LoginMessage.serialize_eq_serializePayload {login : LoginMessage}
    (room : kLoginMessageSize ≤ output.size)
    (block : output.data + kLoginMessageSize ≤ mem.length) :
    login.serialize output mem = do
      let (size, message, mem) ← serializePayload login.message kLoginMessageSize
        (fun writer mem => do
          let (writer, mem) ← writer.put32BE login.session mem
          let (writer, mem) ← writer.put login.address.bytes mem
          writer.put16BE login.port mem) output mem
      return (size, { login with message := message }, mem) := by
  have total : kLoginMessageSize = kMessageSize + (Wire.loginBytes login).length := by
    rw [Wire.length_loginBytes]
    rfl
  have base : kMessageSize ≤ output.size := Nat.le_trans (by decide) room
  have fits : Fits (.over ⟨output.data + kMessageSize, output.size - kMessageSize⟩)
      (4 + (4 + (2 + 0))) mem := by
    simp only [kLoginMessageSize] at room block
    exact ⟨by simp only [MemoryWriter.over]; omega, by simp only [MemoryWriter.over]; omega,
      by simp only [MemoryWriter.over]; omega⟩
  obtain ⟨session, fits⟩ := (writes_put32BE login.session).step
    (output.data + kMessageSize) (4 + (2 + 0)) rfl (length_toBytes ..) fits
  obtain ⟨address, fits⟩ := (writes_put login.address.bytes (by simp)).step
    (output.data + kMessageSize + 4) (2 + 0) rfl (Address.length_bytes _) fits
  obtain ⟨port, -⟩ := (writes_put16BE login.port).step
    (output.data + kMessageSize + 4 + 4) 0 rfl (length_toBytes ..) fits
  -- the three writes end to end are the login's fields
  have joined : overwrite (overwrite (overwrite mem (output.data + kMessageSize)
      (toBytes 4 login.session.toNat)) (output.data + kMessageSize + 4) login.address.bytes)
      (output.data + kMessageSize + 4 + 4) (toBytes 2 login.port.toNat) =
        overwrite mem (output.data + kMessageSize) (Wire.loginBytes login) := by
    simp only [kLoginMessageSize] at block
    rw [Wire.loginBytes, ← overwrite_append (by simp; omega), ← overwrite_append (by simp; omega)]
    simp only [List.length_append, length_toBytes, Address.length_bytes, Nat.add_assoc]
  have placed := Message.serialize_before login.message (total ▸ block)
  rw [serializePayload_to_header (writes_loginFields login) total (by decide) room block]
  have offset : sizeAdd kMessageSize
      ((((MemoryWriter.over ⟨output.data + kMessageSize, output.size - kMessageSize⟩).past
        4).past 4).past 2).mOffset = kLoginMessageSize := by
    simp only [MemoryWriter.past, MemoryWriter.over]
    decide
  have headerSpan : Span.subspan ⟨output.data, kMessageSize⟩ 0 kMessageHeaderSize =
      .ok ⟨output.data, kMessageHeaderSize⟩ := rfl
  simp only [LoginMessage.serialize, if_neg (Nat.not_lt.mpr room), Span.subspan_to_end base,
    Span.subspan_of_le (by decide) base (Nat.zero_le _),
    Nat.add_zero, Nat.sub_zero, Checked.ok_bind, session, address, port, joined, placed, offset,
    headerSpan, Checked.assert_of True.intro, bind_assoc, Checked.pure_eq_ok]

end Payload

/-! ## `Serializer<T>` as an encoder -/

/-- An encoder of `fields`: it leaves a short span alone, seals a message whose
block has 14 bytes to spare behind it and reads outside any other block. -/
structure Serializer.Encodes {T : Type} (serializer : Serializer T) (fields : T → List UInt8) :
    Prop where
  size : ∀ m, serializer.size = kMessageSize + (fields m).length
  bounded : serializer.size ≤ kNetworkBufferSize
  short : ∀ {m : T} {output : Span} {mem : Memory}, output.size < serializer.size →
    serializer.serialize m output mem = .ok (0, m, mem)
  sealed : ∀ (m : T) (output : Span) (mem : Memory), serializer.size ≤ output.size →
    output.data + serializer.size + kMessageHeaderSize ≤ mem.length →
    serializer.serialize m output mem =
      .ok (serializer.size,
        serializer.withMessage m { serializer.message m with
          header := Wire.sealedHeader (serializer.message m) (fields m)
            (window mem (output.data + serializer.size) kMessageHeaderSize) },
        overwrite mem output.data (Wire.frame
          (Wire.sealedHeader (serializer.message m) (fields m)
            (window mem (output.data + serializer.size) kMessageHeaderSize))
          (serializer.message m) (fields m)))
  outOfBounds : ∀ {m : T} {output : Span} {mem : Memory}, serializer.size ≤ output.size →
    output.data + serializer.size ≤ mem.length →
    mem.length < output.data + serializer.size + kMessageHeaderSize →
    serializer.serialize m output mem = .error .outOfBounds

section Encodes

variable {T : Type} {serializer : Serializer T} {fields : T → List UInt8}

theorem Serializer.Encodes.length_frame (encodes : serializer.Encodes fields) (m : T)
    (header : MessageHeader) :
    (Wire.frame header (serializer.message m) (fields m)).length = serializer.size :=
  (Wire.length_frame ..).trans (encodes.size m).symm

/-- The datagram is what lies in front of the span afterwards. -/
theorem Serializer.Encodes.window_frame (encodes : serializer.Encodes fields) (m : T)
    (header : MessageHeader) {mem : Memory} {address : Nat}
    (block : address + serializer.size ≤ mem.length) :
    window (overwrite mem address (Wire.frame header (serializer.message m) (fields m))) address
        serializer.size = Wire.frame header (serializer.message m) (fields m) := by
  have length := encodes.length_frame m header
  rw [← length] at block ⊢
  exact window_overwrite block

theorem Serializer.Encodes.toNat_payloadSize (encodes : serializer.Encodes fields) (m : T)
    (stale : List UInt8) :
    (Wire.sealedHeader (serializer.message m) (fields m) stale).payloadSize.toNat =
      serializer.size := by
  have bounded := encodes.bounded
  rw [encodes.size m] at bounded ⊢
  exact Wire.toNat_payloadSize_sealedHeader bounded

end Encodes

/-- What is left to show of a type: the program that writes its fields, and
that its serializer is the common body around it. -/
theorem Serializer.Encodes.of_serializePayload {T : Type} {serializer : Serializer T}
    {fields : T → List UInt8}
    {program : T → MemoryWriter → Memory → Checked (MemoryWriter × Memory)}
    (writes : ∀ m, Writes (program m) (fields m))
    (size : ∀ m, serializer.size = kMessageSize + (fields m).length)
    (bounded : serializer.size ≤ kNetworkBufferSize)
    (short : ∀ {m : T} {output : Span} {mem : Memory}, output.size < serializer.size →
      serializer.serialize m output mem = .ok (0, m, mem))
    (body : ∀ {m : T} {output : Span} {mem : Memory}, serializer.size ≤ output.size →
      output.data + serializer.size ≤ mem.length →
      serializer.serialize m output mem = do
        let (size, message, mem) ←
          serializePayload (serializer.message m) serializer.size (program m) output mem
        return (size, serializer.withMessage m message, mem)) :
    serializer.Encodes fields := by
  have small : serializer.size < 2 ^ 64 := by
    have : kNetworkBufferSize = 1472 := rfl
    omega
  refine ⟨size, bounded, short, ?_, ?_⟩
  · intro m output mem room block
    rw [body room (by omega), serializePayload_eq (writes m) (size m) small room block,
      Checked.ok_bind]
    rfl
  · intro m output mem room block cut
    rw [body room block,
      serializePayload_outOfBounds (writes m) (size m) small room block cut, Checked.error_bind]

theorem Serializer.encodes_login : Serializer.login.Encodes Wire.loginBytes :=
  .of_serializePayload writes_loginFields
    (fun login => by rw [Wire.length_loginBytes]; rfl) (by decide) (fun small => if_pos small)
    LoginMessage.serialize_eq_serializePayload

theorem Serializer.encodes_ping : Serializer.ping.Encodes Wire.pingBytes :=
  .of_serializePayload writes_pingFields
    (fun ping => by rw [Wire.length_pingBytes]; rfl) (by decide)
    (fun {ping output mem} small => by
      have cut : output.size < kPingMessageSize := small
      simp only [Serializer.ping, PingMessage.serialize, serializePayload, if_pos cut,
        Checked.pure_eq_ok, Checked.ok_bind])
    (fun _ _ => rfl)

theorem Serializer.encodes_acknowledge : Serializer.acknowledge.Encodes Wire.ackBytes :=
  .of_serializePayload (fun ack => writes_put64BE ack.messageId)
    (fun ack => by rw [Wire.length_ackBytes]; rfl) (by decide)
    (fun {ack output mem} small => by
      have cut : output.size < kAckMessageSize := small
      simp only [Serializer.acknowledge, AcknowledgeMessage.serialize, serializePayload,
        if_pos cut, Checked.pure_eq_ok, Checked.ok_bind])
    (fun _ _ => rfl)

end UdpGame
