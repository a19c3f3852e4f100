import UdpGame.Decode
import UdpGame.Encode
import UdpGame.FieldSequence

/-!
# The codec

What the encoders write is read back by the decoders field by field, and by no
decoder of another type.  The header is the weak point on both sides: a decoder
never computes the hash it is given (`deserialize_integrity_iff`), and an
encoder declares the length of the whole datagram as its payload
(`serialize_header_law_fails`).
-/

namespace UdpGame

open ByteWindow BigEndian

/-! ## Reading a frame back -/

namespace Wire

theorem header_frame (h : MessageHeader) (m : Message) (fields : List UInt8) :
    header (frame h m fields) = h := by
  have hash : window (frame h m fields) 2 8 = toBytes 8 h.hash.toNat := rfl
  have size : window (frame h m fields) 10 4 = toBytes 4 h.payloadSize.toNat := rfl
  rw [header, hash, size, be64_toBytes, be32_toBytes]
  rfl

theorem action_frame (h : MessageHeader) (m : Message) (fields : List UInt8) :
    action (frame h m fields) = m.action := by
  have value : window (frame h m fields) 14 4 = toBytes 4 m.action.toUInt32.toNat := rfl
  rw [action, value, be32_toBytes, Action.ofUInt32_toUInt32]

theorem message_frame (h : MessageHeader) (m : Message) (fields : List UInt8) :
    message (frame h m fields) = { m with header := h } := by
  have id : window (frame h m fields) 18 4 = toBytes 4 m.messageId.toNat := rfl
  rw [message, header_frame, action_frame, id, be32_toBytes]

theorem login_frame (h : MessageHeader) (l : LoginMessage) :
    login (frame h l.message (loginBytes l)) =
      { l with message := { l.message with header := h } } := by
  have session : window (frame h l.message (loginBytes l)) 22 4 = toBytes 4 l.session.toNat := rfl
  have port : window (frame h l.message (loginBytes l)) 30 2 = toBytes 2 l.port.toNat := rfl
  rw [login, message_frame, session, port, be32_toBytes, be16_toBytes]
  rfl

theorem ping_frame (h : MessageHeader) (p : PingMessage) :
    ping (frame h p.message (pingBytes p)) =
      { p with message := { p.message with header := h } } := by
  have player : window (frame h p.message (pingBytes p)) 22 4 = toBytes 4 p.playerId.toNat := rfl
  have id : window (frame h p.message (pingBytes p)) 26 8 = toBytes 8 p.messageId.toNat := rfl
  rw [ping, message_frame, player, id, be32_toBytes, be64_toBytes]

theorem acknowledge_frame (h : MessageHeader) (a : AcknowledgeMessage) :
    acknowledge (frame h a.message (ackBytes a)) =
      { a with message := { a.message with header := h } } := by
  have id : window (frame h a.message (ackBytes a)) 22 8 = toBytes 8 a.messageId.toNat := rfl
  rw [acknowledge, message_frame, id, be64_toBytes]

end Wire

/-! ## The header alone -/

theorem Wire.header_headerBytes (h : MessageHeader) : Wire.header (Wire.headerBytes h) = h := by
  have hash : window (headerBytes h) 2 8 = toBytes 8 h.hash.toNat := rfl
  have size : window (headerBytes h) 10 4 = toBytes 4 h.payloadSize.toNat := rfl
  rw [header, hash, size, be64_toBytes, be32_toBytes]
  rfl

/-- `DeserializeHeader` of a buffer gives back what `SerializeHeader` put there,
which is a header that declares the data, and nothing behind it has changed. -/
def HeaderRoundTrip (header : MessageHeader) (buffer data : Span) (mem : Memory) : Prop :=
  ∃ written mem', serializeHeader header buffer data mem = .ok (written, mem') ∧
    deserializeHeader (window mem' buffer.data buffer.size) = .ok (true, written) ∧
    written.payloadSize.toNat = data.size ∧ mem'.length = mem.length ∧
    mem'.drop (buffer.data + kMessageHeaderSize) = mem.drop (buffer.data + kMessageHeaderSize)

theorem headerRoundTrip_of_eq {header : MessageHeader} {buffer data : Span} {mem : Memory}
    (inside : buffer.Inside mem) (shown : data.Inside mem) (nonempty : 0 < data.size)
    (declared : data.size < 2 ^ 32) (hashed : fnv1a64 (hashedData buffer data mem) ≠ 0)
    (exact : buffer.size = kMessageHeaderSize) : HeaderRoundTrip header buffer data mem := by
  have block : buffer.data + kMessageHeaderSize ≤ mem.length := exact ▸ inside
  have size : (UInt32.ofNat data.size).toNat = data.size := UInt32.toNat_ofNat_of_lt' declared
  have positive : 0 < UInt32.ofNat data.size :=
    UInt32.lt_iff_toNat_lt.mpr (by rw [size]; exact nonempty)
  generalize filled : (MessageHeader.mk kMagicBytes (fnv1a64 (hashedData buffer data mem))
    (UInt32.ofNat data.size)) = written
  have run := serializeHeader_eq_hashedData header (Nat.le_of_eq exact.symm) block shown
  rw [filled] at run
  have fits : buffer.data + (Wire.headerBytes written).length ≤ mem.length := by
    rw [Wire.length_headerBytes]
    exact block
  refine ⟨written, _, run, ?_, ?_, length_overwrite fits, drop_overwrite fits (by simp)⟩
  · have bytes := window_overwrite fits
    rw [Wire.length_headerBytes] at bytes
    rw [exact, bytes, deserializeHeader_eq (Wire.length_headerBytes written),
      Wire.header_headerBytes]
    subst filled
    simp [positive, UInt64.pos_iff_ne_zero.mpr hashed]
  · subst filled
    exact size

theorem not_headerRoundTrip_of_lt {header : MessageHeader} {buffer data : Span} {mem : Memory}
    (inside : buffer.Inside mem) (addressable : mem.length < 2 ^ 64)
    (long : kMessageHeaderSize < buffer.size) : ¬ HeaderRoundTrip header buffer data mem := by
  intro trip
  obtain ⟨written, mem', -, read, -, kept, -⟩ := trip
  unfold Span.Inside at inside
  have length : (window mem' buffer.data buffer.size).length = buffer.size :=
    length_window (kept ▸ inside)
  rw [deserializeHeader_of_lt (length.symm ▸ long) (by omega)] at read
  cases read

/-- Header writer and header reader agree on a buffer of exactly the header's size. -/
theorem headerRoundTrip_iff (header : MessageHeader) (buffer data : Span) (mem : Memory)
    (addressable : mem.length < 2 ^ 64) (inside : buffer.Inside mem) (shown : data.Inside mem)
    (room : kMessageHeaderSize ≤ buffer.size) (nonempty : 0 < data.size)
    (declared : data.size < 2 ^ 32) (hashed : fnv1a64 (hashedData buffer data mem) ≠ 0) :
    HeaderRoundTrip header buffer data mem ↔ buffer.size = kMessageHeaderSize := by
  constructor
  · intro trip
    by_contra other
    have long : kMessageHeaderSize < buffer.size := by omega
    exact not_headerRoundTrip_of_lt inside addressable long trip
  · exact headerRoundTrip_of_eq inside shown nonempty declared hashed

/-- Fifteen zero bytes of memory: the buffer is the first 14, the data the last. -/
theorem headerRoundTrip_iff_of_fifteen_bytes :
    Span.Inside ⟨0, 14⟩ (List.replicate 15 0) ∧ Span.Inside ⟨14, 1⟩ (List.replicate 15 0) ∧
      fnv1a64 (hashedData ⟨0, 14⟩ ⟨14, 1⟩ (List.replicate 15 0)) ≠ 0 ∧
      (HeaderRoundTrip {} ⟨0, 14⟩ ⟨14, 1⟩ (List.replicate 15 0) ↔ 14 = kMessageHeaderSize) :=
  have inside : Span.Inside ⟨0, 14⟩ (List.replicate 15 0) := by decide
  have shown : Span.Inside ⟨14, 1⟩ (List.replicate 15 0) := by decide
  have hashed : fnv1a64 (hashedData ⟨0, 14⟩ ⟨14, 1⟩ (List.replicate 15 0)) ≠ 0 := by decide
  ⟨inside, shown, hashed, headerRoundTrip_iff {} ⟨0, 14⟩ ⟨14, 1⟩ _ (by decide) inside shown
    (by decide) (by decide) (by decide) hashed⟩

/-- One byte more in the buffer, and the reader trips its assertion. -/
theorem not_headerRoundTrip_of_longer_buffer :
    kMessageHeaderSize ≤ 15 ∧ fnv1a64 (hashedData ⟨0, 15⟩ ⟨15, 1⟩ (List.replicate 16 0)) ≠ 0 ∧
      ¬ HeaderRoundTrip {} ⟨0, 15⟩ ⟨15, 1⟩ (List.replicate 16 0) :=
  ⟨by decide, by decide, not_headerRoundTrip_of_lt (by decide) (by decide) (by decide)⟩

/-! ## What a decoder checks -/

/-- The header describes the datagram it stands in front of: the payload it
declares is there, and hashes to the hash it carries. -/
def MessageHeader.Describes (header : MessageHeader) (datagram : List UInt8) : Prop :=
  kMessageHeaderSize + header.payloadSize.toNat ≤ datagram.length ∧
    header.hash = fnv1a64 (window datagram kMessageHeaderSize header.payloadSize.toNat)

instance (header : MessageHeader) (datagram : List UInt8) :
    Decidable (header.Describes datagram) :=
  inferInstanceAs (Decidable (_ ∧ _))

/-- What a decoder returns for `input`, if anything, carries a header that
describes `input`. -/
def Integrity {T : Type} (deserialize : List UInt8 → Checked (Option T))
    (header : T → MessageHeader) (input : List UInt8) : Prop :=
  ∀ m, deserialize input = .ok (some m) → (header m).Describes input

theorem Message.integrity_iff (input : List UInt8) :
    Integrity Message.deserialize Message.header input ↔
      (WellFormed input → (Wire.header input).Describes input) := by
  simp only [Integrity, Message.deserialize_eq]
  constructor
  · intro integrity shape
    exact integrity (Wire.message input) (by rw [if_pos shape])
  · intro described m accepted
    by_cases shape : WellFormed input
    · rw [if_pos shape] at accepted
      cases accepted
      exact described shape
    · rw [if_neg shape] at accepted
      cases accepted

theorem Serializer.Decodes.integrity_iff {T : Type} {serializer : Serializer T}
    {value : List UInt8 → T} (decodes : serializer.Decodes value) (input : List UInt8) :
    Integrity serializer.deserialize (fun m => (serializer.message m).header) input ↔
      (WellFormed input ∧ Wire.action input = serializer.action ∧
          serializer.size ≤ input.length → (Wire.header input).Describes input) := by
  have header : (serializer.message (value input)).header = Wire.header input := by
    rw [decodes.message]
    rfl
  constructor
  · intro integrity shape
    exact header ▸ integrity (value input) (by rw [decodes.deserialize, if_pos shape])
  · intro described m accepted
    rcases decodes.eq_some accepted with ⟨shape, action, size, rfl⟩
    simp only [header]
    exact described ⟨shape, action, size⟩

/-- The decoders compare neither the hash nor the declared length with the
payload: the header describes the input exactly on the inputs they reject for
another reason and on those where it happens to be right. -/
theorem deserialize_integrity_iff (input : List UInt8) :
    (Integrity Message.deserialize Message.header input ↔
      (WellFormed input → (Wire.header input).Describes input)) ∧
    (Integrity LoginMessage.deserialize (fun login => login.message.header) input ↔
      (WellFormed input ∧ Wire.action input = .login ∧ kLoginMessageSize ≤ input.length →
        (Wire.header input).Describes input)) ∧
    (Integrity PingMessage.deserialize (fun ping => ping.message.header) input ↔
      (WellFormed input ∧ Wire.action input = .ping ∧ kPingMessageSize ≤ input.length →
        (Wire.header input).Describes input)) ∧
    (Integrity AcknowledgeMessage.deserialize (fun ack => ack.message.header) input ↔
      (WellFormed input ∧ Wire.action input = .acknowledge ∧ kAckMessageSize ≤ input.length →
        (Wire.header input).Describes input)) :=
  ⟨Message.integrity_iff input, Serializer.decodes_login.integrity_iff input,
    Serializer.decodes_ping.integrity_iff input, Serializer.decodes_acknowledge.integrity_iff input⟩

/-- A login datagram with hash `1` and 18 declared payload bytes, zeros
otherwise. -/
def wrongHash : List UInt8 :=
  Wire.frame { magic := kMagicBytes, hash := 1, payloadSize := 18 } { action := .login }
    (List.replicate 10 0)

theorem deserialize_accepts_wrong_hash :
    ¬ Integrity Message.deserialize Message.header wrongHash ∧
      ¬ Integrity LoginMessage.deserialize (fun login => login.message.header) wrongHash := by
  have accepted : WellFormed wrongHash ∧ Wire.action wrongHash = .login ∧
      kLoginMessageSize ≤ wrongHash.length := by decide
  have wrong : ¬ (Wire.header wrongHash).Describes wrongHash := by decide
  constructor
  · intro integrity
    exact wrong ((Message.integrity_iff _).mp integrity accepted.1)
  · intro integrity
    exact wrong ((Serializer.decodes_login.integrity_iff _).mp integrity accepted)

/-! ## What an encoder declares -/

/-- The header of a datagram of `n` bytes hashes the bytes behind it and
declares no more of them than there are. -/
def HeaderLaw (n : Nat) (datagram : List UInt8) : Prop :=
  (Wire.header datagram).hash =
      fnv1a64 (window datagram kMessageHeaderSize (n - kMessageHeaderSize)) ∧
    kMessageHeaderSize + (Wire.header datagram).payloadSize.toNat ≤ n

instance (n : Nat) (datagram : List UInt8) : Decidable (HeaderLaw n datagram) :=
  inferInstanceAs (Decidable (_ ∧ _))

/-- A successful encoding has sealed the message with what the block held in
the 14 bytes behind it. -/
theorem Serializer.Encodes.serialize_success {T : Type} {serializer : Serializer T}
    {fields : T → List UInt8} (encodes : serializer.Encodes fields) {m m' : T} {output : Span}
    {mem mem' : Memory} {n : Nat} (inside : output.Inside mem)
    (run : serializer.serialize m output mem = .ok (n, m', mem')) (success : n ≠ 0) :
    n = serializer.size ∧ output.data + n + kMessageHeaderSize ≤ mem.length ∧
      mem' = overwrite mem output.data (Wire.frame
        (Wire.sealedHeader (serializer.message m) (fields m)
          (window mem (output.data + n) kMessageHeaderSize))
        (serializer.message m) (fields m)) := by
  by_cases room : serializer.size ≤ output.size
  swap
  · rw [encodes.short (Nat.not_le.mp room)] at run
    cases run
    exact absurd rfl success
  have fits : output.data + serializer.size ≤ mem.length := by
    have := inside
    simp only [Span.Inside] at this
    omega
  by_cases block : output.data + serializer.size + kMessageHeaderSize ≤ mem.length
  swap
  · rw [encodes.outOfBounds room fits (Nat.not_le.mp block)] at run
    cases run
  rw [encodes.sealed m output mem room block, Except.ok.injEq, Prod.mk.injEq, Prod.mk.injEq] at run
  obtain ⟨rfl, -, rfl⟩ := run
  exact ⟨rfl, block, rfl⟩

/-- The payload declared is the whole datagram, so the hash covers 14 bytes of
the block that are not part of it. -/
theorem Serializer.Encodes.header_law_fails {T : Type} {serializer : Serializer T}
    {fields : T → List UInt8} (encodes : serializer.Encodes fields) {m m' : T} {output : Span}
    {mem mem' : Memory} {n : Nat} (inside : output.Inside mem)
    (run : serializer.serialize m output mem = .ok (n, m', mem')) (success : n ≠ 0) :
    (Wire.header (window mem' output.data n)).payloadSize.toNat = n ∧
      (Wire.header (window mem' output.data n)).hash =
        fnv1a64 (window mem' (output.data + kMessageHeaderSize) n) ∧
      ¬ HeaderLaw n (window mem' output.data n) := by
  rcases encodes.serialize_success inside run success with ⟨rfl, block, rfl⟩
  generalize stale : window mem (output.data + serializer.size) kMessageHeaderSize = bytes
  have declared := encodes.toNat_payloadSize m bytes
  generalize sealed : Wire.sealedHeader (serializer.message m) (fields m) bytes = header
    at declared ⊢
  have size := encodes.size m
  have length := encodes.length_frame m header
  have fits : output.data + (Wire.frame header (serializer.message m) (fields m)).length ≤
      mem.length := by rw [length]; omega
  have datagram := encodes.window_frame m header (length ▸ fits)
  have hashed : window (overwrite mem output.data
      (Wire.frame header (serializer.message m) (fields m)))
      (output.data + kMessageHeaderSize) serializer.size =
        Wire.messageBytes (serializer.message m) ++ fields m ++ bytes := by
    -- the first part of the window lies in the datagram, the rest behind it
    have payload : (Wire.messageBytes (serializer.message m) ++ fields m).length +
        kMessageHeaderSize = serializer.size := by
      rw [size, List.length_append, Wire.length_messageBytes]
      simp only [kMessageSize]
      omega
    rw [← payload, ← window_append_window]
    refine congrArg₂ List.append ?_ ?_
    · rw [← window_window kMessageHeaderSize serializer.size (by omega),
        datagram]
      exact (window_append_right (Wire.length_headerBytes header).symm).trans List.take_length
    · rw [window_overwrite_behind fits (by rw [length]; omega), ← stale]
      exact congrArg (fun start => window mem start kMessageHeaderSize) (by omega)
  rw [datagram, Wire.header_frame, hashed, HeaderLaw, Wire.header_frame, declared]
  refine ⟨rfl, by rw [← sealed, Wire.sealedHeader], fun law => ?_⟩
  have inside := law.2
  simp only [kMessageHeaderSize] at inside
  omega

/-- No datagram of any of the encoders obeys the header law. -/
theorem serialize_header_law_fails (output : Span) (mem : Memory) {mem' : Memory} {n : Nat}
    (inside : output.Inside mem) (success : n ≠ 0) :
    (∀ login login', LoginMessage.serialize login output mem = .ok (n, login', mem') →
      ¬ HeaderLaw n (window mem' output.data n)) ∧
    (∀ ping ping', PingMessage.serialize ping output mem = .ok (n, ping', mem') →
      ¬ HeaderLaw n (window mem' output.data n)) ∧
    (∀ ack ack', AcknowledgeMessage.serialize ack output mem = .ok (n, ack', mem') →
      ¬ HeaderLaw n (window mem' output.data n)) :=
  ⟨fun _ _ run => (Serializer.encodes_login.header_law_fails inside run success).2.2,
    fun _ _ run => (Serializer.encodes_ping.header_law_fails inside run success).2.2,
    fun _ _ run => (Serializer.encodes_acknowledge.header_law_fails inside run success).2.2⟩

/-- An acknowledge written into the front of a zeroed block. -/
theorem serialize_header_law_fails_zeroed :
    ∃ ack mem, AcknowledgeMessage.serialize {} ⟨0, 30⟩ (List.replicate 44 0) =
        .ok (30, ack, mem) ∧ ¬ HeaderLaw 30 (window mem 0 30) := by
  have run := Serializer.encodes_acknowledge.sealed {} ⟨0, 30⟩ (List.replicate 44 0)
    (by decide) (by decide)
  exact ⟨_, _, run,
    (serialize_header_law_fails ⟨0, 30⟩ (List.replicate 44 0) (by decide) (by decide)).2.2 _ _ run⟩

/-- Two blocks that differ only behind the datagram give the same login two
hashes, neither of them that of its bytes. -/
theorem login_hash_depends_on_stale_bytes :
    ∃ login₁ mem₁ login₂ mem₂,
      LoginMessage.serialize {} ⟨0, 32⟩ (List.replicate 46 0) = .ok (32, login₁, mem₁) ∧
      LoginMessage.serialize {} ⟨0, 32⟩ (List.replicate 32 0 ++ List.replicate 14 1) =
        .ok (32, login₂, mem₂) ∧
      ¬ HeaderLaw 32 (window mem₁ 0 32) ∧ ¬ HeaderLaw 32 (window mem₂ 0 32) ∧
      (Wire.header (window mem₁ 0 32)).hash ≠ (Wire.header (window mem₂ 0 32)).hash := by
  have zeros := Serializer.encodes_login.sealed {} ⟨0, 32⟩
    (List.replicate 46 0) (by decide) (by decide)
  have ones := Serializer.encodes_login.sealed {} ⟨0, 32⟩
    (List.replicate 32 0 ++ List.replicate 14 1) (by decide) (by decide)
  exact ⟨_, _, _, _, zeros, ones, by decide +kernel, by decide +kernel, by decide +kernel⟩

/-! ## Round trip -/

/-- An encoder fills in the right magic and a size that passes the checks, so
its datagrams are well formed unless the hash came out as zero. -/
theorem wellFormed_frame {message : Message} {fields stale : List UInt8}
    (bounded : kMessageSize + fields.length ≤ kNetworkBufferSize) :
    WellFormed (Wire.frame (Wire.sealedHeader message fields stale) message fields) ↔
      (Wire.sealedHeader message fields stale).hash ≠ 0 := by
  have size : (Wire.sealedHeader message fields stale).payloadSize.toNat =
      kMessageSize + fields.length := Wire.toNat_payloadSize_sealedHeader bounded
  have base : kMessageSize = 22 := rfl
  constructor
  · intro shape
    have hash := shape.hash
    rw [Wire.header_frame] at hash
    exact UInt64.pos_iff_ne_zero.mp hash
  · intro hash
    refine ⟨?_, ?_, ?_, ?_, ?_, ?_⟩ <;> simp only [Wire.header_frame, Wire.length_frame]
    · omega
    · rfl
    · exact UInt64.pos_iff_ne_zero.mpr hash
    · rw [UInt32.lt_iff_toNat_lt, size, UInt32.toNat_zero]
      omega
    · omega
    · omega

/-- The decoder turns the datagram down. -/
def Serializer.Rejects {T : Type} (serializer : Serializer T) (datagram : List UInt8) : Prop :=
  serializer.deserialize datagram = .ok none

theorem Serializer.Decodes.rejects_of_action {T : Type} {serializer : Serializer T}
    {value : List UInt8 → T} (decodes : serializer.Decodes value) {datagram : List UInt8}
    (other : Wire.action datagram ≠ serializer.action) : serializer.Rejects datagram := by
  rw [Rejects, decodes.deserialize, if_neg fun accepted => other accepted.2.1]

/-- `m` is written in full, with a header of its own; unless the hash in that
header is zero, both decoders read the datagram back as it was written, and the
decoders of `others` never do. -/
def RoundTrip {T : Type} (serializer : Serializer T) (others : List UInt8 → Prop) (m : T)
    (output : Span) (mem : Memory) : Prop :=
  ∃ (header : MessageHeader) (mem' : Memory),
    serializer.serialize m output mem =
      .ok (serializer.size,
        serializer.withMessage m { serializer.message m with header := header }, mem') ∧
    serializer.deserialize (window mem' output.data serializer.size) =
      .ok (if header.hash ≠ 0
        then some (serializer.withMessage m { serializer.message m with header := header })
        else none) ∧
    Message.deserialize (window mem' output.data serializer.size) =
      .ok (if header.hash ≠ 0 then some { serializer.message m with header := header }
        else none) ∧
    others (window mem' output.data serializer.size)

theorem Serializer.round_trip {T : Type} {serializer : Serializer T} {fields : T → List UInt8}
    {value : List UInt8 → T} (encodes : serializer.Encodes fields)
    (decodes : serializer.Decodes value)
    (reads : ∀ m header, value (Wire.frame header (serializer.message m) (fields m)) =
      serializer.withMessage m { serializer.message m with header := header })
    {others : List UInt8 → Prop} {m : T} {output : Span} {mem : Memory}
    (typed : (serializer.message m).action = serializer.action)
    (room : serializer.size + kMessageHeaderSize ≤ output.size) (inside : output.Inside mem)
    (rejected : ∀ datagram, Wire.action datagram = serializer.action → others datagram) :
    RoundTrip serializer others m output mem := by
  simp only [Span.Inside] at inside
  refine ⟨_, _, encodes.sealed m output mem (by omega) (by omega), ?_⟩
  generalize window mem (output.data + serializer.size) kMessageHeaderSize = stale
  generalize sealed : Wire.sealedHeader (serializer.message m) (fields m) stale = header
  have length := encodes.length_frame m header
  have fits : output.data + serializer.size ≤ mem.length := by omega
  have datagram := encodes.window_frame m header fits
  have shape : WellFormed (Wire.frame header (serializer.message m) (fields m)) ↔
      header.hash ≠ 0 := by
    rw [← sealed]
    exact wellFormed_frame (encodes.size m ▸ encodes.bounded)
  have action : Wire.action (Wire.frame header (serializer.message m) (fields m)) =
      serializer.action := (Wire.action_frame ..).trans typed
  rw [datagram]
  refine ⟨?_, ?_, rejected _ action⟩
  · rw [decodes.deserialize, reads, action, length]
    simp only [shape, Nat.le_refl, and_true]
  · rw [Message.deserialize_eq, Wire.message_frame]
    simp only [shape]

/-- What is encoded into a span with 14 bytes to spare is decoded as it was. -/
theorem codec_round_trip {output : Span} {mem : Memory} (inside : output.Inside mem) :
    (∀ login : LoginMessage, login.message.action = .login →
      kLoginMessageSize + kMessageHeaderSize ≤ output.size →
      RoundTrip .login (fun datagram => Serializer.ping.Rejects datagram ∧
        Serializer.acknowledge.Rejects datagram) login output mem) ∧
    (∀ ping : PingMessage, ping.message.action = .ping →
      kPingMessageSize + kMessageHeaderSize ≤ output.size →
      RoundTrip .ping (fun datagram => Serializer.login.Rejects datagram ∧
        Serializer.acknowledge.Rejects datagram) ping output mem) ∧
    (∀ ack : AcknowledgeMessage, ack.message.action = .acknowledge →
      kAckMessageSize + kMessageHeaderSize ≤ output.size →
      RoundTrip .acknowledge (fun datagram => Serializer.login.Rejects datagram ∧
        Serializer.ping.Rejects datagram) ack output mem) := by
  refine ⟨fun login typed room => ?_, fun ping typed room => ?_, fun ack typed room => ?_⟩
  · refine Serializer.round_trip Serializer.encodes_login Serializer.decodes_login
      (fun m header => Wire.login_frame header m) typed room inside fun datagram action =>
        ⟨Serializer.decodes_ping.rejects_of_action ?_,
          Serializer.decodes_acknowledge.rejects_of_action ?_⟩ <;> rw [action] <;> decide
  · refine Serializer.round_trip Serializer.encodes_ping Serializer.decodes_ping
      (fun m header => Wire.ping_frame header m) typed room inside fun datagram action =>
        ⟨Serializer.decodes_login.rejects_of_action ?_,
          Serializer.decodes_acknowledge.rejects_of_action ?_⟩ <;> rw [action] <;> decide
  · refine Serializer.round_trip Serializer.encodes_acknowledge Serializer.decodes_acknowledge
      (fun m header => Wire.acknowledge_frame header m) typed room inside fun datagram action =>
        ⟨Serializer.decodes_login.rejects_of_action ?_,
          Serializer.decodes_ping.rejects_of_action ?_⟩ <;> rw [action] <;> decide

/-- A login with a session and an address, in the middle of a block. -/
theorem codec_round_trip_login :
    RoundTrip .login (fun datagram => Serializer.ping.Rejects datagram ∧
        Serializer.acknowledge.Rejects datagram)
      { session := 7, address := ⟨10, 0, 0, 2⟩, port := 31337 } ⟨3, 46⟩
      (List.replicate 49 0xAA) :=
  (codec_round_trip (by decide)).1 _ rfl (by decide)

end UdpGame
