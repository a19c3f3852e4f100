import UdpGame.Framing
import UdpGame.Network

/-!
# The self-tests

Both programs run `RunAllTests` when the console has taken their handler.  Each
test writes a message into a buffer and asserts what comes back.  Here the tests
take any message and any buffer instead of the ones they are written with, and
`tests_pass_iff` says which make them pass: all whose hash is not zero.  The hash
of a message with a payload also covers what the buffer held behind it; that of a
bare message, whose header the test writes itself, does not.
-/

namespace UdpGame

open ByteWindow

namespace Tests

/-! ## The tests -/

/-- The first block of `TestMessageSerializer`: message first, then a header over
the bytes behind it. -/
def writeMessage (message : Message) (data : Span) (mem : Memory) : Checked (Span × Memory) := do
  let (serializedSize, mem) ← message.serialize data mem
  Checked.assert (serializedSize = kMessageSize)
  let payload ← data.subspan kMessageHeaderSize serializedSize
  let headerData ← data.subspan 0 kMessageHeaderSize
  let (_, mem) ← serializeHeader message.header headerData payload mem
  return (payload, mem)

def testMessageSerializer (message : Message) (data : Span) (mem : Memory) : Checked Unit := do
  let (payload, mem) ← writeMessage message data mem
  let result ← Message.deserialize (window mem data.data data.size)
  Checked.assert result.isSome
  let result ← Checked.deref result
  Checked.assert (result.action = message.action)
  Checked.assert (result.messageId = message.messageId)
  Checked.assert (result.header.payloadSize.toNat = payload.size)

/-- The common body of the tests of a message with a payload; `same` is the
assertion that not all of them make. -/
def testSerializer {T : Type} (serializer : Serializer T) (same : T → T → Bool) (m : T)
    (data : Span) (mem : Memory) : Checked Unit := do
  let (serializedSize, m, mem) ← serializer.serialize m data mem
  Checked.assert (serializedSize = serializer.size)
  let payload ← data.subspan kMessageHeaderSize serializedSize
  let result ← serializer.deserialize (window mem data.data data.size)
  Checked.assert result.isSome
  let result ← Checked.deref result
  Checked.assert ((serializer.message result).action = (serializer.message m).action)
  Checked.assert ((serializer.message result).messageId = (serializer.message m).messageId)
  Checked.assert ((serializer.message result).header.payloadSize.toNat =
    kMessageHeaderSize + payload.size)
  Checked.assert ((serializer.message result).header.hash = (serializer.message m).header.hash)
  Checked.assert (same result m)

def testLoginMessageSerializer (login : LoginMessage) (data : Span) (mem : Memory) :
    Checked Unit :=
  testSerializer .login (fun _ _ => true) login data mem

def testPingMessageSerializer (ping : PingMessage) (data : Span) (mem : Memory) : Checked Unit :=
  testSerializer .ping (fun result ping => result.messageId = ping.messageId) ping data mem

def testAckMessageSerializer (ack : AcknowledgeMessage) (data : Span) (mem : Memory) :
    Checked Unit :=
  testSerializer .acknowledge (fun result ack => result.messageId = ack.messageId) ack data mem

/-- `MessageTests`, each test with a buffer of its own. -/
def messageTests : Checked Unit := do
  let buffer : NetworkBuffer := {}
  testMessageSerializer { action := .login, messageId := 99 } buffer.span buffer.mBuffer
  testLoginMessageSerializer { message := { action := .login, messageId := 99 }, session := 99 }
    buffer.span buffer.mBuffer
  testAckMessageSerializer { message := { action := .acknowledge, messageId := 99 }, messageId := 99 }
    buffer.span buffer.mBuffer
  testPingMessageSerializer
    { message := { action := .ping, messageId := 99 }, playerId := 99, messageId := 99 }
    buffer.span buffer.mBuffer

/-- `RunAllTests`. -/
def runAllTests : Checked Unit := messageTests

/-! ## What is read back -/

/-- A longer window than what was written shows what lies behind it as well. -/
theorem window_overwrite_longer {α : Type} {l new : List α} {start length : Nat}
    (inside : start + new.length ≤ l.length) (longer : new.length ≤ length) :
    window (overwrite l start new) start length =
      new ++ window l (start + new.length) (length - new.length) := by
  have split : length = new.length + (length - new.length) := (Nat.add_sub_cancel' longer).symm
  rw [split, ← window_append_window, window_overwrite inside,
    window_overwrite_behind inside (Nat.le_refl _), Nat.add_sub_cancel_left]

/-- The header of a message without payload. -/
def bareHeader (message : Message) : MessageHeader :=
  { magic := kMagicBytes
    hash := fnv1a64 (Wire.messageBytes message)
    payloadSize := 8 }

theorem toNat_payloadSize_bareHeader (message : Message) :
    (bareHeader message).payloadSize.toNat = 8 := rfl

theorem wellFormed_bare (message : Message) :
    WellFormed (Wire.frame (bareHeader message) message []) ↔
      fnv1a64 (Wire.messageBytes message) ≠ 0 := by
  constructor
  · intro shape
    have hash := shape.hash
    rw [Wire.header_frame] at hash
    exact UInt64.pos_iff_ne_zero.mp hash
  · intro hash
    refine ⟨?_, ?_, ?_, ?_, ?_, ?_⟩ <;> simp only [Wire.header_frame, Wire.length_frame]
    · exact Nat.le_refl _
    · rfl
    · exact UInt64.pos_iff_ne_zero.mpr hash
    · exact UInt32.lt_iff_toNat_lt.mpr (by decide : 0 < 8)
    · rw [toNat_payloadSize_bareHeader]
      decide
    · rw [toNat_payloadSize_bareHeader]
      decide

theorem headerLaw_bare (message : Message) :
    HeaderLaw kMessageSize (Wire.frame (bareHeader message) message []) := by
  have bytes : window (Wire.frame (bareHeader message) message []) kMessageHeaderSize
      (kMessageSize - kMessageHeaderSize) = Wire.messageBytes message := by
    rw [Wire.frame, List.append_nil, window_append_right (Wire.length_headerBytes _).symm]
    exact List.take_of_length_le (Nat.le_of_eq (Wire.length_messageBytes message))
  rw [HeaderLaw, Wire.header_frame, bytes, toNat_payloadSize_bareHeader]
  exact ⟨rfl, Nat.le_refl _⟩

section Bare

variable {data : Span} {mem : Memory}

/-- The test writes the message with its header over the front of the buffer. -/
theorem serializeHeader_bare (message : Message) (room : kMessageSize ≤ data.size) (inside : data.Inside mem) :
    serializeHeader message.header ⟨data.data, kMessageHeaderSize⟩ ⟨data.data + kMessageHeaderSize, 8⟩
        (overwrite mem (data.data + kMessageHeaderSize) (Wire.messageBytes message)) =
      .ok (bareHeader message,
        overwrite mem data.data (Wire.frame (bareHeader message) message [])) := by
  have block : data.data + kMessageSize ≤ mem.length :=
    Nat.le_trans (Nat.add_le_add_left room _) inside
  have fits : data.data + kMessageHeaderSize + (Wire.messageBytes message).length ≤
      mem.length := by
    rw [Wire.length_messageBytes]
    exact block
  have hashed : window
      (overwrite mem (data.data + kMessageHeaderSize) (Wire.messageBytes message))
      (data.data + kMessageHeaderSize) 8 = Wire.messageBytes message := by
    have written := window_overwrite fits
    rw [Wire.length_messageBytes] at written
    exact written
  have place : data.data + kMessageHeaderSize =
      data.data + (Wire.headerBytes (bareHeader message)).length := by
    rw [Wire.length_headerBytes]
  rw [serializeHeader_eq (Nat.le_refl _) (Nat.le_refl _) (by
    rw [Span.Inside, length_overwrite fits]
    exact block), hashed]
  change Except.ok (bareHeader message, overwrite (overwrite mem (data.data + kMessageHeaderSize)
    (Wire.messageBytes message)) data.data (Wire.headerBytes (bareHeader message))) = _
  rw [place, overwrite_prepend (by rw [← place]; exact fits), Wire.frame, List.append_nil]

theorem writeMessage_eq (message : Message) (room : kMessageSize ≤ data.size)
    (inside : data.Inside mem) :
    writeMessage message data mem =
      .ok (⟨data.data + kMessageHeaderSize, 8⟩,
        overwrite mem data.data (Wire.frame (bareHeader message) message [])) := by
  have block : data.data + kMessageSize ≤ mem.length :=
    Nat.le_trans (Nat.add_le_add_left room _) inside
  have base : kMessageHeaderSize ≤ data.size := Nat.le_trans (by decide) room
  have payload : data.subspan kMessageHeaderSize kMessageSize =
      .ok ⟨data.data + kMessageHeaderSize, 8⟩ :=
    Span.subspan_of_le (by decide) room (by decide)
  have headerData : data.subspan 0 kMessageHeaderSize = .ok ⟨data.data, kMessageHeaderSize⟩ :=
    Span.subspan_of_le (by decide) base (Nat.zero_le _)
  have wrote := serializeHeader_bare message room inside
  simp only [writeMessage, Message.serialize_eq room block, Checked.ok_bind,
    Checked.assert_of True.intro, payload, headerData, wrote, Checked.pure_eq_ok]

theorem testMessageSerializer_iff (message : Message) (room : kMessageSize ≤ data.size)
    (inside : data.Inside mem) :
    testMessageSerializer message data mem = .ok () ↔
      fnv1a64 (Wire.messageBytes message) ≠ 0 := by
  have block : data.data + kMessageSize ≤ mem.length :=
    Nat.le_trans (Nat.add_le_add_left room _) inside
  have frame : (Wire.frame (bareHeader message) message []).length = kMessageSize :=
    Wire.length_frame ..
  have header := Wire.header_frame (bareHeader message) message []
  have read : Message.deserialize (window (overwrite mem data.data
      (Wire.frame (bareHeader message) message [])) data.data data.size) =
      .ok (if fnv1a64 (Wire.messageBytes message) ≠ 0 then
        some { message with header := bareHeader message } else none) := by
    rw [window_overwrite_longer (by rw [frame]; exact block) (by rw [frame]; exact room),
      Message.deserialize_append (Nat.le_of_eq frame.symm) (by
        rw [header, frame, toNat_payloadSize_bareHeader]
        decide),
      Message.deserialize_eq, Wire.message_frame]
    simp only [wellFormed_bare]
  simp only [testMessageSerializer, writeMessage_eq message room inside, Checked.ok_bind, read]
  by_cases hash : fnv1a64 (Wire.messageBytes message) = 0
  · simp only [hash, ne_eq, not_true_eq_false, if_false, iff_false]
    rintro ⟨⟩
  · simp only [ne_eq, hash, not_false_eq_true, if_true, Option.isSome_some,
      Checked.deref_some, Checked.ok_bind, toNat_payloadSize_bareHeader,
      Checked.assert_of True.intro]

/-- What the test writes obeys the law that no message with a payload obeys, and
shows nothing of what the buffer held. -/
theorem message_header_law (message : Message) (room : kMessageSize ≤ data.size)
    (inside : data.Inside mem) :
    ∃ payload mem', writeMessage message data mem = .ok (payload, mem') ∧
      HeaderLaw kMessageSize (window mem' data.data kMessageSize) ∧
      (Wire.header (window mem' data.data kMessageSize)).Describes
        (window mem' data.data kMessageSize) ∧
      Wire.message (window mem' data.data kMessageSize) =
        { message with header := bareHeader message } ∧
      mem'.length = mem.length ∧ mem'.take data.data = mem.take data.data ∧
      mem'.drop (data.data + kMessageSize) = mem.drop (data.data + kMessageSize) := by
  have length : (Wire.frame (bareHeader message) message []).length = kMessageSize :=
    Wire.length_frame ..
  have fits : data.data + (Wire.frame (bareHeader message) message []).length ≤ mem.length := by
    rw [length]
    exact Nat.le_trans (Nat.add_le_add_left room _) inside
  have datagram := window_overwrite fits
  rw [length] at datagram
  have law := headerLaw_bare message
  refine ⟨_, _, writeMessage_eq message room inside, ?_⟩
  rw [datagram]
  refine ⟨law, ⟨?_, ?_⟩, Wire.message_frame .., length_overwrite fits, ?_, ?_⟩
  · rw [length]
    exact law.2
  · have covered : (Wire.header (Wire.frame (bareHeader message) message [])).payloadSize.toNat =
        kMessageSize - kMessageHeaderSize := by
      rw [Wire.header_frame]
      rfl
    rw [covered]
    exact law.1
  · simp only [overwrite, List.append_assoc]
    exact List.take_left' (List.length_take_of_le (by omega))
  · exact drop_overwrite fits (by rw [length])

theorem message_header_law_stale_bytes :
    ∃ payload mem', writeMessage { action := .login, messageId := 99 } ⟨0, 22⟩
        (List.replicate 22 0xAA) = .ok (payload, mem') ∧
      HeaderLaw kMessageSize (window mem' 0 kMessageSize) := by
  rcases message_header_law { action := .login, messageId := 99 } (Nat.le_refl kMessageSize)
    (by decide : Span.Inside ⟨0, 22⟩ (List.replicate 22 0xAA)) with ⟨payload, mem', ran, law, -⟩
  exact ⟨payload, mem', ran, law⟩

end Bare

section Payload

variable {T : Type} {serializer : Serializer T} {fields : T → List UInt8} {value : List UInt8 → T}
  {data : Span} {mem : Memory}

theorem testSerializer_iff (encodes : serializer.Encodes fields)
    (decodes : serializer.Decodes value)
    (reads : ∀ m header, value (Wire.frame header (serializer.message m) (fields m)) =
      serializer.withMessage m { serializer.message m with header := header })
    (append : ∀ input trailing, serializer.size ≤ input.length →
      value (input ++ trailing) = value input)
    (same : T → T → Bool) (reflexive : ∀ m, same m m = true) (m : T)
    (room : serializer.size + kMessageHeaderSize ≤ data.size) (inside : data.Inside mem) :
    testSerializer serializer same m data mem = .ok () ↔
      (serializer.message m).action = serializer.action ∧
        fnv1a64 (Wire.messageBytes (serializer.message m) ++ fields m ++
          window mem (data.data + serializer.size) kMessageHeaderSize) ≠ 0 := by
  have space : data.data + data.size ≤ mem.length := inside
  have run := encodes.sealed m data mem (by omega) (by omega)
  generalize window mem (data.data + serializer.size) kMessageHeaderSize = behind at run ⊢
  generalize sealed : Wire.sealedHeader (serializer.message m) (fields m) behind = header at run
  have hash : fnv1a64 (Wire.messageBytes (serializer.message m) ++ fields m ++ behind) =
      header.hash := by
    rw [← sealed, Wire.sealedHeader]
  rw [hash]
  have size := encodes.size m
  have base : kMessageSize ≤ serializer.size := by omega
  have length := encodes.length_frame m header
  have declared : header.payloadSize.toNat = serializer.size := by
    rw [← sealed]
    exact encodes.toNat_payloadSize m behind
  rw [← reads] at run
  have payload : data.subspan kMessageHeaderSize serializer.size =
      .ok ⟨data.data + kMessageHeaderSize, serializer.size - kMessageHeaderSize⟩ := by
    have bounded := encodes.bounded
    have limit : kNetworkBufferSize < sizeMax := by decide
    exact Span.subspan_of_le (by omega) (by omega) (Nat.le_trans (by decide) base)
  have message : serializer.message (value (Wire.frame header (serializer.message m) (fields m))) =
      { serializer.message m with header := header } :=
    (decodes.message _).trans (Wire.message_frame ..)
  have shape : ∀ trailing, WellFormed
      (Wire.frame header (serializer.message m) (fields m) ++ trailing) ↔ header.hash ≠ 0 := by
    intro trailing
    rw [wellFormed_append (base.trans_eq length.symm)
      (by rw [Wire.header_frame, length, declared]), ← sealed]
    exact wellFormed_frame (size ▸ encodes.bounded)
  have read : serializer.deserialize (window (overwrite mem data.data
      (Wire.frame header (serializer.message m) (fields m))) data.data data.size) =
      .ok (if (serializer.message m).action = serializer.action ∧ header.hash ≠ 0 then
        some (value (Wire.frame header (serializer.message m) (fields m))) else none) := by
    obtain ⟨trailing, shown⟩ : ∃ trailing, window (overwrite mem data.data
        (Wire.frame header (serializer.message m) (fields m))) data.data data.size =
        Wire.frame header (serializer.message m) (fields m) ++ trailing :=
      ⟨_, window_overwrite_longer (by omega) (by omega)⟩
    have enough : serializer.size ≤
        (Wire.frame header (serializer.message m) (fields m)).length := Nat.le_of_eq length.symm
    have longer : serializer.size ≤
        (Wire.frame header (serializer.message m) (fields m) ++ trailing).length := by
      rw [List.length_append]
      exact Nat.le_trans enough (Nat.le_add_right ..)
    have action := Wire.action_append (Nat.le_trans (Nat.le_trans (by decide) base) enough) trailing
    have accepts : (WellFormed (Wire.frame header (serializer.message m) (fields m) ++ trailing) ∧
        Wire.action (Wire.frame header (serializer.message m) (fields m) ++ trailing) =
          serializer.action ∧ serializer.size ≤
          (Wire.frame header (serializer.message m) (fields m) ++ trailing).length) ↔
        (serializer.message m).action = serializer.action ∧ header.hash ≠ 0 := by
      rw [shape, action, Wire.action_frame]
      exact ⟨fun all => ⟨all.2.1, all.1⟩, fun both => ⟨both.2, both.1, longer⟩⟩
    rw [shown, decodes.deserialize, append _ _ enough]
    simp only [accepts]
  simp only [testSerializer, run, Checked.ok_bind, Checked.assert_of True.intro, payload, read]
  by_cases accepted : (serializer.message m).action = serializer.action ∧ header.hash ≠ 0
  · have whole : kMessageHeaderSize + (serializer.size - kMessageHeaderSize) = serializer.size :=
      Nat.add_sub_cancel' (Nat.le_trans (by decide) base)
    refine iff_of_true ?_ accepted
    simp only [if_pos accepted, Option.isSome_some, Checked.deref_some, Checked.ok_bind, message,
      declared, whole, reflexive, Checked.assert_of True.intro]
  · refine iff_of_false ?_ accepted
    simp only [if_neg accepted]
    rintro ⟨⟩

end Payload

section Tests

variable {data : Span} {mem : Memory}

theorem testLoginMessageSerializer_iff (login : LoginMessage)
    (room : kLoginMessageSize + kMessageHeaderSize ≤ data.size) (inside : data.Inside mem) :
    testLoginMessageSerializer login data mem = .ok () ↔ login.message.action = .login ∧
      fnv1a64 (Wire.messageBytes login.message ++ Wire.loginBytes login ++
        window mem (data.data + kLoginMessageSize) kMessageHeaderSize) ≠ 0 :=
  testSerializer_iff Serializer.encodes_login Serializer.decodes_login
    (fun m header => Wire.login_frame header m)
    (fun _ trailing enough => Wire.login_append enough trailing)
    (fun _ _ => true) (fun _ => rfl) login room inside

theorem testPingMessageSerializer_iff (ping : PingMessage)
    (room : kPingMessageSize + kMessageHeaderSize ≤ data.size) (inside : data.Inside mem) :
    testPingMessageSerializer ping data mem = .ok () ↔ ping.message.action = .ping ∧
      fnv1a64 (Wire.messageBytes ping.message ++ Wire.pingBytes ping ++
        window mem (data.data + kPingMessageSize) kMessageHeaderSize) ≠ 0 :=
  testSerializer_iff Serializer.encodes_ping Serializer.decodes_ping
    (fun m header => Wire.ping_frame header m)
    (fun _ trailing enough => Wire.ping_append enough trailing)
    (fun result ping => result.messageId = ping.messageId) (fun _ => by simp) ping room inside

theorem testAckMessageSerializer_iff (ack : AcknowledgeMessage)
    (room : kAckMessageSize + kMessageHeaderSize ≤ data.size) (inside : data.Inside mem) :
    testAckMessageSerializer ack data mem = .ok () ↔ ack.message.action = .acknowledge ∧
      fnv1a64 (Wire.messageBytes ack.message ++ Wire.ackBytes ack ++
        window mem (data.data + kAckMessageSize) kMessageHeaderSize) ≠ 0 :=
  testSerializer_iff Serializer.encodes_acknowledge Serializer.decodes_acknowledge
    (fun m header => Wire.acknowledge_frame header m)
    (fun _ trailing enough => Wire.acknowledge_append enough trailing)
    (fun result ack => result.messageId = ack.messageId) (fun _ => by simp) ack room inside

end Tests

/-- The tests pass for all messages but those whose hash is zero. -/
theorem tests_pass_iff {data : Span} {mem : Memory} (inside : data.Inside mem) :
    (∀ message, kMessageSize ≤ data.size →
      (testMessageSerializer message data mem = .ok () ↔
        fnv1a64 (Wire.messageBytes message) ≠ 0)) ∧
    (∀ login, kLoginMessageSize + kMessageHeaderSize ≤ data.size →
      (testLoginMessageSerializer login data mem = .ok () ↔ login.message.action = .login ∧
        fnv1a64 (Wire.messageBytes login.message ++ Wire.loginBytes login ++
          window mem (data.data + kLoginMessageSize) kMessageHeaderSize) ≠ 0)) ∧
    (∀ ping, kPingMessageSize + kMessageHeaderSize ≤ data.size →
      (testPingMessageSerializer ping data mem = .ok () ↔ ping.message.action = .ping ∧
        fnv1a64 (Wire.messageBytes ping.message ++ Wire.pingBytes ping ++
          window mem (data.data + kPingMessageSize) kMessageHeaderSize) ≠ 0)) ∧
    ∀ ack, kAckMessageSize + kMessageHeaderSize ≤ data.size →
      (testAckMessageSerializer ack data mem = .ok () ↔ ack.message.action = .acknowledge ∧
        fnv1a64 (Wire.messageBytes ack.message ++ Wire.ackBytes ack ++
          window mem (data.data + kAckMessageSize) kMessageHeaderSize) ≠ 0) := by
  refine ⟨?_, ?_, ?_, ?_⟩
  · intro message room
    exact testMessageSerializer_iff message room inside
  · intro login room
    exact testLoginMessageSerializer_iff login room inside
  · intro ping room
    exact testPingMessageSerializer_iff ping room inside
  · intro ack room
    exact testAckMessageSerializer_iff ack room inside

/-- What the buffer holds before does not fail the test. -/
theorem tests_pass_iff_stale_bytes :
    testLoginMessageSerializer
      { message := { action := .login, messageId := 99 }, session := 99 } ⟨0, 46⟩
      (List.replicate 46 0xAA) = .ok () := by
  have inside : Span.Inside ⟨0, 46⟩ (List.replicate 46 0xAA) := by
    simp [Span.Inside]
  rcases tests_pass_iff inside with ⟨-, login, -⟩
  apply (login _ (by decide)).mpr
  decide +kernel

/-- As they are written the tests pass. -/
theorem runAllTests_eq : runAllTests = .ok () := by
  have inside : (NetworkBuffer.span {}).Inside (NetworkBuffer.mBuffer {}) := by
    simp [NetworkBuffer.span, Span.Inside]
  have message := (testMessageSerializer_iff { action := .login, messageId := 99 } (by decide)
    inside).mpr (by decide +kernel)
  have login := (testLoginMessageSerializer_iff
    { message := { action := .login, messageId := 99 }, session := 99 } (by decide)
    inside).mpr (by decide +kernel)
  have ack := (testAckMessageSerializer_iff
    { message := { action := .acknowledge, messageId := 99 }, messageId := 99 } (by decide)
    inside).mpr (by decide +kernel)
  have ping := (testPingMessageSerializer_iff
    { message := { action := .ping, messageId := 99 }, playerId := 99, messageId := 99 } (by decide)
    inside).mpr (by decide +kernel)
  simp only [runAllTests, messageTests, message, login, ack, ping, Checked.ok_bind]

end Tests

end UdpGame
