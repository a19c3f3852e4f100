import UdpGame.Codec
import Mathlib.Data.List.GetD

/-!
# Framing

The codec at its edges.  A decoder accepts exactly the grammar of its type
(`decoders_parse`), so it can be said what becomes of a datagram that is cut
short or followed by other bytes (`framing`): the size an encoder declares is
that of the whole datagram, and no shorter input has it.  The same size is why
an encoder reads past a span that has no 14 bytes to spare
(`serialize_stays_inside_iff`).
-/

namespace UdpGame

open ByteWindow

/-! ## The grammar -/

theorem Action.toUInt32_ofUInt32 (value : UInt32) : (Action.ofUInt32 value).toUInt32 = value := by
  unfold Action.ofUInt32
  split
  · rename_i zero
    exact zero.symm
  split
  · rename_i one
    exact one.symm
  split
  · rename_i two
    exact two.symm
  split
  · rename_i three
    exact three.symm
  split
  · rfl
  · rename_i zero one two three small
    rw [UInt32.lt_iff_toNat_lt] at small
    rw [← UInt32.toNat_inj] at zero one two three
    simp only [UInt32.reduceToNat] at small zero one two three
    omega

theorem Action.ofUInt32_eq_iff {value : UInt32} {action : Action} :
    Action.ofUInt32 value = action ↔ value = action.toUInt32 := by
  constructor
  · intro same
    rw [← same, Action.toUInt32_ofUInt32]
  · intro same
    rw [same, Action.ofUInt32_toUInt32]

/-- The bytes of a datagram of at least `size` bytes: the magic, a hash that is
not zero, and a payload size that neither the buffer nor the datagram falls
short of. -/
structure Grammar (size : Nat) (input : List UInt8) : Prop where
  size : size ≤ input.length
  magic : input.getD 0 0 = 0xBE ∧ input.getD 1 0 = 0xEF
  hash : be64 (window input 2 8) ≠ 0
  payload : 0 < (be32 (window input 10 4)).toNat
  bounded : (be32 (window input 10 4)).toNat ≤ min 1472 input.length

/-- The grammar with a value in the action field. -/
def TypedGrammar (size : Nat) (action : UInt32) (input : List UInt8) : Prop :=
  Grammar size input ∧ be32 (window input 14 4) = action

theorem grammar_iff {size : Nat} {input : List UInt8} (base : kMessageSize ≤ size) :
    Grammar size input ↔ WellFormed input ∧ size ≤ input.length := by
  constructor
  · intro grammar
    have bounded := grammar.bounded
    refine ⟨⟨Nat.le_trans base grammar.size, Prod.ext grammar.magic.1 grammar.magic.2,
      UInt64.pos_iff_ne_zero.mpr grammar.hash, UInt32.lt_iff_toNat_lt.mpr grammar.payload,
      Nat.le_trans bounded (Nat.min_le_left ..), Nat.le_trans bounded (Nat.min_le_right ..)⟩,
      grammar.size⟩
  · intro shape
    have magic := shape.1.magic
    exact ⟨shape.2, ⟨congrArg Prod.fst magic, congrArg Prod.snd magic⟩,
      UInt64.pos_iff_ne_zero.mp shape.1.hash, UInt32.lt_iff_toNat_lt.mp shape.1.payload,
      Nat.le_min.mpr ⟨shape.1.buffer, shape.1.declared⟩⟩

/-- The decoder returns on `input`, with `value input` if that is in the grammar
and with nothing otherwise. -/
def Parses {T : Type} (deserialize : List UInt8 → Checked (Option T))
    (grammar : List UInt8 → Prop) (value : List UInt8 → T) (input : List UInt8) : Prop :=
  ∃ result, deserialize input = .ok result ∧ ∀ m, result = some m ↔ grammar input ∧ m = value input

theorem Parses.of_ite {T : Type} {deserialize : List UInt8 → Checked (Option T)}
    {grammar : List UInt8 → Prop} {value : List UInt8 → T} {input : List UInt8} {shape : Prop}
    [Decidable shape] (run : deserialize input = .ok (if shape then some (value input) else none))
    (same : grammar input ↔ shape) : Parses deserialize grammar value input := by
  refine ⟨_, run, fun m => ?_⟩
  by_cases accepted : shape
  · rw [if_pos accepted, Option.some.injEq]
    exact ⟨fun value => ⟨same.mpr accepted, value.symm⟩, fun parsed => parsed.2.symm⟩
  · rw [if_neg accepted]
    exact ⟨fun returned => (nomatch returned), fun parsed => absurd (same.mp parsed.1) accepted⟩

theorem Serializer.Decodes.parses {T : Type} {serializer : Serializer T}
    {value : List UInt8 → T} (decodes : serializer.Decodes value)
    (base : kMessageSize ≤ serializer.size) (input : List UInt8) :
    Parses serializer.deserialize (TypedGrammar serializer.size serializer.action.toUInt32) value
      input := by
  refine .of_ite (decodes.deserialize input) ?_
  rw [TypedGrammar, grammar_iff base, Wire.action, Action.ofUInt32_eq_iff, and_assoc,
    and_comm (a := serializer.size ≤ input.length)]

/-- No input makes a decoder fail, and each accepts the grammar of its type. -/
theorem decoders_parse (input : List UInt8) :
    Parses Message.deserialize (Grammar 22) Wire.message input ∧
    Parses LoginMessage.deserialize (TypedGrammar 32 2) Wire.login input ∧
    Parses PingMessage.deserialize (TypedGrammar 34 3) Wire.ping input ∧
    Parses AcknowledgeMessage.deserialize (TypedGrammar 30 1) Wire.acknowledge input := by
  refine ⟨?_, Serializer.decodes_login.parses (by decide) input,
    Serializer.decodes_ping.parses (by decide) input,
    Serializer.decodes_acknowledge.parses (by decide) input⟩
  refine .of_ite (Message.deserialize_eq input) ((grammar_iff (by decide)).trans ?_)
  exact ⟨fun shape => shape.1, fun shape => ⟨shape, shape.size⟩⟩

/-! ## Cuts and trailing bytes -/

namespace Wire

variable {input : List UInt8}

theorem header_append (enough : 14 ≤ input.length) (trailing : List UInt8) :
    header (input ++ trailing) = header input := by
  rw [header, header, List.getD_append _ _ _ _ (by omega), List.getD_append _ _ _ _ (by omega),
    window_append_left (by omega), window_append_left (by omega)]

theorem action_append (enough : 18 ≤ input.length) (trailing : List UInt8) :
    action (input ++ trailing) = action input := by
  rw [action, action, window_append_left (by omega)]

theorem message_append (enough : kMessageSize ≤ input.length) (trailing : List UInt8) :
    message (input ++ trailing) = message input := by
  have length : 22 ≤ input.length := enough
  rw [message, message, header_append (by omega), action_append (by omega),
    window_append_left (by omega)]

theorem login_append (enough : kLoginMessageSize ≤ input.length) (trailing : List UInt8) :
    login (input ++ trailing) = login input := by
  have length : 32 ≤ input.length := enough
  simp only [login]
  rw [message_append (Nat.le_trans (by decide) enough), window_append_left (by omega),
    window_append_left (by omega), List.getD_append _ _ _ _ (by omega),
    List.getD_append _ _ _ _ (by omega), List.getD_append _ _ _ _ (by omega),
    List.getD_append _ _ _ _ (by omega)]

theorem ping_append (enough : kPingMessageSize ≤ input.length) (trailing : List UInt8) :
    ping (input ++ trailing) = ping input := by
  have length : 34 ≤ input.length := enough
  rw [ping, ping, message_append (Nat.le_trans (by decide) enough),
    window_append_left (by omega), window_append_left (by omega)]

theorem acknowledge_append (enough : kAckMessageSize ≤ input.length) (trailing : List UInt8) :
    acknowledge (input ++ trailing) = acknowledge input := by
  have length : 30 ≤ input.length := enough
  rw [acknowledge, acknowledge, message_append (Nat.le_trans (by decide) enough),
    window_append_left (by omega)]

end Wire

section Edges

variable {input : List UInt8}

/-- What declares more bytes than there are is not well formed, however much of
the header is left. -/
theorem not_wellFormed_take {count : Nat}
    (declared : input.length ≤ (Wire.header input).payloadSize.toNat)
    (cut : count < input.length) : ¬ WellFormed (input.take count) := by
  intro shape
  have length : (input.take count).length = count := List.length_take_of_le (Nat.le_of_lt cut)
  have size := shape.size
  have base : kMessageSize = 22 := rfl
  have whole : Wire.header (input.take count) = Wire.header input := by
    conv_rhs => rw [← List.take_append_drop count input]
    exact (Wire.header_append (by omega) _).symm
  have stated := shape.declared
  rw [whole] at stated
  omega

/-- Bytes behind the declared payload do not matter. -/
theorem wellFormed_append (base : kMessageSize ≤ input.length)
    (declared : (Wire.header input).payloadSize.toNat ≤ input.length) (trailing : List UInt8) :
    WellFormed (input ++ trailing) ↔ WellFormed input := by
  have header := Wire.header_append (Nat.le_trans (by decide) base) trailing
  have longer : input.length ≤ (input ++ trailing).length := by
    rw [List.length_append]
    exact Nat.le_add_right ..
  constructor
  · intro shape
    refine ⟨base, ?_, ?_, ?_, ?_, declared⟩
    · rw [← header]
      exact shape.magic
    · rw [← header]
      exact shape.hash
    · rw [← header]
      exact shape.payload
    · rw [← header]
      exact shape.buffer
  · intro shape
    refine ⟨Nat.le_trans base longer, ?_, ?_, ?_, ?_, ?_⟩ <;> rw [header]
    · exact shape.magic
    · exact shape.hash
    · exact shape.payload
    · exact shape.buffer
    · exact Nat.le_trans declared longer

theorem Message.deserialize_append (base : kMessageSize ≤ input.length)
    (declared : (Wire.header input).payloadSize.toNat ≤ input.length) (trailing : List UInt8) :
    Message.deserialize (input ++ trailing) = Message.deserialize input := by
  simp only [Message.deserialize_eq, wellFormed_append base declared,
    Wire.message_append base]

/-- The same for a type with a payload, which either is there or is not what the
action names. -/
theorem Serializer.Decodes.deserialize_append {T : Type} {serializer : Serializer T}
    {value : List UInt8 → T} (decodes : serializer.Decodes value)
    (reads : serializer.size ≤ input.length →
      ∀ trailing, value (input ++ trailing) = value input)
    (base : kMessageSize ≤ input.length)
    (declared : (Wire.header input).payloadSize.toNat ≤ input.length)
    (typed : Wire.action input = serializer.action → serializer.size ≤ input.length)
    (trailing : List UInt8) :
    serializer.deserialize (input ++ trailing) = serializer.deserialize input := by
  have action := Wire.action_append (Nat.le_trans (by decide) base) trailing
  rw [decodes.deserialize, decodes.deserialize, action]
  simp only [wellFormed_append base declared]
  by_cases same : Wire.action input = serializer.action
  · have fits := typed same
    have longer : serializer.size ≤ (input ++ trailing).length :=
      Nat.le_trans fits (by rw [List.length_append]; exact Nat.le_add_right ..)
    simp only [same, fits, longer, reads fits]
  · simp only [same, false_and, and_false, if_false]

end Edges

/-- No decoder takes the input. -/
structure RejectedByAll (input : List UInt8) : Prop where
  message : Message.deserialize input = .ok none
  login : LoginMessage.deserialize input = .ok none
  ping : PingMessage.deserialize input = .ok none
  acknowledge : AcknowledgeMessage.deserialize input = .ok none

theorem RejectedByAll.of_not_wellFormed {input : List UInt8} (shape : ¬ WellFormed input) :
    RejectedByAll input where
  message := by rw [Message.deserialize_eq, if_neg shape]
  login := by rw [LoginMessage.deserialize_eq, if_neg fun accepted => shape accepted.1]
  ping := by rw [PingMessage.deserialize_eq, if_neg fun accepted => shape accepted.1]
  acknowledge := by rw [AcknowledgeMessage.deserialize_eq, if_neg fun accepted => shape accepted.1]

/-- All decoders return the same on both inputs. -/
structure DecodedAlike (input input' : List UInt8) : Prop where
  message : Message.deserialize input = Message.deserialize input'
  login : LoginMessage.deserialize input = LoginMessage.deserialize input'
  ping : PingMessage.deserialize input = PingMessage.deserialize input'
  acknowledge : AcknowledgeMessage.deserialize input = AcknowledgeMessage.deserialize input'

/-- A datagram that no decoder takes in part and that each takes for itself when
other bytes follow. -/
structure Framed (datagram : List UInt8) : Prop where
  cut : ∀ count < datagram.length, RejectedByAll (datagram.take count)
  followed : ∀ trailing, DecodedAlike (datagram ++ trailing) datagram

/-- A datagram that declares its own length, and is of the size its action
calls for. -/
theorem Framed.of_declared {datagram : List UInt8} (base : kMessageSize ≤ datagram.length)
    (declared : (Wire.header datagram).payloadSize.toNat = datagram.length)
    (login : Wire.action datagram = .login → kLoginMessageSize ≤ datagram.length)
    (ping : Wire.action datagram = .ping → kPingMessageSize ≤ datagram.length)
    (acknowledge : Wire.action datagram = .acknowledge → kAckMessageSize ≤ datagram.length) :
    Framed datagram where
  cut _ shorter := .of_not_wellFormed (not_wellFormed_take (Nat.le_of_eq declared.symm) shorter)
  followed trailing :=
    { message := Message.deserialize_append base (Nat.le_of_eq declared) trailing
      login := Serializer.decodes_login.deserialize_append Wire.login_append base
        (Nat.le_of_eq declared) login trailing
      ping := Serializer.decodes_ping.deserialize_append Wire.ping_append base
        (Nat.le_of_eq declared) ping trailing
      acknowledge := Serializer.decodes_acknowledge.deserialize_append Wire.acknowledge_append base
        (Nat.le_of_eq declared) acknowledge trailing }

/-- `m` is encoded into the span, as a datagram that is framed. -/
def EncodesFramed {T : Type} (serializer : Serializer T) (m : T) (output : Span) (mem : Memory) :
    Prop :=
  ∃ m' mem', serializer.serialize m output mem = .ok (serializer.size, m', mem') ∧
    (window mem' output.data serializer.size).length = serializer.size ∧
    Framed (window mem' output.data serializer.size)

theorem Serializer.Encodes.framed {T : Type} {serializer : Serializer T} {fields : T → List UInt8}
    (encodes : serializer.Encodes fields) {m : T} {output : Span} {mem : Memory}
    (room : serializer.size + kMessageHeaderSize ≤ output.size) (inside : output.Inside mem)
    (framed : ∀ datagram, datagram.length = serializer.size →
      Wire.action datagram = (serializer.message m).action →
      (Wire.header datagram).payloadSize.toNat = datagram.length → Framed datagram) :
    EncodesFramed serializer m output mem := by
  simp only [Span.Inside] at inside
  refine ⟨_, _, encodes.sealed m output mem (by omega) (by omega), ?_⟩
  generalize window mem (output.data + serializer.size) kMessageHeaderSize = stale
  rw [encodes.window_frame m _ (by omega)]
  have length := encodes.length_frame m (Wire.sealedHeader (serializer.message m) (fields m) stale)
  refine ⟨length, framed _ length (Wire.action_frame ..) ?_⟩
  rw [Wire.header_frame, length, encodes.toNat_payloadSize]

/-- A datagram cut short is rejected, and one that others follow is decoded as
if they were not there. -/
theorem framing {output : Span} {mem : Memory} (inside : output.Inside mem) :
    (∀ login : LoginMessage, login.message.action = .login →
      kLoginMessageSize + kMessageHeaderSize ≤ output.size →
      EncodesFramed .login login output mem) ∧
    (∀ ping : PingMessage, ping.message.action = .ping →
      kPingMessageSize + kMessageHeaderSize ≤ output.size →
      EncodesFramed .ping ping output mem) ∧
    (∀ ack : AcknowledgeMessage, ack.message.action = .acknowledge →
      kAckMessageSize + kMessageHeaderSize ≤ output.size →
      EncodesFramed .acknowledge ack output mem) := by
  refine ⟨fun login typed room => ?_, fun ping typed room => ?_, fun ack typed room => ?_⟩
  · refine Serializer.encodes_login.framed room inside fun datagram length action declared => ?_
    have here : Wire.action datagram = .login := action.trans typed
    refine .of_declared (length ▸ by decide) declared (fun _ => length.ge) ?_ ?_ <;> rw [here] <;>
      exact fun other => nomatch other
  · refine Serializer.encodes_ping.framed room inside fun datagram length action declared => ?_
    have here : Wire.action datagram = .ping := action.trans typed
    refine .of_declared (length ▸ by decide) declared ?_ (fun _ => length.ge) ?_ <;> rw [here] <;>
      exact fun other => nomatch other
  · refine Serializer.encodes_acknowledge.framed room inside
      fun datagram length action declared => ?_
    have here : Wire.action datagram = .acknowledge := action.trans typed
    refine .of_declared (length ▸ by decide) declared ?_ ?_ (fun _ => length.ge) <;> rw [here] <;>
      exact fun other => nomatch other

/-- An acknowledge in the middle of a block. -/
theorem framing_acknowledge :
    EncodesFramed .acknowledge { messageId := 99 } ⟨3, 44⟩ (List.replicate 49 0xAA) :=
  (framing (by decide)).2.2 _ rfl (by decide)

/-! ## Staying inside the span -/

/-- Encoding `m` into a span leaves a short one alone and is otherwise done
within it: the block is the span, so that any access beside it is a fault, and
behind the datagram the bytes stay as they are. -/
structure StaysInside {T : Type} (serializer : Serializer T) (m : T) (output : List UInt8) :
    Prop where
  short : output.length < serializer.size →
    serializer.serialize m ⟨0, output.length⟩ output = .ok (0, m, output)
  inside : serializer.size ≤ output.length → ∃ n m' output',
    serializer.serialize m ⟨0, output.length⟩ output = .ok (n, m', output') ∧
      output'.length = output.length ∧
      output'.drop serializer.size = output.drop serializer.size

theorem Serializer.Encodes.staysInside_iff {T : Type} {serializer : Serializer T}
    {fields : T → List UInt8} (encodes : serializer.Encodes fields) (m : T)
    (output : List UInt8) :
    StaysInside serializer m output ↔
      output.length < serializer.size ∨
        serializer.size + kMessageHeaderSize ≤ output.length := by
  constructor
  · intro stays
    by_contra between
    obtain ⟨room, cut⟩ := not_or.mp between
    obtain ⟨n, m', output', run, -⟩ := stays.inside (Nat.not_lt.mp room)
    have read : serializer.serialize m ⟨0, output.length⟩ output = .error .outOfBounds :=
      encodes.outOfBounds (Nat.not_lt.mp room) (by simp only; omega) (by simp only; omega)
    cases run.symm.trans read
  · intro spare
    refine ⟨fun cut => encodes.short cut, fun room => ?_⟩
    have block : 0 + serializer.size + kMessageHeaderSize ≤ output.length := by omega
    have written := encodes.length_frame m (Wire.sealedHeader (serializer.message m) (fields m)
      (window output (0 + serializer.size) kMessageHeaderSize))
    have fits : 0 + (Wire.frame (Wire.sealedHeader (serializer.message m) (fields m)
        (window output (0 + serializer.size) kMessageHeaderSize)) (serializer.message m)
        (fields m)).length ≤ output.length := by
      rw [written]
      omega
    exact ⟨_, _, _, encodes.sealed m ⟨0, output.length⟩ output room block, length_overwrite fits,
      drop_overwrite fits (by rw [Nat.zero_add, written])⟩

/-- An encoder stays inside its span if and only if that is too short for the
message or has 14 bytes to spare: in between the hash is read from beyond. -/
theorem serialize_stays_inside_iff (output : List UInt8) :
    (∀ login, StaysInside .login login output ↔
      output.length < kLoginMessageSize ∨
        kLoginMessageSize + kMessageHeaderSize ≤ output.length) ∧
    (∀ ping, StaysInside .ping ping output ↔
      output.length < kPingMessageSize ∨
        kPingMessageSize + kMessageHeaderSize ≤ output.length) ∧
    (∀ ack, StaysInside .acknowledge ack output ↔
      output.length < kAckMessageSize ∨
        kAckMessageSize + kMessageHeaderSize ≤ output.length) :=
  ⟨fun login => Serializer.encodes_login.staysInside_iff login output,
    fun ping => Serializer.encodes_ping.staysInside_iff ping output,
    fun ack => Serializer.encodes_acknowledge.staysInside_iff ack output⟩

/-- A span that just fits a login is read past its end. -/
theorem login_reads_past_its_span :
    ¬ StaysInside .login {} (List.replicate 32 0) := by
  intro stays
  have spare := (Serializer.encodes_login.staysInside_iff _ _).mp stays
  exact absurd spare (by decide)

end UdpGame
