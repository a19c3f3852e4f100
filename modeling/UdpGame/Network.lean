import UdpGame.Codec
import UdpGame.Lib.UnorderedMap

/-!
# Datagrams

The buffers and messages of `Network.h` and `SendMessage`.  What the programs
take from outside is explicit: `Inet` is the address conversion of the socket
library, and an `Env` holds what one call finds there (the clock, the outcome of
the send, the iteration order of the hash map).
-/

namespace UdpGame

open ByteWindow

/-! ## The world outside -/

/-- `steady_clock::time_point`, in nanoseconds. -/
abbrev Time : Type := Int

def milliseconds (count : Int) : Time := count * 1000000

/-- `duration_cast<milliseconds>(duration).count()`. -/
def toMilliseconds (duration : Time) : Int := duration.tdiv 1000000

theorem toMilliseconds_pos {duration : Time} :
    0 < toMilliseconds duration ↔ milliseconds 1 ≤ duration := by
  change 0 < Int.tdiv duration 1000000 ↔ (1000000 : Int) ≤ duration
  rcases Int.le_total 0 duration with nonneg | nonpos
  · rw [Int.tdiv_eq_ediv_of_nonneg nonneg]
    omega
  · have back : Int.tdiv duration 1000000 = -(-duration / 1000000) := by
      rw [← Int.tdiv_eq_ediv_of_nonneg (by omega), Int.neg_tdiv, Int.neg_neg]
    rw [back]
    omega

/-- What `WSAStartup` comes back with, and the `wVersion` of the data it has filled
in. -/
structure Startup where
  result : Int := 0
  wVersion : UInt16 := 0x0202
  deriving DecidableEq, Repr

def EXIT_FAILURE : Nat := 1

/-- The constructor of `WinSock`: the code it exits with, if it does. -/
def WinSock.construct (startup : Startup) : Option Nat :=
  if startup.result ≠ 0 then some EXIT_FAILURE
  else if startup.wVersion >>> 8 ≠ 2 ∨ startup.wVersion &&& 0xff ≠ 2 then some EXIT_FAILURE
  else none

/-- It returns when it finds the version it asks for. -/
theorem WinSock.construct_default : construct {} = none := by decide

theorem WinSock.eq_of_construct {startup : Startup} {code : Nat}
    (exits : construct startup = some code) : code = EXIT_FAILURE := by
  unfold construct at exits
  split at exits
  · exact (Option.some.inj exits).symm
  · split at exits
    · exact (Option.some.inj exits).symm
    · cases exits

/-- `inet_ntop` and `inet_pton` for `AF_INET`: reading a printed address gives
it back. -/
structure Inet where
  ntop : Address → String
  pton : String → Option Address
  pton_ntop : ∀ address, pton (ntop address) = some address

theorem Inet.ntop_injective (inet : Inet) {a b : Address} (same : inet.ntop a = inet.ntop b) :
    a = b := by
  have read := congrArg inet.pton same
  rw [inet.pton_ntop, inet.pton_ntop] at read
  exact Option.some.inj read

/-- What a call finds in the world: the clock when it looks first and when it
is done, whether the socket takes the datagram, and in which order a loop meets
the entries of the hash map. -/
structure Env where
  now : Time := 0
  done : Time := now
  sent : Bool := true
  order : IterationOrder := .insertion

/-- The part of a `sockaddr_in` that names an endpoint. -/
structure SockAddr where
  address : Address
  port : UInt16
  deriving DecidableEq, Repr

def addressToString (inet : Inet) (address : Address) : String := inet.ntop address

def toSockAddr (inet : Inet) (address : String) (port : UInt32) : Checked (Option SockAddr) := do
  Checked.assert (port ≤ 65535)
  return (inet.pton address).map fun sin_addr => ⟨sin_addr, port.toUInt16⟩

theorem toSockAddr_of_le {inet : Inet} {address : String} {port : UInt32} (range : port ≤ 65535) :
    toSockAddr inet address port =
      .ok ((inet.pton address).map fun sin_addr => ⟨sin_addr, port.toUInt16⟩) := by
  rw [toSockAddr, Checked.assert_of range]
  rfl

theorem toSockAddr_eq_ok {inet : Inet} {address : String} {port : UInt32}
    {target : Option SockAddr} :
    toSockAddr inet address port = .ok target ↔
      port ≤ 65535 ∧
        (inet.pton address).map (fun sin_addr => ⟨sin_addr, port.toUInt16⟩) = target := by
  simp only [toSockAddr, Checked.bind_eq_ok, Checked.assert_eq_ok, Checked.pure_eq_ok,
    Except.ok.injEq, exists_const]

/-! ## Buffers -/

structure NetworkBuffer where
  mBuffer : Memory := List.replicate kNetworkBufferSize 0
  mSize : Nat := kNetworkBufferSize
  mOffset : Nat := 0
  deriving DecidableEq, Repr

namespace NetworkBuffer

/-- `Span<uint8_t>{ buffer.Data(), buffer.Capacity() }`. -/
def span (buffer : NetworkBuffer) : Span := ⟨0, buffer.mSize⟩

def setOffset (buffer : NetworkBuffer) (offset : Nat) : NetworkBuffer :=
  { buffer with mOffset := offset }

/-- The bytes of `Span<const uint8_t>(buffer.Data(), buffer.Size())`. -/
def bytes (buffer : NetworkBuffer) : List UInt8 := window buffer.mBuffer 0 buffer.mOffset

/-- A fresh buffer after `bytes` were written to its front. -/
def holding (bytes : List UInt8) : NetworkBuffer :=
  { mBuffer := overwrite (List.replicate kNetworkBufferSize 0) 0 bytes
    mOffset := bytes.length }

@[simp] theorem bytes_holding {bytes : List UInt8} (fits : bytes.length ≤ kNetworkBufferSize) :
    (holding bytes).bytes = bytes :=
  window_overwrite (by rw [List.length_replicate, Nat.zero_add]; exact fits)

end NetworkBuffer

/-- A message as the receive loop hands it on.  Its port comes out of `ntohs`,
so it fits 16 bits. -/
structure NetworkMessage where
  address : String
  port : UInt32
  buffer : NetworkBuffer
  port_le : port ≤ 65535
  deriving DecidableEq, Repr

theorem UInt16.toUInt32_le_max (port : UInt16) : port.toUInt32 ≤ 65535 := by
  rw [UInt32.le_iff_toNat_le, UInt16.toNat_toUInt32]
  exact Nat.le_of_lt_succ port.toNat_lt

/-- The message `UdpServer::Run` builds from a datagram. -/
def NetworkMessage.received (inet : Inet) (source : SockAddr) (bytes : List UInt8) :
    NetworkMessage where
  address := addressToString inet source.address
  port := source.port.toUInt32
  buffer := .holding bytes
  port_le := UInt16.toUInt32_le_max source.port

/-! ## Sending -/

/-- One call of `SendMessage`: its arguments, the address it resolved them to
and what it returned. -/
structure SendCall where
  address : String
  port : UInt32
  buffer : NetworkBuffer
  target : Option SockAddr
  result : Bool
  deriving DecidableEq, Repr

/-- A send to an address that does not resolve fails in `WSASendTo`. -/
def sendMessage (inet : Inet) (env : Env) (address : String) (port : UInt32)
    (buffer : NetworkBuffer) : Checked SendCall := do
  Checked.assert (buffer.mOffset ≤ kNetworkBufferSize)
  let target ← toSockAddr inet address port
  return { address, port, buffer, target, result := env.sent && target.isSome }

theorem sendMessage_eq {inet : Inet} {env : Env} {address : String} {port : UInt32}
    {buffer : NetworkBuffer} (small : buffer.mOffset ≤ kNetworkBufferSize)
    (range : port ≤ 65535) :
    sendMessage inet env address port buffer =
      .ok { address, port, buffer
            target := (inet.pton address).map fun sin_addr => ⟨sin_addr, port.toUInt16⟩
            result := env.sent && (inet.pton address).isSome } := by
  simp only [sendMessage, toSockAddr_of_le range, Checked.assert_of small, Checked.ok_bind,
    Checked.pure_eq_ok, Option.isSome_map]

/-- A send that returns had a port to send to. -/
theorem port_le_of_sendMessage {inet : Inet} {env : Env} {address : String} {port : UInt32}
    {buffer : NetworkBuffer} {call : SendCall}
    (sent : sendMessage inet env address port buffer = .ok call) : port ≤ 65535 := by
  simp only [sendMessage, Checked.bind_eq_ok, toSockAddr_eq_ok] at sent
  obtain ⟨-, -, -, ⟨range, -⟩, -⟩ := sent
  exact range

/-! ## Encoding into a fresh buffer -/

/-- What `Serialize` writes into a fresh buffer. -/
def Serializer.datagram {T : Type} (serializer : Serializer T) (fields : T → List UInt8) (m : T) :
    List UInt8 :=
  Wire.frame (Wire.sealedHeader (serializer.message m) (fields m)
    (List.replicate kMessageHeaderSize 0)) (serializer.message m) (fields m)

def LoginMessage.datagram (login : LoginMessage) : List UInt8 :=
  Serializer.login.datagram Wire.loginBytes login

def PingMessage.datagram (ping : PingMessage) : List UInt8 :=
  Serializer.ping.datagram Wire.pingBytes ping

def AcknowledgeMessage.datagram (ack : AcknowledgeMessage) : List UInt8 :=
  Serializer.acknowledge.datagram Wire.ackBytes ack

theorem Serializer.Encodes.length_datagram {T : Type} {serializer : Serializer T}
    {fields : T → List UInt8} (encodes : serializer.Encodes fields) (m : T) :
    (serializer.datagram fields m).length = serializer.size :=
  (Wire.length_frame ..).trans (encodes.size m).symm

theorem Serializer.Encodes.datagram_fits {T : Type} {serializer : Serializer T}
    {fields : T → List UInt8} (encodes : serializer.Encodes fields) (m : T) :
    (serializer.datagram fields m).length ≤ kNetworkBufferSize :=
  (encodes.length_datagram m).trans_le encodes.bounded

/-- How the game loops build a datagram: `Serialize` into a fresh buffer, then
`SetOffset` to what it returned. -/
def Serializer.encode {T : Type} (serializer : Serializer T) (m : T) :
    Checked NetworkBuffer := do
  let buffer : NetworkBuffer := {}
  let (size, _, mem) ← serializer.serialize m buffer.span buffer.mBuffer
  return { buffer with mBuffer := mem }.setOffset size

/-- A fresh buffer has room for every type, and zeros behind it. -/
theorem Serializer.Encodes.encode_eq {T : Type} {serializer : Serializer T}
    {fields : T → List UInt8} (encodes : serializer.Encodes fields)
    (room : serializer.size + kMessageHeaderSize ≤ kNetworkBufferSize) (m : T) :
    serializer.encode m = .ok (.holding (serializer.datagram fields m)) := by
  have stale : window (List.replicate kNetworkBufferSize (0 : UInt8)) (0 + serializer.size)
      kMessageHeaderSize = List.replicate kMessageHeaderSize 0 := by
    simp only [window, List.drop_replicate, List.take_replicate]
    congr 1
    omega
  have inside : 0 + serializer.size + kMessageHeaderSize ≤
      (List.replicate kNetworkBufferSize (0 : UInt8)).length := by
    rw [List.length_replicate]
    omega
  have run := encodes.sealed m ⟨0, kNetworkBufferSize⟩
    (List.replicate kNetworkBufferSize 0) (Nat.le_trans (Nat.le_add_right ..) room) inside
  simp only [stale] at run
  simp only [Serializer.encode, NetworkBuffer.span, run, Checked.ok_bind, Checked.pure_eq_ok,
    NetworkBuffer.setOffset, NetworkBuffer.holding, encodes.length_datagram]
  rfl

theorem LoginMessage.encode_eq (login : LoginMessage) :
    Serializer.login.encode login = .ok (.holding login.datagram) :=
  Serializer.encodes_login.encode_eq (by decide) login

theorem PingMessage.encode_eq (ping : PingMessage) :
    Serializer.ping.encode ping = .ok (.holding ping.datagram) :=
  Serializer.encodes_ping.encode_eq (by decide) ping

theorem AcknowledgeMessage.encode_eq (ack : AcknowledgeMessage) :
    Serializer.acknowledge.encode ack = .ok (.holding ack.datagram) :=
  Serializer.encodes_acknowledge.encode_eq (by decide) ack

/-! ## Dotted quads -/

def octetDigits (octet : UInt8) : List Char := Nat.toDigits 10 octet.toNat

/-- Read a decimal octet; only the digits that would be printed are taken. -/
def octet? (digits : List Char) : Option UInt8 :=
  let octet := UInt8.ofNat (Nat.ofDigitChars 10 digits 0)
  if octetDigits octet = digits then some octet else none

theorem octet?_octetDigits (octet : UInt8) : octet? (octetDigits octet) = some octet := by
  have value : Nat.ofDigitChars 10 (octetDigits octet) 0 = octet.toNat :=
    Nat.ofDigitChars_toDigits (by decide) (by decide)
  simp only [octet?, value, UInt8.ofNat_toNat, if_true]

theorem dot_not_mem_octetDigits (octet : UInt8) : '.' ∉ octetDigits octet := by
  intro member
  have digit := Nat.isDigit_of_mem_toDigits (by decide) (by decide) member
  exact absurd digit (by decide)

def printQuad (address : Address) : List Char :=
  ['.'].intercalate (address.bytes.map octetDigits)

def readQuad (text : List Char) : Option Address :=
  match text.splitOn '.' with
  | [a, b, c, d] => do return ⟨← octet? a, ← octet? b, ← octet? c, ← octet? d⟩
  | _ => none

theorem readQuad_printQuad (address : Address) : readQuad (printQuad address) = some address := by
  have parts : (printQuad address).splitOn '.' = address.bytes.map octetDigits := by
    refine List.splitOn_intercalate '.' ?_ (by simp [Address.bytes])
    intro part member
    rcases List.mem_map.mp member with ⟨octet, -, rfl⟩
    exact dot_not_mem_octetDigits octet
  simp only [readQuad, parts, Address.bytes, List.map_cons, List.map_nil, octet?_octetDigits]
  rfl

/-- The conversion between addresses and dotted quads. -/
def Inet.dottedQuad : Inet where
  ntop address := String.ofList (printQuad address)
  pton text := readQuad text.toList
  pton_ntop address := by rw [String.toList_ofList, readQuad_printQuad]

example : Inet.dottedQuad.ntop ⟨127, 0, 0, 1⟩ = "127.0.0.1" := by decide

end UdpGame
