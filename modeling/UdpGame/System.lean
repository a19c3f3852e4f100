import UdpGame.Client
import UdpGame.Registry
import Mathlib.Data.List.Perm.Subperm

/-!
# A server and its clients

One server, any number of clients and a network between them.  The network is
the list of everything that was sent: what is on it may be delivered at any
later time, any number of times or never, but only to the endpoint it was
addressed to.
-/

namespace UdpGame

/-- The endpoint of a socket address, as the programs write it. -/
def SockAddr.endpoint (inet : Inet) (sockAddr : SockAddr) : Endpoint :=
  (inet.ntop sockAddr.address, sockAddr.port.toUInt32)

theorem SockAddr.endpoint_inj {inet : Inet} {a b : SockAddr}
    (same : a.endpoint inet = b.endpoint inet) : a = b := by
  obtain ⟨address, port⟩ := a
  obtain ⟨address', port'⟩ := b
  have addresses := inet.ntop_injective (congrArg Prod.fst same)
  have ports := UInt16.toUInt32_inj.mp (congrArg Prod.snd same)
  cases addresses
  cases ports
  rfl

/-- The programs of a game and their parameters: every client knows the server's
endpoint, and no two programs share one. -/
structure Deployment (inet : Inet) (n : Nat) where
  serverParams : Params := {}
  server : SockAddr
  params : Fin n → Client.Params
  host : Fin n → Address
  clientAddress : ∀ i, (params i).clientAddress = inet.ntop (host i)
  clientPort_pos : ∀ i, 0 < (params i).clientPort
  clientPort_le : ∀ i, (params i).clientPort ≤ 65535
  serverAddress : ∀ i, (params i).serverAddress = inet.ntop server.address
  serverPort : ∀ i, (params i).serverPort = server.port.toUInt32
  distinct : ∀ i j, (params i).clientAddress = (params j).clientAddress →
    (params i).clientPort = (params j).clientPort → i = j
  apart : ∀ i, (params i).clientAddress = inet.ntop server.address →
    (params i).clientPort ≠ server.port.toUInt32
  few : n < 2 ^ 32 - 1

namespace Deployment

variable {inet : Inet} {n : Nat} (d : Deployment inet n)

/-- The endpoint a client is configured with. -/
def endpoint (i : Fin n) : Endpoint := ((d.params i).clientAddress, (d.params i).clientPort)

/-- The address its socket is bound to. -/
def sockAddr (i : Fin n) : SockAddr := ⟨d.host i, (d.params i).clientPort.toUInt16⟩

theorem endpoint_sockAddr (i : Fin n) : (d.sockAddr i).endpoint inet = d.endpoint i := by
  have port : (d.params i).clientPort.toUInt16.toUInt32 = (d.params i).clientPort := by
    have range := d.clientPort_le i
    rw [UInt32.le_iff_toNat_le] at range
    rw [← UInt32.toNat_inj, UInt16.toNat_toUInt32, UInt32.toNat_toUInt16]
    exact Nat.mod_eq_of_lt (Nat.lt_succ_of_le range)
  rw [endpoint, d.clientAddress, ← port]
  rfl

theorem endpoint_inj {i j : Fin n} (same : d.endpoint i = d.endpoint j) : i = j :=
  d.distinct i j (congrArg Prod.fst same) (congrArg Prod.snd same)

theorem sockAddr_inj {i j : Fin n} (same : d.sockAddr i = d.sockAddr j) : i = j :=
  d.endpoint_inj (by rw [← endpoint_sockAddr, ← endpoint_sockAddr, same])

theorem sockAddr_ne_server (i : Fin n) : d.sockAddr i ≠ d.server := by
  intro same
  have whole : d.endpoint i = d.server.endpoint inet := by rw [← endpoint_sockAddr, same]
  exact d.apart i (congrArg Prod.fst whole) (congrArg Prod.snd whole)

/-- A list of distinct clients' endpoints is short. -/
theorem length_lt {endpoints : List Endpoint} (distinct : endpoints.Nodup)
    (known : ∀ endpoint ∈ endpoints, ∃ i, d.endpoint i = endpoint) :
    endpoints.length < 2 ^ 32 - 1 := by
  have inside : endpoints ⊆ (List.finRange n).map d.endpoint := by
    intro endpoint member
    rcases known endpoint member with ⟨i, rfl⟩
    exact List.mem_map_of_mem (List.mem_finRange i)
  have short := (List.Nodup.subperm distinct inside).length_le
  rw [List.length_map, List.length_finRange] at short
  exact Nat.lt_of_le_of_lt short d.few

end Deployment

/-! ## Worlds and steps -/

/-- A datagram on the network. -/
structure Packet where
  target : SockAddr
  bytes : List UInt8
  deriving DecidableEq, Repr

/-- What a call of `SendMessage` puts on the network. -/
def SendCall.packet? (call : SendCall) : Option Packet :=
  if call.result then call.target.map fun target => ⟨target, call.buffer.bytes⟩ else none

def packets (calls : List SendCall) : List Packet := calls.filterMap SendCall.packet?

theorem packets_append (calls later : List SendCall) :
    packets (calls ++ later) = packets calls ++ packets later := List.filterMap_append

/-- A call that succeeds puts its datagram on the network. -/
theorem mem_packets_of_sent {call : SendCall} {target : SockAddr} (sent : call.result = true)
    (resolved : call.target = some target) :
    ⟨target, call.buffer.bytes⟩ ∈ packets [call] := by
  rw [packets, List.filterMap_cons_some (b := ⟨target, call.buffer.bytes⟩)]
  · exact List.mem_cons_self
  · rw [SendCall.packet?, sent, resolved]
    rfl

theorem mem_packets_singleton {call : SendCall} {packet : Packet}
    (member : packet ∈ packets [call]) :
    ∃ target, call.target = some target ∧ packet = ⟨target, call.buffer.bytes⟩ := by
  rcases List.mem_filterMap.mp member with ⟨call', only, made⟩
  rw [List.mem_singleton] at only
  subst only
  rw [SendCall.packet?] at made
  split at made
  · rcases Option.map_eq_some_iff.mp made with ⟨target, resolved, rfl⟩
    exact ⟨target, resolved, rfl⟩
  · cases made

structure World (n : Nat) where
  server : Game GameState
  clients : Fin n → Game Client.GameLoop
  sent : List Packet := []

section System

variable {inet : Inet} {n : Nat} (d : Deployment inet n)

def World.initial : World n where
  server := { loop := { mParams := d.serverParams } }
  clients i := { loop := .initial (d.params i) }

/-- One call into one of the programs.  A datagram comes from any source. -/
inductive Step : World n → World n → Prop
  | serverRecv {w : World n} {server : Game GameState} {calls : List SendCall}
      (datagram : Datagram) (arrived : ⟨d.server, datagram.bytes⟩ ∈ w.sent)
      (ran : Game.step inet (Server.gameLoop inet) (.recv datagram) w.server =
        .ok (server, calls)) :
      Step w { w with server := server, sent := w.sent ++ packets calls }
  | serverTick {w : World n} {server : Game GameState} {calls : List SendCall}
      (env : Nat → Env)
      (ran : Game.step inet (Server.gameLoop inet) (.tick env) w.server = .ok (server, calls)) :
      Step w { w with server := server, sent := w.sent ++ packets calls }
  | clientRecv {w : World n} {client : Game Client.GameLoop} {calls : List SendCall}
      (i : Fin n) (datagram : Datagram) (arrived : ⟨d.sockAddr i, datagram.bytes⟩ ∈ w.sent)
      (ran : Client.step inet (.recv datagram) (w.clients i) = .ok (client, calls)) :
      Step w { w with clients := Function.update w.clients i client
                      sent := w.sent ++ packets calls }
  | clientTick {w : World n} {client : Game Client.GameLoop} {calls : List SendCall}
      (i : Fin n) (env : Nat → Env) (last : Env)
      (ran : Client.step inet (.tick env last) (w.clients i) = .ok (client, calls)) :
      Step w { w with clients := Function.update w.clients i client
                      sent := w.sent ++ packets calls }

section Exists

variable {d} {w : World n}

/-- What is on the network can be delivered, and a program that returns from a
tick has sent its packets. -/
theorem exists_serverRecv (datagram : Datagram) (arrived : ⟨d.server, datagram.bytes⟩ ∈ w.sent) :
    ∃ w', Step d w w' ∧ w'.clients = w.clients ∧
      w'.server = { w.server with
        mEvents := w.server.mEvents ++ (datagram.event? inet).toList } :=
  ⟨_, .serverRecv datagram arrived (Game.step_recv ..), rfl, rfl⟩

theorem exists_serverTick {server : Game GameState} {calls : List SendCall} {env : Nat → Env}
    (ran : Game.step inet (Server.gameLoop inet) (.tick env) w.server = .ok (server, calls)) :
    ∃ w', Step d w w' ∧ w'.clients = w.clients ∧ w'.server = server ∧ packets calls ⊆ w'.sent :=
  ⟨_, .serverTick env ran, rfl, rfl, List.subset_append_right ..⟩

theorem exists_clientRecv (i : Fin n) (datagram : Datagram)
    (arrived : ⟨d.sockAddr i, datagram.bytes⟩ ∈ w.sent) :
    ∃ w', Step d w w' ∧ w'.server = w.server ∧
      w'.clients i = { w.clients i with
        mEvents := (w.clients i).mEvents ++ (datagram.event? inet).toList } :=
  ⟨_, .clientRecv i datagram arrived (Game.step_recv inet (Client.gameLoop inet) datagram _), rfl,
    Function.update_self ..⟩

theorem exists_clientTick (i : Fin n) {client : Game Client.GameLoop} {calls : List SendCall}
    {env : Nat → Env} {last : Env}
    (ran : Client.step inet (.tick env last) (w.clients i) = .ok (client, calls)) :
    ∃ w', Step d w w' ∧ w'.server = w.server ∧ w'.clients i = client ∧
      packets calls ⊆ w'.sent :=
  ⟨_, .clientTick i env last ran, rfl, Function.update_self .., List.subset_append_right ..⟩

end Exists

/-- The worlds some run leads to. -/
def Reachable (w : World n) : Prop := Relation.ReflTransGen (Step d) (World.initial d) w

end System

end UdpGame
