import UdpGame.LoginAgreement
import UdpGame.Process

/-!
# The loops on the network

A server and its clients again, this time with the loops they are in: one step
is a pass of one of them.  A pass sends nothing before its tick, which is its
end, so passes of several programs might as well happen one after the other.
The loops and the games reach the same worlds (`loops_reach_games`), and so
whatever holds of the games holds of the programs.
-/

namespace UdpGame

open UdpServer

namespace UdpServer

section Pass

variable {σ : Type} {ω : Type*} {inet : Inet} {callbacks : Callbacks σ ω} {interval : Time}
  {holds : σ → Prop}

theorem run_singleton (round : Round ω) (loop : Loop σ) :
    run inet callbacks interval [round] loop = pass inet callbacks interval round loop := by
  rw [run]
  cases passed : pass inet callbacks interval round loop with
  | error fault => rfl
  | ok after =>
      obtain ⟨next, loop', sends⟩ := after
      cases next with
      | again =>
          rw [Checked.ok_bind]
          simp only [run, Checked.pure_eq_ok, Checked.ok_bind, List.append_nil]
      | reading => rfl
      | stopped => rfl

/-- A pass is a run of the application, too. -/
theorem Steady.pass_eq_ok (steady : Steady inet callbacks holds) {round : Round ω} {loop : Loop σ}
    (held : holds loop.app) {next : Next} {loop' : Loop σ} {sends : List SendCall} :
    pass inet callbacks interval round loop = .ok (next, loop', sends) ↔
      Run.run (callbacks.step inet) (signals interval [round] loop.lastTick) loop.app =
          .ok (loop'.app, sends) ∧
        next = round.verdict ∧ loop'.lastTick = lastTickOf interval [round] loop.lastTick := by
  have ends : finish [round] = round.verdict := by
    rw [finish]
    cases round.verdict <;> rfl
  rw [← run_singleton, steady.run_eq_signals interval [round] loop held, Checked.bind_eq_ok, ends]
  constructor
  · intro ran
    obtain ⟨⟨app, sends'⟩, ran, same⟩ := ran
    cases same
    exact ⟨ran, rfl, rfl⟩
  · intro all
    obtain ⟨ran, rfl, last⟩ := all
    refine ⟨_, ran, ?_⟩
    rw [← last]
    rfl

/-- A pass that receives one datagram. -/
def receiving (datagram : Datagram) (lastTick : Time) (world : ω) : Round ω where
  select := .readable [.datagram datagram, .error WSAEWOULDBLOCK]
  now := lastTick
  world := world

/-- A pass that ticks. -/
def ticking (interval lastTick : Time) (world : ω) : Round ω where
  select := .timeout
  now := lastTick + interval + 1
  world := world

theorem signals_receiving (nonneg : 0 ≤ interval) (datagram : Datagram) (lastTick : Time)
    (world : ω) :
    signals interval [receiving datagram lastTick world] lastTick = [.recv datagram] := by
  simp [signals, receiving, Round.reads, Round.verdict, consumed, exitOf, nonneg]

theorem signals_ticking (lastTick : Time) (world : ω) :
    signals interval [ticking interval lastTick world] lastTick = [.tick world] := by
  have due : lastTick + interval + 1 - lastTick > interval := by
    rw [add_assoc, add_sub_cancel_left]
    exact Int.lt_succ interval
  simp [signals, ticking, Round.reads, Round.verdict, due]

/-- What the signals of a pass deliver it has read. -/
theorem mem_reads_of_mem_signals {round : Round ω} {lastTick : Time} {datagram : Datagram}
    (member : .recv datagram ∈ signals interval [round] lastTick) : datagram ∈ round.reads := by
  rw [signals, List.mem_append] at member
  rcases member with read | tick
  · obtain ⟨datagram', there, same⟩ := List.mem_map.mp read
    cases same
    exact there
  · revert tick
    cases round.verdict with
    | again =>
        dsimp only
        split <;> simp [signals]
    | reading => simp
    | stopped => simp

end Pass

end UdpServer

/-! ## Parties -/

/-- A program that is in `Run`, or has returned from it. -/
structure Party (σ : Type) where
  loop : Loop σ
  running : Bool := true

/-- The programs of a game, with their loops. -/
structure Loops (n : Nat) where
  server : Party (Game GameState)
  clients : Fin n → Party (Game Client.GameLoop)
  sent : List Packet := []

/-- The games in the loops. -/
def Loops.world {n : Nat} (v : Loops n) : World n where
  server := v.server.loop.app
  clients i := (v.clients i).loop.app
  sent := v.sent

section Loops

variable {inet : Inet} {n : Nat} (d : Deployment inet n) (interval : Time)

def Loops.initial : Loops n where
  server := { loop := { app := { loop := { mParams := d.serverParams } } } }
  clients i := { loop := { app := { loop := .initial (d.params i) } } }

/-- One pass of one of the loops.  What it reads has been sent to its program. -/
inductive Pass : Loops n → Loops n → Prop
  | server {v : Loops n} {loop : Loop (Game GameState)} {next : Next} {calls : List SendCall}
      (round : Round (Nat → Env)) (running : v.server.running = true)
      (arrived : ∀ datagram ∈ round.reads, ⟨d.server, datagram.bytes⟩ ∈ v.sent)
      (ran : pass inet (callbacks (Server.gameLoop inet)) interval round v.server.loop =
        .ok (next, loop, calls)) (whole : next ≠ .reading) :
      Pass v { v with server := { loop := loop, running := next = .again }
                      sent := v.sent ++ packets calls }
  | client {v : Loops n} {loop : Loop (Game Client.GameLoop)} {next : Next}
      {calls : List SendCall} (i : Fin n) (round : Round ((Nat → Env) × Env))
      (running : (v.clients i).running = true)
      (arrived : ∀ datagram ∈ round.reads, ⟨d.sockAddr i, datagram.bytes⟩ ∈ v.sent)
      (ran : pass inet (Client.callbacks inet) interval round (v.clients i).loop =
        .ok (next, loop, calls)) (whole : next ≠ .reading) :
      Pass v { v with clients := Function.update v.clients i { loop := loop, running := next = .again }
                      sent := v.sent ++ packets calls }

/-- What passes lead to. -/
def LoopsReachable (v : Loops n) : Prop :=
  Relation.ReflTransGen (Pass d interval) (Loops.initial d) v

variable {d} {interval}

/-! ## Passes are steps -/

/-- The server gets through the signals of a pass, step by step. -/
theorem exists_server_run {w : World n} (reached : Reachable d w)
    {signals : List (Signal (Nat → Env))}
    (arrived : ∀ datagram, .recv datagram ∈ signals → ⟨d.server, datagram.bytes⟩ ∈ w.sent) :
    ∃ server calls, Run.run ((callbacks (Server.gameLoop inet)).step inet) signals w.server =
        .ok (server, calls) ∧
      Reachable d { w with server := server, sent := w.sent ++ packets calls } := by
  induction signals generalizing w with
  | nil =>
      refine ⟨w.server, [], rfl, ?_⟩
      rw [packets, List.filterMap_nil, List.append_nil]
      exact reached
  | cons signal signals ih =>
      obtain ⟨⟨server, calls⟩, stepped⟩ := (system_never_faults reached).1 signal.input
      have step : Step d w { w with server := server, sent := w.sent ++ packets calls } := by
        cases signal with
        | recv datagram => exact .serverRecv datagram (arrived datagram List.mem_cons_self) stepped
        | tick env => exact .serverTick env stepped
      obtain ⟨server', calls', ran, reached'⟩ := ih (reached.tail step) fun datagram member =>
        List.mem_append_left _ (arrived datagram (List.mem_cons_of_mem signal member))
      rw [← step_callbacks] at stepped
      refine ⟨server', calls ++ calls',
        Run.run_cons_eq_ok.mpr ⟨server, calls, calls', stepped, ran, rfl⟩, ?_⟩
      rw [packets_append, ← List.append_assoc]
      exact reached'

theorem exists_client_run {w : World n} (reached : Reachable d w) (i : Fin n)
    {signals : List (Signal ((Nat → Env) × Env))}
    (arrived : ∀ datagram, .recv datagram ∈ signals → ⟨d.sockAddr i, datagram.bytes⟩ ∈ w.sent) :
    ∃ client calls, Run.run ((Client.callbacks inet).step inet) signals (w.clients i) =
        .ok (client, calls) ∧
      Reachable d { w with clients := Function.update w.clients i client
                           sent := w.sent ++ packets calls } := by
  induction signals generalizing w with
  | nil =>
      refine ⟨w.clients i, [], rfl, ?_⟩
      rw [packets, List.filterMap_nil, List.append_nil, Function.update_eq_self]
      exact reached
  | cons signal signals ih =>
      obtain ⟨⟨client, calls⟩, stepped⟩ :=
        (system_never_faults reached).2 i (Client.signalInput signal)
      have step : Step d w { w with clients := Function.update w.clients i client
                                    sent := w.sent ++ packets calls } := by
        cases signal with
        | recv datagram =>
            exact .clientRecv i datagram (arrived datagram List.mem_cons_self) stepped
        | tick world => exact .clientTick i world.1 world.2 stepped
      obtain ⟨client', calls', ran, reached'⟩ := ih (reached.tail step) fun datagram member =>
        List.mem_append_left _ (arrived datagram (List.mem_cons_of_mem signal member))
      rw [← Client.step_callbacks] at stepped
      simp only [Function.update_self] at ran
      refine ⟨client', calls ++ calls',
        Run.run_cons_eq_ok.mpr ⟨client, calls, calls', stepped, ran, rfl⟩, ?_⟩
      rw [packets_append, ← List.append_assoc]
      simp only [Function.update_idem] at reached'
      exact reached'

/-- A client in a new loop is a new client. -/
theorem Loops.world_update (v : Loops n) (i : Fin n) (party : Party (Game Client.GameLoop))
    (sent : List Packet) :
    Loops.world { v with clients := Function.update v.clients i party, sent := sent } =
      { v.world with clients := Function.update v.world.clients i party.loop.app
                     sent := sent } := by
  have clients : (fun j => (Function.update v.clients i party j).loop.app) =
      Function.update (fun j => (v.clients j).loop.app) i party.loop.app := by
    funext j
    exact Function.apply_update (fun _ (party : Party (Game Client.GameLoop)) => party.loop.app)
      v.clients i party j
  simp only [Loops.world, clients]

/-- A pass of a program whose reads have been sent gets through, and the games
are where they can get to without the loop. -/
theorem exists_server_pass {v : Loops n} (reached : Reachable d v.world)
    {round : Round (Nat → Env)}
    (arrived : ∀ datagram ∈ round.reads, ⟨d.server, datagram.bytes⟩ ∈ v.sent) :
    ∃ loop calls, pass inet (callbacks (Server.gameLoop inet)) interval round v.server.loop =
        .ok (round.verdict, loop, calls) ∧
      Reachable d { v.world with server := loop.app, sent := v.sent ++ packets calls } := by
  have heard : ∀ datagram, .recv datagram ∈ signals interval [round] v.server.loop.lastTick →
      ⟨d.server, datagram.bytes⟩ ∈ v.world.sent := fun datagram member =>
    arrived datagram (mem_reads_of_mem_signals member)
  obtain ⟨server, calls, ran, reached'⟩ := exists_server_run reached heard
  have steady := steady_callbacks inet (Server.gameLoop inet)
  exact ⟨⟨_, server⟩, calls, (steady.pass_eq_ok trivial).mpr ⟨ran, rfl, rfl⟩, reached'⟩

theorem exists_client_pass {v : Loops n} (reached : Reachable d v.world) (i : Fin n)
    {round : Round ((Nat → Env) × Env)}
    (arrived : ∀ datagram ∈ round.reads, ⟨d.sockAddr i, datagram.bytes⟩ ∈ v.sent) :
    ∃ loop calls, pass inet (Client.callbacks inet) interval round (v.clients i).loop =
        .ok (round.verdict, loop, calls) ∧
      Reachable d { v.world with clients := Function.update v.world.clients i loop.app
                                 sent := v.sent ++ packets calls } := by
  have heard : ∀ datagram, .recv datagram ∈ signals interval [round] (v.clients i).loop.lastTick →
      ⟨d.sockAddr i, datagram.bytes⟩ ∈ v.world.sent := fun datagram member =>
    arrived datagram (mem_reads_of_mem_signals member)
  obtain ⟨client, calls, ran, reached'⟩ := exists_client_run reached i heard
  have sound := (agreement_of_reachable reached).sound i
  exact ⟨⟨_, client⟩, calls, (Client.steady_callbacks.pass_eq_ok sound).mpr ⟨ran, rfl, rfl⟩,
    reached'⟩

theorem reachable_world {v : Loops n} (reached : LoopsReachable d interval v) :
    Reachable d v.world := by
  induction reached with
  | refl => exact .refl
  | tail _ pass ih =>
      cases pass with
      | server round running arrived ran whole =>
          obtain ⟨loop, calls, ran', reached'⟩ := exists_server_pass ih arrived
          cases ran'.symm.trans ran
          exact reached'
      | client i round running arrived ran whole =>
          obtain ⟨loop, calls, ran', reached'⟩ := exists_client_pass ih i arrived
          cases ran'.symm.trans ran
          rw [Loops.world_update]
          exact reached'

/-! ## Steps are passes -/

theorem forall_reads_receiving {ω : Type*} {holds : Datagram → Prop} {datagram : Datagram}
    (there : holds datagram) (lastTick : Time) (world : ω) :
    ∀ datagram' ∈ (receiving datagram lastTick world).reads, holds datagram' := by
  simpa [receiving, Round.reads, consumed] using there

theorem verdict_receiving {ω : Type*} (datagram : Datagram) (lastTick : Time) (world : ω) :
    (receiving datagram lastTick world).verdict = .again := by
  simp [receiving, Round.verdict, exitOf]

/-- A pass with one signal is that call of the server. -/
theorem exists_server_signal {v : Loops n} (running : v.server.running = true)
    (round : Round (Nat → Env)) {signal : Signal (Nat → Env)} (again : round.verdict = .again)
    (alone : signals interval [round] v.server.loop.lastTick = [signal])
    (arrived : ∀ datagram ∈ round.reads, ⟨d.server, datagram.bytes⟩ ∈ v.sent)
    {server : Game GameState} {calls : List SendCall}
    (ran : Game.step inet (Server.gameLoop inet) signal.input v.world.server =
      .ok (server, calls)) :
    ∃ v', Pass d interval v v' ∧ v'.clients = v.clients ∧ v'.server.running = true ∧
      v'.world = { v.world with server := server, sent := v.world.sent ++ packets calls } := by
  have steady := steady_callbacks inet (Server.gameLoop inet)
  rw [← step_callbacks] at ran
  have passed : pass inet (callbacks (Server.gameLoop inet)) interval round v.server.loop =
      .ok (.again, ⟨lastTickOf interval [round] v.server.loop.lastTick, server⟩, calls) := by
    refine (steady.pass_eq_ok trivial).mpr ⟨?_, again.symm, rfl⟩
    rw [alone]
    exact Run.run_cons_eq_ok.mpr ⟨server, calls, [], ran, rfl, (List.append_nil calls).symm⟩
  exact ⟨_, .server round running arrived passed (by simp), rfl, rfl, rfl⟩

theorem exists_client_signal {v : Loops n} (reached : Reachable d v.world) (i : Fin n)
    (running : (v.clients i).running = true) (round : Round ((Nat → Env) × Env))
    {signal : Signal ((Nat → Env) × Env)} (again : round.verdict = .again)
    (alone : signals interval [round] (v.clients i).loop.lastTick = [signal])
    (arrived : ∀ datagram ∈ round.reads, ⟨d.sockAddr i, datagram.bytes⟩ ∈ v.sent)
    {client : Game Client.GameLoop} {calls : List SendCall}
    (ran : Client.step inet (Client.signalInput signal) (v.world.clients i) =
      .ok (client, calls)) :
    ∃ v', Pass d interval v v' ∧ v'.server = v.server ∧
      ((∀ j, (v.clients j).running = true) → ∀ j, (v'.clients j).running = true) ∧
      v'.world = { v.world with clients := Function.update v.world.clients i client
                                sent := v.world.sent ++ packets calls } := by
  have sound := (agreement_of_reachable reached).sound i
  rw [← Client.step_callbacks] at ran
  have passed : pass inet (Client.callbacks inet) interval round (v.clients i).loop =
      .ok (.again, ⟨lastTickOf interval [round] (v.clients i).loop.lastTick, client⟩, calls) := by
    refine (Client.steady_callbacks.pass_eq_ok sound).mpr ⟨?_, again.symm, rfl⟩
    rw [alone]
    exact Run.run_cons_eq_ok.mpr ⟨client, calls, [], ran, rfl, (List.append_nil calls).symm⟩
  refine ⟨_, .client i round running arrived passed (by simp), rfl, fun up => ?_,
    Loops.world_update ..⟩
  exact (Function.forall_update_iff v.clients fun _ (party : Party (Game Client.GameLoop)) =>
    party.running = true).mpr ⟨rfl, fun j _ => up j⟩

/-- The loops can take every step of the games, one pass a step. -/
theorem exists_loops (nonneg : 0 ≤ interval) {w : World n} (reached : Reachable d w) :
    ∃ v, LoopsReachable d interval v ∧ v.world = w ∧ v.server.running = true ∧
      ∀ i, (v.clients i).running = true := by
  induction reached with
  | refl => exact ⟨Loops.initial d, .refl, rfl, rfl, fun _ => rfl⟩
  | tail before step ih =>
      obtain ⟨v, passes, rfl, running, up⟩ := ih
      cases step with
      | serverRecv datagram arrived ran =>
          obtain ⟨v', pass, same, running', world⟩ := exists_server_signal running
            (receiving datagram v.server.loop.lastTick fun _ => {}) (verdict_receiving ..)
            (signals_receiving nonneg ..) (forall_reads_receiving arrived _ _) ran
          exact ⟨v', passes.tail pass, world, running', same ▸ up⟩
      | serverTick env ran =>
          obtain ⟨v', pass, same, running', world⟩ := exists_server_signal running
            (ticking interval v.server.loop.lastTick env) rfl (signals_ticking ..)
            (fun _ read => absurd read List.not_mem_nil) ran
          exact ⟨v', passes.tail pass, world, running', same ▸ up⟩
      | clientRecv i datagram arrived ran =>
          obtain ⟨v', pass, same, up', world⟩ := exists_client_signal before i (up i)
            (receiving datagram (v.clients i).loop.lastTick (fun _ => {}, {}))
            (verdict_receiving ..) (signals_receiving nonneg ..)
            (forall_reads_receiving arrived _ _) ran
          exact ⟨v', passes.tail pass, world, same ▸ running, up' up⟩
      | clientTick i env last ran =>
          obtain ⟨v', pass, same, up', world⟩ := exists_client_signal before i (up i)
            (ticking interval (v.clients i).loop.lastTick (env, last)) rfl (signals_ticking ..)
            (fun _ read => absurd read List.not_mem_nil) ran
          exact ⟨v', passes.tail pass, world, same ▸ running, up' up⟩

/-- With an interval that `Run` takes, the worlds that the loops lead to are those of
the games. -/
theorem loops_reach_games (long : milliseconds 1 ≤ interval) (w : World n) :
    Reachable d w ↔ ∃ v, LoopsReachable d interval v ∧ v.world = w := by
  constructor
  · intro reached
    have nonneg : 0 ≤ interval := Int.le_trans (by decide : 0 ≤ milliseconds 1) long
    obtain ⟨v, passes, world, -⟩ := exists_loops nonneg reached
    exact ⟨v, passes, world⟩
  · intro loops
    obtain ⟨v, passes, rfl⟩ := loops
    exact reachable_world passes

theorem loops_reach_games_duo :
    ∃ v, LoopsReachable duo (milliseconds 30) v ∧
      (v.clients 0).loop.app.loop.mState = .loggedIn := by
  obtain ⟨w, reached, loggedIn⟩ := duo_logs_in
  have long : milliseconds 1 ≤ milliseconds 30 := by decide
  obtain ⟨v, passes, rfl⟩ := (loops_reach_games long w).mp reached
  exact ⟨v, passes, loggedIn⟩

/-- No pass of any of the programs ever faults. -/
theorem loops_never_fault {v : Loops n} (reached : LoopsReachable d interval v) :
    (∀ round : Round (Nat → Env),
      (∀ datagram ∈ round.reads, ⟨d.server, datagram.bytes⟩ ∈ v.sent) →
      ∃ loop calls, pass inet (callbacks (Server.gameLoop inet)) interval round v.server.loop =
        .ok (round.verdict, loop, calls)) ∧
    ∀ i, ∀ round : Round ((Nat → Env) × Env),
      (∀ datagram ∈ round.reads, ⟨d.sockAddr i, datagram.bytes⟩ ∈ v.sent) →
      ∃ loop calls, pass inet (Client.callbacks inet) interval round (v.clients i).loop =
        .ok (round.verdict, loop, calls) := by
  have world := reachable_world reached
  constructor
  · intro round arrived
    obtain ⟨loop, calls, ran, -⟩ := exists_server_pass world arrived
    exact ⟨loop, calls, ran⟩
  · intro i round arrived
    obtain ⟨loop, calls, ran, -⟩ := exists_client_pass world i arrived
    exact ⟨loop, calls, ran⟩

theorem loops_never_fault_duo :
    ∃ v, LoopsReachable duo (milliseconds 30) v ∧
      (v.clients 0).loop.app.loop.mState = .loggedIn ∧ ∃ loop calls,
        pass .dottedQuad (callbacks (Server.gameLoop .dottedQuad)) (milliseconds 30)
            (ticking (milliseconds 30) v.server.loop.lastTick fun _ => {}) v.server.loop =
          .ok (.again, loop, calls) := by
  have nonneg : 0 ≤ milliseconds 30 := by decide
  obtain ⟨w, reached, loggedIn⟩ := duo_logs_in
  obtain ⟨v, passes, rfl, -⟩ := exists_loops nonneg reached
  refine ⟨v, passes, loggedIn, ?_⟩
  exact (loops_never_fault passes).1 _ fun _ read => absurd read List.not_mem_nil

end Loops

end UdpGame
