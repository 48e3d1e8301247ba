import NetOpsBench.Data.Run

/-!
# Leases of warm runtimes

A pool owns warm runtimes and leases each to one holder at a time. A lease that outlives its
deadline is reaped: its runtime is quarantined, and the holder may still call back. A record is
known by its number. How each teardown and provision ends, and what the clock says, is an input.

`LeasePool.acquire` is one pass of the loop in which a caller waits. A `LeaseSystem` adds the holders, who
act in any order with each other and with the reaper (`LeaseSystem.step`).
-/

namespace NetOpsBench.Simulator

structure SimulatorConfig where
  maxActiveRuntimes : Nat := 1
  orphanLeaseTtlSeconds : Nat := 3600
deriving DecidableEq, Repr

structure WarmRuntime where
  scale : String
  inUse : Bool := false
  leaseDeadline : ℚ := 0
  quarantined : Bool := false
deriving DecidableEq, Repr, Inhabited

/-- `allocated` is how many records there ever were, and `tornDown` are those whose teardown
succeeded. -/
structure LeasePool where
  records : Nat → WarmRuntime := fun _ => default
  allocated : Nat := 0
  runtimes : List (String × List Nat) := []
  tornDown : List Nat := []

/-! ## The dictionary of the pool -/

def recordsOf (scale : String) : List (String × List Nat) → List Nat
  | [] => []
  | (key, ids) :: entries => if key = scale then ids else recordsOf scale entries

/-- `runtimes.setdefault(scale, [])` -/
def setDefault (scale : String) : List (String × List Nat) → List (String × List Nat)
  | [] => [(scale, [])]
  | (key, ids) :: entries =>
    if key = scale then (key, ids) :: entries else (key, ids) :: setDefault scale entries

def updateRecords (scale : String) (f : List Nat → List Nat) :
    List (String × List Nat) → List (String × List Nat)
  | [] => []
  | (key, ids) :: entries =>
    if key = scale then (key, f ids) :: entries else (key, ids) :: updateRecords scale f entries

namespace LeasePool

variable (pool : LeasePool)

def ids : List Nat := pool.runtimes.flatMap (·.2)

/-- `_runtime_count` -/
def runtimeCount : Nat := (pool.runtimes.map (·.2.length)).sum

def modify (id : Nat) (f : WarmRuntime → WarmRuntime) : LeasePool :=
  { pool with records := Function.update pool.records id (f (pool.records id)) }

/-! ## The operations -/

def release (id : Nat) : LeasePool :=
  pool.modify id fun record => { record with inUse := false, leaseDeadline := 0 }

def refresh (config : SimulatorConfig) (id : Nat) (minSeconds now : ℚ) : LeasePool :=
  if (pool.records id).inUse ∧ !(pool.records id).quarantined then
    pool.modify id fun record =>
      { record with leaseDeadline := now + max (config.orphanLeaseTtlSeconds : ℚ) (minSeconds + 300) }
  else
    pool

/-- `_remove` -/
def remove (id : Nat) : LeasePool :=
  { pool with runtimes := updateRecords (pool.records id).scale (·.erase id) pool.runtimes }

/-- `quarantine`, and whether the teardown succeeded; if not, it raises. -/
def quarantine (teardown : Nat → Bool) (id : Nat) : LeasePool × Bool :=
  let marked := pool.modify id fun record =>
    { record with quarantined := true, inUse := false, leaseDeadline := 0 }
  if teardown id then
    ({ marked.remove id with tornDown := pool.tornDown ++ [id] }, true)
  else
    (marked, false)

/-- A loop that quarantines one record after the other, whatever becomes of each. -/
def quarantineEach (teardown : Nat → Bool) : List Nat → LeasePool → LeasePool
  | [], pool => pool
  | id :: ids, pool => quarantineEach teardown ids (pool.quarantine teardown id).1

def drain (scales : Option (List String)) (teardown : Nat → Bool) : LeasePool :=
  quarantineEach teardown
    ((pool.runtimes.filter fun entry => scales.all (entry.1 ∈ ·)).flatMap (·.2)) pool

def isStale (now : ℚ) (id : Nat) : Bool :=
  (pool.records id).inUse && (pool.records id).leaseDeadline ≠ 0 &&
    (pool.records id).leaseDeadline < now

def stale (now : ℚ) : List Nat := pool.ids.filter (pool.isStale now)

def reapOrphans (now : ℚ) (teardown : Nat → Bool) : LeasePool :=
  quarantineEach teardown (pool.stale now) pool

def isIdle (id : Nat) : Bool := !(pool.records id).inUse && !(pool.records id).quarantined

/-- The loop of `_make_capacity_for` over the candidates. -/
def evict (limit : Nat) (teardown : Nat → Bool) : List Nat → LeasePool → LeasePool
  | [], pool => pool
  | id :: ids, pool =>
    match pool.quarantine teardown id with
    | (pool, false) => evict limit teardown ids pool
    | (pool, true) => if pool.runtimeCount < limit then pool else evict limit teardown ids pool

/-- `_make_capacity_for` -/
def makeCapacityFor (limit : Nat) (scale : String) (teardown : Nat → Bool) : LeasePool :=
  if pool.runtimeCount < limit then
    pool
  else
    evict limit teardown
      (((pool.runtimes.filter (·.1 ≠ scale)).flatMap (·.2)).filter pool.isIdle) pool

def withScale (scale : String) : LeasePool :=
  { pool with runtimes := setDefault scale pool.runtimes }

/-- A new record under the scale. -/
def provision (scale : String) : LeasePool :=
  { pool with
    records := Function.update pool.records pool.allocated { scale }
    allocated := pool.allocated + 1
    runtimes := updateRecords scale (· ++ [pool.allocated]) pool.runtimes }

def grant (config : SimulatorConfig) (id : Nat) (now : ℚ) : LeasePool :=
  pool.modify id fun record =>
    { record with inUse := true, leaseDeadline := now + config.orphanLeaseTtlSeconds }

end LeasePool

/-- What one pass of the loop of `acquire` meets: the clock at the reaping and at the grant, and how
each teardown and the provision end. -/
structure AcquirePass where
  reapedAt : ℚ
  grantedAt : ℚ
  teardown : Nat → Bool
  provision : Except String Unit

inductive AcquireOutcome where
  | granted (id : Nat)
  | waiting
  | raised (error : String)
deriving DecidableEq, Repr

/-- One pass of the loop of `acquire`, which the lock makes one step. A pass that waits is followed by
another one, or by the timeout. -/
def LeasePool.acquire (config : SimulatorConfig) (scale : String) (pass : AcquirePass)
    (pool : LeasePool) : LeasePool × AcquireOutcome :=
  let pool := (pool.reapOrphans pass.reapedAt pass.teardown).withScale scale
  match (recordsOf scale pool.runtimes).find? pool.isIdle with
  | some id => (pool.grant config id pass.grantedAt, .granted id)
  | none =>
    let pool :=
      (pool.makeCapacityFor config.maxActiveRuntimes scale pass.teardown).withScale scale
    if pool.runtimeCount < config.maxActiveRuntimes then
      match pass.provision with
      | .error error => (pool, .raised error)
      | .ok () =>
        ((pool.provision scale).grant config pool.allocated pass.grantedAt,
          .granted pool.allocated)
    else
      (pool, .waiting)

/-! ## The pool and its holders -/

/-- A lease is known by its number, the place of its record in `granted`. It is live until its holder
releases or quarantines it, also when it was reaped. `listed` are the records that a reaper outside of
the lock found stale. -/
structure LeaseSystem where
  pool : LeasePool := {}
  granted : List Nat := []
  live : Nat → Option Nat := fun _ => none
  listed : List Nat := []

inductive LeaseEvent where
  | acquire (scale : String) (pass : AcquirePass)
  | release (lease : Nat)
  | refresh (lease : Nat) (minSeconds now : ℚ)
  | quarantine (lease : Nat) (teardown : Nat → Bool)
  | drain (scales : Option (List String)) (teardown : Nat → Bool)
  /-- A reaper lists the stale records. -/
  | list (now : ℚ)
  /-- It quarantines one that was listed. -/
  | reap (id : Nat) (teardown : Nat → Bool)

namespace LeaseSystem

variable (config : SimulatorConfig) (system : LeaseSystem)

/-- A holder gives its lease back, with what it does to the pool. -/
def settle (lease : Nat) (f : Nat → LeasePool → LeasePool) : LeaseSystem :=
  match system.live lease with
  | some id =>
    { system with
      pool := f id system.pool
      live := Function.update system.live lease none }
  | none => system

def step : LeaseEvent → LeaseSystem
  | .acquire scale pass =>
    match system.pool.acquire config scale pass with
    | (pool, .granted id) =>
      { system with
        pool
        granted := system.granted ++ [id]
        live := Function.update system.live system.granted.length (some id) }
    | (pool, _) => { system with pool }
  | .release lease => system.settle lease fun id pool => pool.release id
  | .refresh lease minSeconds now =>
    match system.granted[lease]? with
    | some id => { system with pool := system.pool.refresh config id minSeconds now }
    | none => system
  | .quarantine lease teardown => system.settle lease fun id pool => (pool.quarantine teardown id).1
  | .drain scales teardown => { system with pool := system.pool.drain scales teardown }
  | .list now => { system with listed := system.listed ++ system.pool.stale now }
  | .reap id teardown =>
    if id ∈ system.listed then { system with pool := (system.pool.quarantine teardown id).1 }
    else system

def run (events : List LeaseEvent) : LeaseSystem := events.foldl (step config) system

end LeaseSystem

end NetOpsBench.Simulator
