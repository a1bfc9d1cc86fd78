import HandlePool.World.Lookup
import HandlePool.World.Eviction
import HandlePool.Text.Quoted
/-!
# Pool sessions: a whole world driven step by step

A pool session builds a world from a validated configuration, with no worker running, or
with both workers started on a manual or on the system clock. Steps name a pool by index
(the first pool is 0; `newPool` adds one) and handles by the names the script holds them
under. `runAs` runs nested steps with a principal pushed on the scope, pops one principal
when they are done, and answers the list of their answers. A step whose close panics answers
the panic, nested or not, and the steps after it run.

A lookup "as the current user" reads the target first, then asks the pool's identity source;
a pool without one refuses. An exclusive lookup draws its unique number after the identity is
known and before the key is derived, so a lookup that fails afterwards still uses it up.
-/

namespace HandlePool

/-- One step of a pool session. -/
inductive PoolStep where
  /-- Looks up a handle in a pool, shared or exclusive, and holds it under a name if given. -/
  | get (pool : Nat) (uri : String) (principal : Principal) (exclusive : Bool)
      (name : Option String)
  /-- The same, as the principal the pool's identity source names. -/
  | getCurrent (pool : Nat) (uri : String) (exclusive : Bool) (name : Option String)
  /-- Runs steps with a principal entered in scope. -/
  | runAs (principal : Principal) (steps : List PoolStep)
  | remove (pool : Nat) (handle : String)
  | close (pool : Nat) (handle : String)
  | closeAllShared (pool : Nat)
  | closeAllFiltered (pool : Nat) (filter : CloseFilter)
  /-- Holds the handle under `source` also under `name`. -/
  | share (source name : String)
  /-- Lets go of a name. -/
  | release (name : String)
  | same (a b : String)
  | isClosed (handle : String)
  | inspect (handle : String)
  | advance (ms : Nat)
  | setElapsed (ms : Nat)
  | clockElapsed
  | sweep
  | runPending
  /-- Switches the backend to refuse opening or closing, or back. -/
  | setSwitches (refuseOpen refuseClose : Option Bool)
  | shutdown
  | start
  | isRunning
  | statistics (pool : Nat)
  | workerStatistics
  | config (pool : Nat)
  | contextConfig
  | isEmpty (pool : Nat)
  | size (pool : Nat)
  | newPool (identity : Option IdentitySource)
  | dropPool (pool : Nat)
  /-- Waits until the gauges and counters show the given readings. -/
  | wait (goal : List (String × Option Reading))
  /-- A step that could not be read. -/
  | invalid (message : String)
deriving Repr

/-- How a session's workers are launched. -/
inductive Launch where
  /-- No worker runs until a step starts them; the clock is manual. -/
  | detached
  /-- Both workers run from the start, on a manual clock. -/
  | manualClock
  /-- Both workers run from the start, on the system clock. -/
  | systemClock
deriving DecidableEq, Repr

namespace World

/-- The error of a lookup "as the current user" in a pool without an identity source. -/
def noIdentitySource : Error := .configuration "no identity provider configured for the cache"

/-- Runs a step on a live pool. -/
def onPool (w : World) (i : Nat) (f : Pool → Outcome × World) : Outcome × World :=
  match w.pool? i with
  | some p => f p
  | none => (.refused (.unknownCache i), w)

/-- Runs a step on the handle held under a name. -/
def onHandle (w : World) (name : String) (f : Handle → Outcome × World) : Outcome × World :=
  match w.held.lookup name with
  | some h => f h
  | none => (.refused (.unknownName "handle" name), w)

/-- Runs a step that moves or reads a manual clock. -/
def onManualClock (w : World) (f : Fault) (g : Clock → Clock) : Outcome × World :=
  match w.clock.kind with
  | .manual =>
    let w := { w with clock := g w.clock }
    (.value (.count w.clock.elapsed), w)
  | .system => (.refused f, w)

/-- The answer of a lookup: the handle, held under `name` if given. -/
def answerLookup (w : World) (i : Nat) (p : Pool) (t : Target) (pr : Principal) (unique : Nat)
    (name : Option String) : Outcome × World :=
  match w.lookup i p t pr unique with
  | (.error e, w) => (.failed e, w)
  | (.ok h, w) =>
    let w := match name with
      | some n => w.hold n h
      | none => w
    let r := w.backend.resources.find? h.serial
    (.value (.lease h.serial (w.backend.resources.isClosed h.serial) (r.bind (·.tag))), w)

/-- Looks up as `pr`, drawing a unique number first for an exclusive lookup. -/
def lookupAs (w : World) (i : Nat) (p : Pool) (t : Target) (pr : Principal) (exclusive : Bool)
    (name : Option String) : Outcome × World :=
  if exclusive then
    let (u, p) := p.drawUnique
    (w.setPool i p).answerLookup i p t pr u name
  else w.answerLookup i p t pr 0 name

/-- The diagnostic text of a handle. -/
def debugText (serial : Nat) (target : String) (closed : Bool) : String :=
  "Handle \x7b id: HandleId(#" ++ toString serial ++ "), target: " ++ Text.quoted target ++
    ", closed: " ++ (if closed then "true" else "false") ++ " \x7d"

/-- The answer of a close through a handle. -/
def closeOutcome : CloseAttempt → Outcome
  | .skipped => .value (.flag false)
  | .closed => .value (.flag true)
  | .failed e => .failed e
  | .panicked m => .panicked m

/-- Runs one step that does not nest others. -/
def act (w : World) : PoolStep → Outcome × World
  | .get i uri pr exclusive name => w.onPool i fun p =>
    match Target.parse uri with
    | .error e => (.failed e, w)
    | .ok t => w.lookupAs i p t pr exclusive name
  | .getCurrent i uri exclusive name => w.onPool i fun p =>
    match Target.parse uri with
    | .error e => (.failed e, w)
    | .ok t =>
      match p.identity with
      | none => (.failed noIdentitySource, w)
      | some src =>
        match src.current w.scope with
        | .error e => (.failed e, w)
        | .ok pr => w.lookupAs i p t pr exclusive name
  | .runAs _ _ => (.nested [], w)
  | .remove i name => w.onPool i fun p => w.onHandle name fun h =>
    let (found, w) := w.remove i p h
    (.value (.flag found), w)
  | .close i name => w.onPool i fun p => w.onHandle name fun h =>
    let (a, w) := w.close i p h
    (closeOutcome a, w)
  | .closeAllShared i => w.onPool i fun p =>
    match w.closeAll i p with
    | (⟨_, some m⟩, w) => (.panicked m, w)
    | (⟨[], none⟩, w) => (.value .unit, w)
    | (⟨[e], none⟩, w) => (.failed e, w)
    | (⟨e :: _, none⟩, w) => (.failedSeveral e, w)
  | .closeAllFiltered i f => w.onPool i fun _ => (.failed (.unsupportedOperation f.describe), w)
  | .share source name => w.onHandle source fun h => (.value .unit, w.hold name h)
  | .release name =>
    let (held, old) := w.held.unbind name
    match old with
    | some h => (.value (.flag true), { w with held := held }.letGo h)
    | none => (.value (.flag false), w)
  | .same a b => w.onHandle a fun ha => w.onHandle b fun hb =>
    (.value (.flag (ha.serial == hb.serial)), w)
  | .isClosed name => w.onHandle name fun h =>
    (.value (.flag (w.backend.resources.isClosed h.serial)), w)
  | .inspect name => w.onHandle name fun h =>
    match w.backend.resources.find? h.serial with
    | some r => (.value (.inspection r.serial r.target r.peer r.closed
        (debugText r.serial r.target r.closed)), w)
    | none => (.refused (.unknownName "handle" name), w)
  | .advance ms => w.onManualClock .clockNotMovable (·.advance ms)
  | .setElapsed ms => w.onManualClock .clockNotMovable (·.setElapsed ms)
  | .clockElapsed => w.onManualClock .clockNotManual id
  | .sweep =>
    let (n, w) := w.sweep
    (.value (.count n), w)
  | .runPending =>
    let (n, w) := w.runPending
    (.value (.count n), w)
  | .setSwitches o c =>
    (.value .unit, { w with backend := { w.backend with
      refuseOpen := o.getD w.backend.refuseOpen, refuseClose := c.getD w.backend.refuseClose } })
  | .shutdown => (.value .unit, w.shutdown)
  | .start => (.value .unit, w.start)
  | .isRunning => (.value (.running w.orphans.isRunning w.grace.sweeping), w)
  | .statistics i => w.onPool i fun p => (.value (.statistics (w.statistics p)), w)
  | .workerStatistics =>
    (.value (.workers w.grace.pending w.grace.closed.toNat w.grace.failed.toNat w.orphans.tracked
      w.orphans.completed.toNat w.orphans.failed.toNat), w)
  | .config i => w.onPool i fun _ => (.value (.config w.config), w)
  | .contextConfig => (.value (.config w.config), w)
  | .isEmpty i => w.onPool i fun p => (.value (.flag (p.size == 0)), w)
  | .size i => w.onPool i fun p => (.value (.count p.size), w)
  | .newPool identity =>
    (.value (.count w.pools.length), { w with pools := w.pools ++ [some { identity }] })
  | .dropPool i => w.onPool i fun p => (.value (.flag true), w.dropPool i p)
  | .wait goal =>
    match w.meters.unknownKey? goal with
    | some k => (.refused (.unknownGauge k), w)
    | none =>
      let (met, w) := watch settle tick meters goal waitLooks w
      (.value (.flag met), w)
  | .invalid m => (.refused (.malformed m), w)

mutual

/-- Runs one step. -/
def runStep (w : World) : PoolStep → Outcome × World
  | .runAs pr steps =>
    let (answers, w') := runSteps { w with scope := pr :: w.scope } steps
    (.nested answers, { w' with scope := Scope.leave w'.scope })
  | s => w.act s

/-- Runs steps in order, answering each with its outcome and the gauges after it. -/
def runSteps (w : World) : List PoolStep → List Answer × World
  | [] => ([], w)
  | s :: ss =>
    let (o, w) := runStep w s
    let a := Answer.mk o w.view
    let (as, w) := runSteps w ss
    (a :: as, w)

end

end World

/-- Runs a pool session: validates the configuration, builds the world with the first pool's
identity source, launches its workers, and runs the steps. -/
def PoolStep.runSession (config : Config) (identity : Option IdentitySource) (launch : Launch)
    (steps : List PoolStep) : Except Error (List Answer) := do
  let c ← config.build
  let kind := match launch with
    | .systemClock => ClockKind.system
    | _ => ClockKind.manual
  let w := World.create c kind identity
  let w := match launch with
    | .detached => w
    | _ => w.start
  pure (w.runSteps steps).1

end HandlePool
