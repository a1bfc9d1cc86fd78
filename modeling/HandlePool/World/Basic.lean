import HandlePool.Pool.Basic
import HandlePool.Config.Basic
import HandlePool.Target
import HandlePool.Reclaim.Clock
import HandlePool.Reclaim.Grace
import HandlePool.Reclaim.Orphans
import HandlePool.Session.Answer
/-!
# Worlds: pools sharing a clock, a grace queue and an orphan tracker

A world is a set of pools that share one configuration, one clock, one backend, one grace
queue for evicted resources and one orphan tracker for handles nobody holds. Callers hold
handles under names; a handle is held while a name or an entry of a live pool has it. When
the last holder lets go, the handle's registration is released: its notice is posted, or
after shutdown its resource is closed at once.

Both background paths close a resource through its one-shot guard. For the tracker a
cleanup ends well unless the backend refused the close or panicked; a resource that was already
closed counts as cleaned up. While it runs, the tracker's loop receives posted notices one at a
time (`receive`). The context shuts the grace queue down and then the tracker; a caller holding
one of them may shut it down alone (`stopCloser`, `stopTracker`).

The backend opens resources numbered 1, 2, … Whether it opens on a target, and how each of its
resources answers a close, are its `Answers`, any at all: a close may be refused or may panic.
Each answer may read one of two switches a session can flip. The sessions' own backend
(`Answers.switched`) refuses to open (`connection refused by <authority>`) or to close
(`close refused by <authority>`) exactly while switched to, and never panics.
-/

namespace HandlePool

/-- How a backend answers. Given the open switch, its factory's answer to opening on a target
for a pool's backend properties is the reason it refused, or the label of the new resource;
given the close switch, a resource's answer to a close is done, a refusal, or a panic. -/
structure Answers where
  opens : Bool → Target → Properties → Except String (Option String)
  reply : Bool → Resource → CloseReply

/-- The sessions' backend: it refuses exactly while switched to, labels what it opens with the
property `mock.tag`, and never panics. -/
def Answers.switched : Answers where
  opens refuse t props :=
    if refuse then .error ("connection refused by " ++ t.authority) else .ok (props.get? "mock.tag")
  reply refuse r := if refuse then .refused ("close refused by " ++ r.peer) else .done

/-- The backend the pools of a world open resources with. -/
structure Backend where
  /-- The resources opened so far, in serial order. -/
  resources : Resources := []
  refuseOpen : Bool := false
  refuseClose : Bool := false
  /-- How it answers; no step changes this. -/
  answers : Answers := .switched

namespace Backend

/-- How the backend answers a close of `r`. -/
def reply (b : Backend) (r : Resource) : CloseReply := b.answers.reply b.refuseClose r

/-- How the backend's factory answers opening on `t` for a pool's properties `props`. -/
def opening (b : Backend) (t : Target) (props : Properties) : Except String (Option String) :=
  b.answers.opens b.refuseOpen t props

/-- Passes the resource `serial` through its close guard. -/
def close (serial : Nat) (b : Backend) : CloseAttempt × Backend :=
  let (a, rs) := b.resources.closeOnce serial b.reply
  (a, { b with resources := rs })

/-- The cleanup of a handle nobody holds: close its resource. It ends well unless the
backend refused or panicked. -/
def cleanup (serial : Nat) (b : Backend) : Bool × Backend :=
  let (a, b) := b.close serial
  (a.isOk, b)

/-- Opens a resource on a target for a pool with backend properties `props`, unless the
factory refuses; the resource takes the next serial and the factory's label. -/
def openOn (b : Backend) (t : Target) (props : Properties) : Except String (Resource × Backend) :=
  match b.opening t props with
  | .error reason => .error reason
  | .ok tag =>
    let r : Resource :=
      { serial := b.resources.length + 1, target := t.display, peer := t.authority, tag }
    .ok (r, { b with resources := b.resources ++ [r] })

end Backend

/-- Pools and everything they share. -/
structure World where
  config : Config
  clock : Clock := {}
  backend : Backend := {}
  grace : GraceQueue
  orphans : Orphans Nat := {}
  /-- The pools by index; a dropped pool leaves `none`. -/
  pools : List (Option Pool) := []
  /-- Handles callers hold, by name. -/
  held : Named Handle := []
  /-- Principals entered by nested `runAs`, innermost first. -/
  scope : Scope := []

namespace World

/-- A world with one pool, on a clock of the given kind, with a backend answering as given
(the sessions' backend unless said otherwise); no worker runs yet. -/
def create (config : Config) (kind : ClockKind) (identity : Option IdentitySource)
    (answers : Answers := .switched) : World :=
  { config, clock := { kind }, backend := { answers },
    grace := { delay := config.deferredCloseDelayMs,
               closeOnShutdown := config.closePendingOnShutdown },
    pools := [some { identity }] }

/-- The live pool with an index. -/
def pool? (w : World) (i : Nat) : Option Pool := (w.pools[i]?).join

/-- Replaces the pool with an index. -/
def setPool (w : World) (i : Nat) (p : Pool) : World := { w with pools := w.pools.set i (some p) }

/-- Whether a caller's name or an entry of a live pool holds the handle. -/
def holds (w : World) (h : Handle) : Bool :=
  w.held.any (·.2 == h) || w.pools.any fun p? =>
    match p? with
    | some p => p.holds h
    | none => false

/-- Lets a grace queue operation act on the backend. -/
def withGrace (f : GraceQueue × Backend → GraceQueue × Backend) (w : World) : World :=
  let (q, b) := f (w.grace, w.backend)
  { w with grace := q, backend := b }

/-- Lets a tracker operation act on the backend. -/
def withOrphans (f : Orphans Nat × Backend → Orphans Nat × Backend) (w : World) : World :=
  let (o, b) := f (w.orphans, w.backend)
  { w with orphans := o, backend := b }

/-- A holder of `h` let go: if no holder is left, the handle's registration is released. -/
def letGo (h : Handle) (w : World) : World :=
  if w.holds h then w else w.withOrphans (Orphans.post Backend.cleanup ⟨h.registration, h.serial⟩)

/-- Lets go of several handles in turn. -/
def letGoAll (hs : List Handle) (w : World) : World := hs.foldl (fun w h => w.letGo h) w

/-- Holds `h` under a caller's name, letting go of what the name held before. -/
def hold (name : String) (h : Handle) (w : World) : World :=
  let (held, old) := w.held.bind name h
  let w := { w with held := held }
  match old with
  | some o => w.letGo o
  | none => w

/-- Hands the resource `serial` to the grace queue, stamped with the clock's reading. -/
def evict (serial : Nat) (w : World) : World :=
  w.withGrace (GraceQueue.enqueue Backend.close serial w.clock.elapsed)

/-- Passes the resource `serial` through its close guard now. -/
def closeResource (serial : Nat) (w : World) : CloseAttempt × World :=
  let (a, b) := w.backend.close serial
  (a, { w with backend := b })

/-- Starts the tracker's loop, then the sweeper. -/
def start (w : World) : World := { w with orphans := w.orphans.start, grace := w.grace.start }

/-- Shuts the grace queue down alone, as a caller holding the context's closer may. -/
def stopCloser (w : World) : World := w.withGrace (GraceQueue.shutdown Backend.close)

/-- Shuts the tracker down alone, as a caller holding the context's tracker may. -/
def stopTracker (w : World) : World := w.withOrphans (Orphans.shutdown Backend.cleanup)

/-- Shuts the grace queue down, then the tracker. -/
def shutdown (w : World) : World := w.stopCloser.stopTracker

/-- Finalizes the posted notices; answers how many there were. -/
def runPending (w : World) : Nat × World :=
  let (n, os) := Orphans.drain Backend.cleanup (w.orphans, w.backend)
  (n, { w with orphans := os.1, backend := os.2 })

/-- Closes the evicted resources whose grace delay has passed; answers how many were taken
from the queue. -/
def sweep (w : World) : Nat × World :=
  let (n, qs) := GraceQueue.sweep Backend.close w.clock.elapsed (w.grace, w.backend)
  (n, { w with grace := qs.1, backend := qs.2 })

/-- The tracker's loop, while it runs, receives the oldest posted notice and finalizes it. -/
def receive (w : World) : World :=
  if w.orphans.isRunning then w.withOrphans (Orphans.receive Backend.cleanup) else w

/-- Whether a background worker runs. -/
def running (w : World) : Bool := w.orphans.isRunning || w.grace.sweeping

/-- The workers' work, done whenever a waiting step looks: the tracker's loop finalizes what
was posted, then the sweeper sweeps. -/
def settle (w : World) : World :=
  let w := if w.orphans.isRunning then w.runPending.2 else w
  if w.grace.sweeping then w.sweep.2 else w

/-- Time passing between two looks of a waiting step. -/
def tick (w : World) : World := { w with clock := w.clock.tick }

/-- The world's gauges: each pool's size (absent once dropped), resources pending in the
grace queue, registrations tracked, and the backend's closes of each resource. -/
def gauges (w : World) : Gauges :=
  [("closes", .counts w.backend.resources.closeCounts),
    ("len", .list (w.pools.map fun p? =>
      match p? with
      | some p => .num p.size
      | none => .absent)),
    ("pending", .num w.grace.pending), ("tracked", .num w.orphans.tracked)]

/-- The gauges and the workers' counters, as a waiting step watches them. -/
def meters (w : World) : Gauges :=
  w.gauges ++ [("closed", .num w.grace.closed.toNat), ("completed", .num w.orphans.completed.toNat),
    ("failed", .num w.grace.failed.toNat), ("finalizer_failed", .num w.orphans.failed.toNat)]

/-- The gauges, unless a worker runs. -/
def view (w : World) : Option Gauges := if w.running then none else some w.gauges

/-- A pool's statistics, with the counters of the workers it shares. -/
def statistics (w : World) (p : Pool) : Statistics :=
  { counters := p.counters.snapshot, entries := p.size,
    finalizerTracked := w.orphans.tracked, finalizerCompleted := w.orphans.completed.toNat,
    finalizerFailed := w.orphans.failed.toNat, pendingCloses := w.grace.pending,
    deferredClosed := w.grace.closed.toNat, deferredCloseFailures := w.grace.failed.toNat }

end World

end HandlePool
