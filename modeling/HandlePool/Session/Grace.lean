import HandlePool.Reclaim.Clock
import HandlePool.Reclaim.Grace
import HandlePool.Session.Answer
/-!
# Grace sessions: a grace queue on its own

A grace session opens scripted resources, hands them to a grace queue on a manual clock, and
moves the clock. A scripted resource closes as it was told to: it succeeds, its backend
refuses (`close refused by <target>`), or its backend panics (`close of <target> panicked`);
the behaviour can be changed at any time before the close.

Gauges: resources `pending` in the queue, closes by the queue that `closed` a resource or
`failed`, and the backend's `closes` of each resource in serial order.
-/

namespace HandlePool

/-- The scripted resources of a session: what was opened and how each behaves when closed,
in serial order. -/
structure Bench where
  resources : Resources := []
  behaviors : List Behavior := []
deriving DecidableEq, Repr

namespace Bench

/-- How the backend answers a close of `r`. -/
def reply (b : Bench) (r : Resource) : CloseReply :=
  match b.behaviors[r.serial - 1]? with
  | some .fails => .refused ("close refused by " ++ r.target)
  | some .panics => .panicked ("close of " ++ r.target ++ " panicked")
  | _ => .done

/-- Passes the resource `serial` through its close guard. -/
def close (serial : Nat) (b : Bench) : CloseAttempt × Bench :=
  let (a, rs) := b.resources.closeOnce serial b.reply
  (a, { b with resources := rs })

/-- Opens a resource on `target` that behaves as given; answers its serial. -/
def create (b : Bench) (target : String) (behavior : Behavior) : Nat × Bench :=
  let serial := b.resources.length + 1
  (serial, { resources := b.resources ++ [⟨serial, target, target, none, false, 0⟩],
             behaviors := b.behaviors ++ [behavior] })

end Bench

/-- One step of a grace session. -/
inductive GraceStep where
  /-- Opens a resource on a target, behaving as given, under a name. -/
  | create (name target : String) (behavior : Behavior)
  | setBehavior (name : String) (behavior : Behavior)
  | enqueue (name : String)
  | closeOnce (name : String)
  | isClosed (name : String)
  | describe (name : String)
  | advance (ms : Nat)
  | setElapsed (ms : Nat)
  | sweep
  | shutdown
  | delay
  | start
  | isRunning
  /-- Waits until the gauges show the given readings. -/
  | wait (goal : List (String × Option Reading))
  /-- A step that could not be read. -/
  | invalid (message : String)
deriving Repr

/-- A grace queue, its clock, its scripted resources, and their names. -/
structure GraceSession where
  clock : Clock := {}
  grace : GraceQueue
  bench : Bench := {}
  names : Named Nat := []
deriving Repr

namespace GraceSession

/-- The session's gauges. -/
def gauges (s : GraceSession) : Gauges :=
  [("closed", .num s.grace.closed.toNat), ("closes", .counts s.bench.resources.closeCounts),
    ("failed", .num s.grace.failed.toNat), ("pending", .num s.grace.pending)]

/-- The gauges, unless the sweeper runs. -/
def view (s : GraceSession) : Option Gauges :=
  if s.grace.sweeping then none else some s.gauges

/-- Lets a queue operation act on the resources. -/
def withGrace (f : GraceQueue × Bench → GraceQueue × Bench) (s : GraceSession) : GraceSession :=
  let (q, b) := f (s.grace, s.bench)
  { s with grace := q, bench := b }

/-- The sweeper's work, done whenever a waiting step looks. -/
def settle (s : GraceSession) : GraceSession :=
  if s.grace.sweeping then s.withGrace fun qs => (GraceQueue.sweep Bench.close s.clock.elapsed qs).2
  else s

/-- The resource under a name. -/
def lookup (s : GraceSession) (name : String) : Except Fault Nat :=
  match s.names.lookup name with
  | some serial => .ok serial
  | none => .error (.unknownName "resource" name)

/-- Runs a step on the resource under a name. -/
def onResource (s : GraceSession) (name : String)
    (f : Nat → Outcome × GraceSession) : Outcome × GraceSession :=
  match s.lookup name with
  | .ok serial => f serial
  | .error e => (.refused e, s)

/-- Runs one step. -/
def step (s : GraceSession) : GraceStep → Outcome × GraceSession
  | .create name target b =>
    let (serial, bench) := s.bench.create target b
    (.value (.count serial), { s with bench := bench, names := (s.names.bind name serial).1 })
  | .setBehavior name b => s.onResource name fun serial =>
    (.value .unit, { s with bench := { s.bench with
      behaviors := s.bench.behaviors.set (serial - 1) b } })
  | .enqueue name => s.onResource name fun serial =>
    (.value .unit, s.withGrace (GraceQueue.enqueue Bench.close serial s.clock.elapsed))
  | .closeOnce name => s.onResource name fun serial =>
    let (a, bench) := s.bench.close serial
    let s := { s with bench := bench }
    match a with
    | .skipped => (.value (.flag false), s)
    | .closed => (.value (.flag true), s)
    | .failed e => (.failed e, s)
    | .panicked m => (.panicked m, s)
  | .isClosed name => s.onResource name fun serial =>
    (.value (.flag (s.bench.resources.isClosed serial)), s)
  | .describe name => s.onResource name fun serial =>
    (.value (.text ((s.bench.resources.find? serial).map Resource.describe |>.getD "")), s)
  | .advance ms =>
    let s := { s with clock := s.clock.advance ms }
    (.value (.count s.clock.elapsed), s)
  | .setElapsed ms =>
    let s := { s with clock := s.clock.setElapsed ms }
    (.value (.count s.clock.elapsed), s)
  | .sweep =>
    let (n, qs) := GraceQueue.sweep Bench.close s.clock.elapsed (s.grace, s.bench)
    (.value (.count n), { s with grace := qs.1, bench := qs.2 })
  | .shutdown => (.value .unit, s.withGrace (GraceQueue.shutdown Bench.close))
  | .delay => (.value (.count s.grace.delay), s)
  | .start => (.value .unit, { s with grace := s.grace.start })
  | .isRunning => (.value (.flag s.grace.sweeping), s)
  | .wait goal =>
    match s.gauges.unknownKey? goal with
    | some k => (.refused (.unknownGauge k), s)
    | none =>
      let (met, s) := watch settle (fun s => s) gauges goal waitLooks s
      (.value (.flag met), s)
  | .invalid m => (.refused (.malformed m), s)

/-- Runs a script on a fresh grace queue with a delay, which closes what is pending at
shutdown or not. -/
def run (delay : Nat) (closeOnShutdown : Bool) (steps : List GraceStep) : List Answer :=
  (runScript step view steps { grace := { delay, closeOnShutdown } }).1

end GraceSession

end HandlePool
