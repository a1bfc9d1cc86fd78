import HandlePool.Reclaim.Orphans
import HandlePool.Session.Answer
/-!
# Cleanup sessions: an orphan tracker on its own

A cleanup session registers scripted cleanups with an orphan tracker and holds each
registration under one or more names, which share it. When the last name lets go, the
registration's notice is posted, or after shutdown finalized at once. A scripted cleanup
counts how often it ran and then succeeds, fails or panics as it was told to.

A registration is held as a ticket: its place in the order of registration, which names its
cleanup, and the number the tracker gave it, which may repeat once the tracker's counter has
wrapped.

Gauges: `tracked` registrations, cleanups `completed` and `failed`, and the `runs` of each
cleanup in registration order.
-/

namespace HandlePool

/-- The scripted cleanups of a session, in registration order: how each behaves and how
often each ran. -/
structure Chores where
  behaviors : List Behavior := []
  runs : List Nat := []
deriving DecidableEq, Repr

namespace Chores

/-- Adds the cleanup of a new registration. -/
def add (c : Chores) (b : Behavior) : Chores :=
  { behaviors := c.behaviors ++ [b], runs := c.runs ++ [0] }

/-- Runs the cleanup of the `k`-th registration: it counts the run, then ends as scripted. -/
def run (k : Nat) (c : Chores) : Bool × Chores :=
  (c.behaviors[k - 1]? == some .succeeds,
    { c with runs := c.runs.set (k - 1) (c.runs.getD (k - 1) 0 + 1) })

end Chores

/-- A registration as a session holds it: its place in the order of registration, from 1, and
the number the tracker gave it. -/
structure Ticket where
  place : Nat
  id : UInt64
deriving DecidableEq, Repr

/-- One step of a cleanup session. -/
inductive CleanupStep where
  /-- Registers a cleanup that behaves as given and holds it under a name. -/
  | register (name : String) (behavior : Behavior)
  /-- Holds the registration under `source` also under `name`. -/
  | share (source name : String)
  /-- Lets go of a name. -/
  | release (name : String)
  /-- The number of the registration held under a name. -/
  | number (name : String)
  | runPending
  | shutdown
  | isRunning
  | start
  /-- Waits until the gauges show the given readings. -/
  | wait (goal : List (String × Option Reading))
  /-- A step that could not be read. -/
  | invalid (message : String)
deriving Repr

/-- A tracker, its scripted cleanups, and the names holding registrations. -/
structure CleanupSession where
  orphans : Orphans Nat := {}
  chores : Chores := {}
  held : Named Ticket := []
deriving Repr

namespace CleanupSession

/-- The session's gauges. -/
def gauges (s : CleanupSession) : Gauges :=
  [("completed", .num s.orphans.completed.toNat), ("failed", .num s.orphans.failed.toNat),
    ("runs", .counts s.chores.runs), ("tracked", .num s.orphans.tracked)]

/-- The gauges, unless the tracker's loop runs. -/
def view (s : CleanupSession) : Option Gauges :=
  if s.orphans.isRunning then none else some s.gauges

/-- Lets a tracker operation act on the cleanups. -/
def withOrphans (f : Orphans Nat × Chores → Orphans Nat × Chores) (s : CleanupSession) :
    CleanupSession :=
  let (o, c) := f (s.orphans, s.chores)
  { s with orphans := o, chores := c }

/-- One name let go of a registration: when no name holds it any more, its notice is posted. -/
def letGo (t : Ticket) (s : CleanupSession) : CleanupSession :=
  if s.held.any (·.2 == t) then s else s.withOrphans (Orphans.post Chores.run ⟨t.id, t.place⟩)

/-- Holds a registration under `name`, letting go of what the name held before. -/
def hold (name : String) (t : Ticket) (s : CleanupSession) : CleanupSession :=
  let (held, old) := s.held.bind name t
  let s := { s with held := held }
  match old with
  | some o => s.letGo o
  | none => s

/-- The loop's work, done whenever a waiting step looks. -/
def settle (s : CleanupSession) : CleanupSession :=
  if s.orphans.isRunning then s.withOrphans fun os => (Orphans.drain Chores.run os).2 else s

/-- The registration held under a name. -/
def lookup (s : CleanupSession) (name : String) : Except Fault Ticket :=
  match s.held.lookup name with
  | some t => .ok t
  | none => .error (.unknownName "registration" name)

/-- Runs one step. -/
def step (s : CleanupSession) : CleanupStep → Outcome × CleanupSession
  | .register name b =>
    let (id, o) := s.orphans.register
    let t : Ticket := ⟨s.chores.behaviors.length + 1, id⟩
    let s := { s with orphans := o, chores := s.chores.add b }
    (.value (.count id.toNat), s.hold name t)
  | .share source name =>
    match s.lookup source with
    | .ok t => (.value .unit, s.hold name t)
    | .error f => (.refused f, s)
  | .release name =>
    let (held, old) := s.held.unbind name
    match old with
    | some t => (.value (.flag true), { s with held := held }.letGo t)
    | none => (.value (.flag false), s)
  | .number name =>
    match s.lookup name with
    | .ok t => (.value (.count t.id.toNat), s)
    | .error f => (.refused f, s)
  | .runPending =>
    let (n, os) := Orphans.drain Chores.run (s.orphans, s.chores)
    (.value (.count n), { s with orphans := os.1, chores := os.2 })
  | .shutdown => (.value .unit, s.withOrphans (Orphans.shutdown Chores.run))
  | .isRunning => (.value (.flag s.orphans.isRunning), s)
  | .start => (.value .unit, { s with orphans := s.orphans.start })
  | .wait goal =>
    match s.gauges.unknownKey? goal with
    | some k => (.refused (.unknownGauge k), s)
    | none =>
      let (met, s) := watch settle (fun s => s) gauges goal waitLooks s
      (.value (.flag met), s)
  | .invalid m => (.refused (.malformed m), s)

/-- Runs a script on a fresh tracker. -/
def run (steps : List CleanupStep) : List Answer :=
  (runScript step view steps {}).1

end CleanupSession

end HandlePool
