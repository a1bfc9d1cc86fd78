import HandlePool.Reclaim.Resource
/-!
# Grace queue: closing evicted resources after a delay

A resource evicted from a cache may still be in use by a caller that fetched it just before.
Rather than closing it at once, the pool hands it to a grace queue with the clock reading of
the eviction. A sweep closes, from the front, every entry whose grace delay has passed at the
sweep's reading, and stops at the first that has not: entries are appended with readings that
never decrease, so nothing behind that one is due either. Closes go through each resource's
one-shot guard; the queue counts those that closed a resource and those that failed or
panicked, and an entry whose resource was already closed counts as neither.

Shutting the queue down stops its sweeper and empties it, closing what was queued if the
queue was built to, and abandoning it otherwise. A resource handed over after shutdown is
closed at once, or abandoned, by the same rule.

The queue does not hold the resources themselves, only their serial numbers; closing is an
action `close : Nat → σ → CloseAttempt × σ` on whatever state `σ` owns them.

* `takeDue_append`: a sweep takes exactly the due prefix and keeps the rest in order.
* `queue_enqueue`, `queue_shutdown`, `start_of_stopped`: what handing over, shutting down and
  starting do to the queue.
-/

namespace HandlePool

/-- A resource waiting for its grace delay to pass. -/
structure Pending where
  serial : Nat
  /-- Clock reading when it was evicted. -/
  evictedAt : Nat
deriving DecidableEq, Repr

/-- The grace queue and its counters. -/
structure GraceQueue where
  /-- How long an evicted resource stays open, in ms. -/
  delay : Nat
  /-- Whether shutting down closes what is still queued. -/
  closeOnShutdown : Bool
  /-- Waiting resources, oldest first. -/
  queue : List Pending := []
  /-- Set by shutdown, never cleared. -/
  stopped : Bool := false
  /-- Whether the background sweeper runs. -/
  sweeping : Bool := false
  /-- Closes by this queue that closed a resource, a 64-bit word that wraps. -/
  closed : UInt64 := 0
  /-- Closes by this queue that failed or panicked, a 64-bit word that wraps. -/
  failed : UInt64 := 0
deriving DecidableEq, Repr

namespace GraceQueue

/-- Whether an entry's delay has passed at clock reading `now`. -/
def isDue (q : GraceQueue) (now : Nat) (p : Pending) : Bool := q.delay ≤ now - p.evictedAt

/-- Splits off the entries due at `now` from the front, up to the first that is not. -/
def takeDue (q : GraceQueue) (now : Nat) : List Pending × GraceQueue :=
  (q.queue.takeWhile (q.isDue now), { q with queue := q.queue.dropWhile (q.isDue now) })

/-- Counts one close made by the queue. -/
def tally (q : GraceQueue) : CloseAttempt → GraceQueue
  | .closed => { q with closed := q.closed + 1 }
  | .skipped => q
  | .failed _ | .panicked _ => { q with failed := q.failed + 1 }

/-- Closes each entry in turn, counting the outcomes. -/
def closeEach {σ : Type} (close : Nat → σ → CloseAttempt × σ) :
    List Pending → GraceQueue × σ → GraceQueue × σ
  | [], qs => qs
  | p :: ps, (q, s) =>
    let (a, s') := close p.serial s
    closeEach close ps (q.tally a, s')

/-- Closes the entries due at `now`; also answers how many were taken from the queue,
including those whose resource was already closed. -/
def sweep {σ : Type} (close : Nat → σ → CloseAttempt × σ) (now : Nat) (qs : GraceQueue × σ) :
    Nat × (GraceQueue × σ) :=
  let (due, q) := qs.1.takeDue now
  (due.length, closeEach close due (q, qs.2))

/-- Hands over the resource `serial`, evicted at `now`: it waits in the queue, or after
shutdown is closed at once or abandoned. -/
def enqueue {σ : Type} (close : Nat → σ → CloseAttempt × σ) (serial now : Nat)
    (qs : GraceQueue × σ) : GraceQueue × σ :=
  let q := qs.1
  if !q.stopped then ({ q with queue := q.queue ++ [⟨serial, now⟩] }, qs.2)
  else if q.closeOnShutdown then closeEach close [⟨serial, now⟩] qs
  else qs

/-- Starts the sweeper, unless it runs already or the queue was shut down. -/
def start (q : GraceQueue) : GraceQueue :=
  if q.sweeping || q.stopped then q else { q with sweeping := true }

/-- Stops the sweeper and empties the queue, closing or abandoning what was in it. -/
def shutdown {σ : Type} (close : Nat → σ → CloseAttempt × σ) (qs : GraceQueue × σ) :
    GraceQueue × σ :=
  let q := { qs.1 with stopped := true, sweeping := false, queue := [] }
  if qs.1.closeOnShutdown then closeEach close qs.1.queue (q, qs.2) else (q, qs.2)

/-- How many resources wait. -/
def pending (q : GraceQueue) : Nat := q.queue.length

theorem takeDue_append (q : GraceQueue) (now : Nat) :
    (q.takeDue now).1 ++ (q.takeDue now).2.queue = q.queue := by
  simp [takeDue, List.takeWhile_append_dropWhile]

theorem queue_tally (q : GraceQueue) (a : CloseAttempt) : (q.tally a).queue = q.queue := by
  cases a <;> rfl

theorem queue_closeEach {σ : Type} (close : Nat → σ → CloseAttempt × σ) (ps : List Pending)
    (q : GraceQueue) (s : σ) : (closeEach close ps (q, s)).1.queue = q.queue := by
  induction ps generalizing q s with
  | nil => rfl
  | cons p ps ih =>
    rw [closeEach, ih]
    exact queue_tally q _

theorem stopped_closeEach {σ : Type} (close : Nat → σ → CloseAttempt × σ) (ps : List Pending)
    (q : GraceQueue) (s : σ) : (closeEach close ps (q, s)).1.stopped = q.stopped := by
  induction ps generalizing q s with
  | nil => rfl
  | cons p ps ih =>
    rw [closeEach, ih]
    cases (close p.serial s).1 <;> rfl

theorem sweeping_closeEach {σ : Type} (close : Nat → σ → CloseAttempt × σ) (ps : List Pending)
    (q : GraceQueue) (s : σ) : (closeEach close ps (q, s)).1.sweeping = q.sweeping := by
  induction ps generalizing q s with
  | nil => rfl
  | cons p ps ih =>
    rw [closeEach, ih]
    cases (close p.serial s).1 <;> rfl

/-- Before shutdown a handed-over resource joins the back of the queue. -/
theorem queue_enqueue {σ : Type} (close : Nat → σ → CloseAttempt × σ) (serial now : Nat)
    (q : GraceQueue) (s : σ) (h : q.stopped = false) :
    (enqueue close serial now (q, s)).1.queue = q.queue ++ [⟨serial, now⟩] := by
  simp [enqueue, h]

/-- Shutdown leaves the queue empty and stopped, with no sweeper. -/
theorem queue_shutdown {σ : Type} (close : Nat → σ → CloseAttempt × σ) (qs : GraceQueue × σ) :
    (shutdown close qs).1.queue = [] ∧ (shutdown close qs).1.stopped = true ∧
      (shutdown close qs).1.sweeping = false := by
  unfold shutdown
  split
  · refine ⟨?_, ?_, ?_⟩
    · exact queue_closeEach close qs.1.queue _ qs.2
    · exact stopped_closeEach close qs.1.queue _ qs.2
    · exact sweeping_closeEach close qs.1.queue _ qs.2
  · exact ⟨rfl, rfl, rfl⟩

/-- A queue that was shut down never starts its sweeper again. -/
theorem start_of_stopped (q : GraceQueue) (h : q.stopped = true) : q.start = q := by
  simp [start, h]

end GraceQueue

end HandlePool
