/-!
# Orphan tracker: cleanups that run when the last owner lets go

An object that must be cleaned up when nobody holds it any more is registered with the
tracker, which numbers registrations 1, 2, … with a 64-bit counter that wraps, and keeps the
numbers of those not yet finalized, one entry per number: a registration whose number is still
kept (after the counter wrapped) takes over that entry. When the last owner of a registered
object lets go, a notice carrying the registration's number and cleanup is posted; the tracker
finalizes notices in the order they were posted, either all of them when asked (`drain`) or
one at a time from its background loop (`receive`). After shutdown there is no loop left to
wait for, so a notice is finalized at once by whoever posted it.

Finalizing a notice forgets the entry of its number and runs its cleanup unless that cleanup
has already started: a cleanup runs at most once even if its notice arrives twice. A cleanup
that ends well counts as completed; one that fails or panics counts as failed.

Cleanups act on a state `σ` outside the tracker, through `run : κ → σ → Bool × σ`, which
answers whether the cleanup ended well. Each registration has a cleanup of its own, so a
cleanup names its registration.

* `register_tracked`: a registration adds a tracked number unless its number is still kept.
* `finalize_of_started`, `finalize_of_not_started`: what finalizing a notice does.
* `queue_post`, `queue_drain`, `queue_receive`: before shutdown a notice joins the back of the
  queue, a drain empties it, and the loop takes the oldest one off.
-/

namespace HandlePool

/-- The notice that a registered object lost its last owner. -/
structure Notice (κ : Type) where
  /-- The registration's number. -/
  id : UInt64
  /-- What to do for it. -/
  cleanup : κ
deriving DecidableEq, Repr

/-- The tracker's registrations, notices and counters. -/
structure Orphans (κ : Type) where
  /-- The numbers with an entry: registrations not yet finalized, one entry per number. -/
  registry : List UInt64 := []
  /-- Notices not yet finalized, oldest first. -/
  queue : List (Notice κ) := []
  /-- Cleanups that have started. -/
  started : List κ := []
  /-- The number the next registration gets; it wraps like a 64-bit word. -/
  nextId : UInt64 := 1
  /-- Cleanups that ended well, a 64-bit word that wraps. -/
  completed : UInt64 := 0
  /-- Cleanups that failed or panicked, a 64-bit word that wraps. -/
  failed : UInt64 := 0
  /-- Set by shutdown, never cleared. -/
  stopped : Bool := false
  /-- Whether the background loop was started and not yet stopped. -/
  working : Bool := false
deriving DecidableEq, Repr

namespace Orphans

variable {κ σ : Type}

/-- Registers an object; answers the registration's number. The number gets an entry, which
takes over the entry of an earlier registration with the same number. -/
def register (o : Orphans κ) : UInt64 × Orphans κ :=
  (o.nextId, { o with registry := o.registry.insert o.nextId, nextId := o.nextId + 1 })

/-- How many numbers have an entry. -/
def tracked (o : Orphans κ) : Nat := o.registry.length

variable [DecidableEq κ]

/-- Forgets the entry of a notice's number and runs its cleanup, unless it already started. -/
def finalize (run : κ → σ → Bool × σ) (n : Notice κ) (os : Orphans κ × σ) : Orphans κ × σ :=
  let o := { os.1 with registry := os.1.registry.erase n.id }
  if n.cleanup ∈ os.1.started then (o, os.2)
  else
    let o := { o with started := n.cleanup :: o.started }
    let (ok, s) := run n.cleanup os.2
    (if ok then { o with completed := o.completed + 1 } else { o with failed := o.failed + 1 }, s)

/-- Finalizes the notices of a list in order. -/
def finalizeAll (run : κ → σ → Bool × σ) : List (Notice κ) → Orphans κ × σ → Orphans κ × σ
  | [], os => os
  | n :: ns, os => finalizeAll run ns (finalize run n os)

/-- Finalizes every posted notice; answers how many there were. -/
def drain (run : κ → σ → Bool × σ) (os : Orphans κ × σ) : Nat × (Orphans κ × σ) :=
  (os.1.queue.length, finalizeAll run os.1.queue ({ os.1 with queue := [] }, os.2))

/-- The background loop receives the oldest posted notice, if any, and finalizes it. -/
def receive (run : κ → σ → Bool × σ) (os : Orphans κ × σ) : Orphans κ × σ :=
  match os.1.queue with
  | [] => os
  | n :: ns => finalize run n ({ os.1 with queue := ns }, os.2)

/-- The last owner of a registered object let go: post its notice, or after shutdown
finalize it at once. -/
def post (run : κ → σ → Bool × σ) (n : Notice κ) (os : Orphans κ × σ) : Orphans κ × σ :=
  if os.1.stopped then finalize run n os
  else ({ os.1 with queue := os.1.queue ++ [n] }, os.2)

/-- Stops the background loop and finalizes every posted notice. -/
def shutdown (run : κ → σ → Bool × σ) (os : Orphans κ × σ) : Orphans κ × σ :=
  (drain run ({ os.1 with stopped := true, working := false }, os.2)).2

omit [DecidableEq κ] in
/-- Starts the background loop, unless it was started before or the tracker shut down. -/
def start (o : Orphans κ) : Orphans κ :=
  if o.working || o.stopped then o else { o with working := true }

omit [DecidableEq κ] in
/-- Whether the background loop runs. -/
def isRunning (o : Orphans κ) : Bool := o.working && !o.stopped

omit [DecidableEq κ] in
theorem register_tracked (o : Orphans κ) :
    (o.register).2.tracked = o.tracked + if o.nextId ∈ o.registry then 0 else 1 := by
  unfold register tracked
  split
  · rename_i h
    simp [List.insert_of_mem h]
  · rename_i h
    simp [List.insert_of_not_mem h]

/-- Finalizing a notice whose cleanup started only forgets its number's entry. -/
theorem finalize_of_started (run : κ → σ → Bool × σ) (n : Notice κ) (os : Orphans κ × σ)
    (h : n.cleanup ∈ os.1.started) :
    finalize run n os = ({ os.1 with registry := os.1.registry.erase n.id }, os.2) := by
  unfold finalize
  rw [if_pos h]

/-- Finalizing a notice whose cleanup has not started forgets its number's entry, starts the
cleanup, runs it, and counts how it ended. -/
theorem finalize_of_not_started (run : κ → σ → Bool × σ) (n : Notice κ) (os : Orphans κ × σ)
    (h : n.cleanup ∉ os.1.started) :
    finalize run n os =
      ({ os.1 with
          registry := os.1.registry.erase n.id
          started := n.cleanup :: os.1.started
          completed := if (run n.cleanup os.2).1 then os.1.completed + 1 else os.1.completed
          failed := if (run n.cleanup os.2).1 then os.1.failed else os.1.failed + 1 },
        (run n.cleanup os.2).2) := by
  unfold finalize
  rw [if_neg h]
  rcases run n.cleanup os.2 with ⟨_ | _, s⟩ <;> rfl

theorem started_finalize (run : κ → σ → Bool × σ) (n : Notice κ) (os : Orphans κ × σ) :
    (finalize run n os).1.started =
      if n.cleanup ∈ os.1.started then os.1.started else n.cleanup :: os.1.started := by
  by_cases h : n.cleanup ∈ os.1.started
  · rw [finalize_of_started run n os h, if_pos h]
  · rw [finalize_of_not_started run n os h, if_neg h]

theorem queue_finalize (run : κ → σ → Bool × σ) (n : Notice κ) (os : Orphans κ × σ) :
    (finalize run n os).1.queue = os.1.queue := by
  by_cases h : n.cleanup ∈ os.1.started
  · rw [finalize_of_started run n os h]
  · rw [finalize_of_not_started run n os h]

theorem queue_finalizeAll (run : κ → σ → Bool × σ) (ns : List (Notice κ)) (os : Orphans κ × σ) :
    (finalizeAll run ns os).1.queue = os.1.queue := by
  induction ns generalizing os with
  | nil => rfl
  | cons n ns ih =>
    rw [finalizeAll, ih]
    exact queue_finalize run n os

/-- Before shutdown a notice joins the back of the queue. -/
theorem queue_post (run : κ → σ → Bool × σ) (n : Notice κ) (os : Orphans κ × σ)
    (h : os.1.stopped = false) : (post run n os).1.queue = os.1.queue ++ [n] := by
  simp [post, h]

/-- A drain leaves no notice behind. -/
theorem queue_drain (run : κ → σ → Bool × σ) (os : Orphans κ × σ) :
    (drain run os).2.1.queue = [] := by
  simp only [drain]
  exact queue_finalizeAll run os.1.queue _

theorem receive_of_queue_nil (run : κ → σ → Bool × σ) (os : Orphans κ × σ)
    (h : os.1.queue = []) : receive run os = os := by
  unfold receive
  rw [h]

theorem receive_of_queue_cons (run : κ → σ → Bool × σ) (os : Orphans κ × σ) {n : Notice κ}
    {ns : List (Notice κ)} (h : os.1.queue = n :: ns) :
    receive run os = finalize run n ({ os.1 with queue := ns }, os.2) := by
  unfold receive
  rw [h]

/-- Receiving takes the oldest notice off the queue. -/
theorem queue_receive (run : κ → σ → Bool × σ) (os : Orphans κ × σ) :
    (receive run os).1.queue = os.1.queue.tail := by
  cases h : os.1.queue with
  | nil => rw [receive_of_queue_nil run os h, h, List.tail_nil]
  | cons n ns => rw [receive_of_queue_cons run os h, queue_finalize, List.tail_cons]

omit [DecidableEq κ] in
/-- A tracker that shut down never starts its loop again. -/
theorem start_of_stopped (o : Orphans κ) (h : o.stopped = true) : o.start = o := by
  simp [start, h]

end Orphans

end HandlePool
