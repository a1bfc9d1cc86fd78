import HandlePool.Proofs.Reclamation
/-!
# The grace window

A resource handed to the grace queue stays open until its delay has passed, and is closed by
the first sweep after that. A sweep only looks at the front of the queue: it takes entries while
they are due and stops at the first that is not. That this takes every due entry rests on the
order of the queue: entries are appended with the clock's reading, the clock never goes back
(a manual clock is only advanced or set forward, the system clock only ticks), so the queue is
in the order of eviction, and along it an entry being due makes every earlier one due. The
ledger records both facts (`Ledger.ordered`, `Ledger.stamped`) for every reachable world.

* `GraceQueue.takeWhile_eq_filter`, `GraceQueue.dropWhile_eq_filter`: on such a queue the due
  prefix is the set of due entries, and the rest is the set of the others.
* `sweep_takes_exactly_due`: in every reachable world, a sweep at the clock's reading `T` passes
  to their close guards exactly the entries with `T - evictedAt ≥ delay`, and keeps exactly the
  others; the subtraction never saturates, since no entry is stamped after `T`.
-/

namespace HandlePool

namespace GraceQueue

section Due

variable {l : List Pending} {f : Pending → Bool}

/-- Along a list on which a later entry passing `f` makes every earlier one pass it, the
prefix that passes is every entry that passes. -/
theorem takeWhile_eq_filter (hl : l.Pairwise fun p p' => f p' = true → f p = true) :
    l.takeWhile f = l.filter f := by
  induction l with
  | nil => rfl
  | cons p l ih =>
    rw [List.pairwise_cons] at hl
    by_cases hp : f p = true
    · rw [List.takeWhile_cons_of_pos hp, List.filter_cons_of_pos hp, ih hl.2]
    · -- the first entry fails, so every later one fails too
      rw [List.takeWhile_cons_of_neg hp, List.filter_cons_of_neg hp, eq_comm,
        List.filter_eq_nil_iff]
      exact fun p' hp' hf => hp (hl.1 p' hp' hf)

theorem dropWhile_eq_filter (hl : l.Pairwise fun p p' => f p' = true → f p = true) :
    l.dropWhile f = l.filter fun p => !f p := by
  induction l with
  | nil => rfl
  | cons p l ih =>
    rw [List.pairwise_cons] at hl
    by_cases hp : f p = true
    · rw [List.dropWhile_cons_of_pos hp, List.filter_cons_of_neg (by simp [hp]), ih hl.2]
    · -- the first entry fails, so every later one fails too
      have hrest : l.filter (fun p => !f p) = l := by
        rw [List.filter_eq_self]
        intro p' hp'
        have : f p' ≠ true := fun hf => hp (hl.1 p' hp' hf)
        simpa using this
      rw [List.dropWhile_cons_of_neg hp, List.filter_cons_of_pos (by simpa using hp), hrest]

end Due

/-- In a queue in the order of eviction, an entry due at `now` makes every earlier one due. -/
theorem due_pairwise (q : GraceQueue) (now : Nat)
    (hq : q.queue.Pairwise fun p p' => p.evictedAt ≤ p'.evictedAt) :
    q.queue.Pairwise fun p p' => q.isDue now p' = true → q.isDue now p = true := by
  refine hq.imp ?_
  intro p p' hle hdue
  simp only [isDue, decide_eq_true_eq] at hdue ⊢
  omega

end GraceQueue

namespace World

/-- **The grace window.** In every reachable world, with `T` the clock's reading: no entry of
the grace queue was stamped after `T`; a sweep takes from the queue exactly the entries whose
delay has passed at `T`, in queue order, passes those and only those to their close guards,
keeps every other entry, and answers how many it took. So a resource handed to the grace queue
at `t` is closed by the first sweep at or after `t + delay`, and by no sweep before. -/
theorem sweep_takes_exactly_due {w : World} (hw : w.Reachable) :
    (∀ p ∈ w.grace.queue, p.evictedAt ≤ w.clock.elapsed) ∧
    (w.grace.takeDue w.clock.elapsed).1 =
      w.grace.queue.filter (fun p => w.grace.delay ≤ w.clock.elapsed - p.evictedAt) ∧
    w.sweep.2.backend = (GraceQueue.closeEach Backend.close
      (w.grace.queue.filter fun p => w.grace.delay ≤ w.clock.elapsed - p.evictedAt)
      ((w.grace.takeDue w.clock.elapsed).2, w.backend)).2 ∧
    w.sweep.2.grace.queue =
      w.grace.queue.filter (fun p => w.clock.elapsed - p.evictedAt < w.grace.delay) ∧
    w.sweep.1 =
      (w.grace.queue.filter fun p => w.grace.delay ≤ w.clock.elapsed - p.evictedAt).length := by
  have hl := ledger_of_reachable hw
  have hord := GraceQueue.due_pairwise w.grace w.clock.elapsed hl.ordered
  have hdue : (w.grace.takeDue w.clock.elapsed).1 =
      w.grace.queue.filter (w.grace.isDue w.clock.elapsed) :=
    GraceQueue.takeWhile_eq_filter hord
  have hrest : (w.grace.takeDue w.clock.elapsed).2.queue =
      w.grace.queue.filter fun p => !w.grace.isDue w.clock.elapsed p :=
    GraceQueue.dropWhile_eq_filter hord
  refine ⟨hl.stamped, hdue, ?_, ?_, ?_⟩
  · show (GraceQueue.closeEach Backend.close (w.grace.takeDue w.clock.elapsed).1
      ((w.grace.takeDue w.clock.elapsed).2, w.backend)).2 = _
    rw [hdue]
    rfl
  · show (GraceQueue.closeEach Backend.close (w.grace.takeDue w.clock.elapsed).1
      ((w.grace.takeDue w.clock.elapsed).2, w.backend)).1.queue = _
    rw [GraceQueue.queue_closeEach, hrest]
    refine List.filter_congr fun p _ => ?_
    simp only [GraceQueue.isDue]
    by_cases h : w.grace.delay ≤ w.clock.elapsed - p.evictedAt
    · simp [h, Nat.not_lt.2 h]
    · simp [h, Nat.lt_of_not_le h]
  · show (w.grace.takeDue w.clock.elapsed).1.length = _
    rw [hdue]
    rfl

theorem sweep_takes_exactly_due_after_remove :
    ((((World.create {} .manual none).act
        (.get 0 "hdfs://nn1" (.direct "alice" .simple .empty) false (some "a"))).2.act
        (.remove 0 "a")).2.act (.advance 10)).2.Reachable ∧
    let w := ((((World.create {} .manual none).act
        (.get 0 "hdfs://nn1" (.direct "alice" .simple .empty) false (some "a"))).2.act
        (.remove 0 "a")).2.act (.advance 10)).2
    (∀ p ∈ w.grace.queue, p.evictedAt ≤ w.clock.elapsed) ∧
    (w.grace.takeDue w.clock.elapsed).1 =
      w.grace.queue.filter (fun p => w.grace.delay ≤ w.clock.elapsed - p.evictedAt) ∧
    w.sweep.2.backend = (GraceQueue.closeEach Backend.close
      (w.grace.queue.filter fun p => w.grace.delay ≤ w.clock.elapsed - p.evictedAt)
      ((w.grace.takeDue w.clock.elapsed).2, w.backend)).2 ∧
    w.sweep.2.grace.queue =
      w.grace.queue.filter (fun p => w.clock.elapsed - p.evictedAt < w.grace.delay) ∧
    w.sweep.1 =
      (w.grace.queue.filter fun p => w.grace.delay ≤ w.clock.elapsed - p.evictedAt).length :=
  have hw := (((Reachable.create {} .manual none .switched).act _).act _).act _
  ⟨hw, sweep_takes_exactly_due hw⟩

end World

end HandlePool
