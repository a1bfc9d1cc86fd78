import HandlePool.Session.Grace
import HandlePool.Proofs.GraceWindow
/-!
# The grace queue stays in the order of eviction

A sweep looks only at the front of the grace queue: it takes entries while they are due and
stops at the first that is not. That this is the same as picking the due entries out of the
whole queue rests on one invariant, `GraceQueue.InOrder`: along the queue the eviction stamps
never decrease, and none is later than the clock. A handed-over resource is stamped with the
clock's reading, which is not earlier than any stamp already queued, and the clock never goes
back: a manual clock is only advanced or set to a later reading (setting it earlier leaves it
where it is), and the system clock only ticks.

The invariant is proved here for a grace queue driven on its own by a script on a manual clock
(a grace session), one step at a time and then along every script, and taken from the ledger
for the queue that the pools of a world share.

* `GraceQueue.InOrder.grow`: dropping entries, appending entries stamped with the clock's new
  reading, and moving the clock forward keep the invariant.
* `GraceQueue.takeDue_of_sorted`: on a queue in eviction order, a sweep at any reading takes the
  due entries and keeps the others, in queue order.
* `GraceSession.inOrder_run`: every script keeps the invariant.
* `grace_queue_in_eviction_order`: the whole statement, for grace sessions and for worlds.
-/

namespace HandlePool

/-- What every step keeps, every script of steps keeps. -/
theorem runScript_invariant {σ τ : Type} (step : σ → τ → Outcome × σ) (view : σ → Option Gauges)
    (P : σ → Prop) (hstep : ∀ s t, P s → P (step s t).2) :
    ∀ (ts : List τ) (s : σ), P s → P (runScript step view ts s).2
  | [], _, hs => hs
  | t :: ts, s, hs => by
    simp only [runScript]
    exact runScript_invariant step view P hstep ts _ (hstep s t hs)

/-- What every settling and every tick keeps, a wait keeps. -/
theorem watch_invariant {σ : Type} (settle tick : σ → σ) (gauges : σ → Gauges)
    (goal : List (String × Option Reading)) (P : σ → Prop) (hsettle : ∀ s, P s → P (settle s))
    (htick : ∀ s, P s → P (tick s)) :
    ∀ (n : Nat) (s : σ), P s → P (watch settle tick gauges goal n s).2
  | 0, _, hs => hs
  | n + 1, s, hs => by
    simp only [watch]
    split
    · exact hsettle s hs
    · exact watch_invariant settle tick gauges goal P hsettle htick n _ (htick _ (hsettle s hs))

namespace GraceQueue

/-- A queue in the order of eviction as of the clock reading `now`: the stamps never decrease
along it, and none is later than `now`. -/
structure InOrder (q : GraceQueue) (now : Nat) : Prop where
  sorted : q.queue.Pairwise fun p p' => p.evictedAt ≤ p'.evictedAt
  stamped : ∀ p ∈ q.queue, p.evictedAt ≤ now

section Order

variable {q q' : GraceQueue} {now now' : Nat}

/-- The one way a queue in eviction order changes: some entries leave, new ones stamped with the
clock's new reading join at the back, and the clock does not go back. -/
theorem InOrder.grow (h : InOrder q now) (hle : now ≤ now') (new : List Pending)
    (hsub : q'.queue.Sublist (q.queue ++ new)) (hnew : ∀ p ∈ new, p.evictedAt = now') :
    InOrder q' now' := by
  constructor
  · refine List.Pairwise.sublist hsub (List.pairwise_append.2 ⟨h.sorted, ?_, ?_⟩)
    · -- the new entries all carry the same stamp
      exact List.pairwise_of_forall_mem_list fun a ha b hb =>
        Nat.le_of_eq ((hnew a ha).trans (hnew b hb).symm)
    · intro a ha b hb
      rw [hnew b hb]
      exact Nat.le_trans (h.stamped a ha) hle
  · intro p hp
    rcases List.mem_append.1 (hsub.subset hp) with hold | hp
    · exact Nat.le_trans (h.stamped p hold) hle
    · exact Nat.le_of_eq (hnew p hp)

theorem InOrder.later (h : InOrder q now) (hle : now ≤ now') : InOrder q now' :=
  h.grow hle [] (by simp) (by simp)

theorem InOrder.of_sublist (h : InOrder q now) (hsub : q'.queue.Sublist q.queue) :
    InOrder q' now :=
  h.grow (Nat.le_refl _) [] (by simpa using hsub) (by simp)

theorem InOrder.of_queue (h : InOrder q now) (hq : q'.queue = q.queue) : InOrder q' now :=
  h.of_sublist (hq ▸ List.Sublist.refl _)

theorem inOrder_empty (hq : q.queue = []) (now : Nat) : InOrder q now :=
  ⟨by simp [hq], by simp [hq]⟩

variable {σ : Type} (close : Nat → σ → CloseAttempt × σ)

/-- A resource handed over at the clock's reading joins the back of the queue in order. -/
theorem InOrder.enqueue (h : InOrder q now) (serial : Nat) (s : σ) :
    InOrder (enqueue close serial now (q, s)).1 now :=
  h.grow (Nat.le_refl _) _ (sublist_enqueue close serial now (q, s)) (by simp)

theorem InOrder.sweep (h : InOrder q now) (at_ : Nat) (s : σ) :
    InOrder (sweep close at_ (q, s)).2.1 now :=
  h.of_sublist (sublist_sweep close at_ (q, s))

theorem inOrder_shutdown (qs : GraceQueue × σ) (now : Nat) : InOrder (shutdown close qs).1 now :=
  inOrder_empty (queue_shutdown close qs).1 now

theorem InOrder.start (h : InOrder q now) : InOrder q.start now := by
  refine h.of_queue ?_
  unfold GraceQueue.start
  split <;> rfl

end Order

/-- **A sweep on a queue in eviction order takes exactly the due entries.** Whatever the
reading `T`, the entries a sweep at `T` takes from the front are the entries of the whole queue
whose delay has passed at `T`, and the entries it keeps are the others, both in queue order. -/
theorem takeDue_of_sorted (q : GraceQueue)
    (hq : q.queue.Pairwise fun p p' => p.evictedAt ≤ p'.evictedAt) (T : Nat) :
    q.takeDue T = (q.queue.filter (fun p => q.delay ≤ T - p.evictedAt),
      { q with queue := q.queue.filter fun p => T - p.evictedAt < q.delay }) := by
  have hord := due_pairwise q T hq
  have hrest : q.queue.dropWhile (q.isDue T) =
      q.queue.filter fun p => T - p.evictedAt < q.delay := by
    rw [dropWhile_eq_filter hord]
    refine List.filter_congr fun p _ => ?_
    simp only [isDue, ← Nat.not_lt, decide_not, Bool.not_not]
  unfold takeDue
  rw [takeWhile_eq_filter hord, hrest]
  rfl

end GraceQueue

namespace GraceSession

open GraceQueue

/-- A grace session whose queue is in eviction order as of its clock's reading. -/
def InOrder (s : GraceSession) : Prop := s.grace.InOrder s.clock.elapsed

theorem inOrder_withGrace {s : GraceSession} {f : GraceQueue × Bench → GraceQueue × Bench}
    (h : (f (s.grace, s.bench)).1.InOrder s.clock.elapsed) : (s.withGrace f).InOrder := h

theorem InOrder.settle {s : GraceSession} (h : s.InOrder) : s.settle.InOrder := by
  unfold GraceSession.settle
  split
  · exact inOrder_withGrace (InOrder.sweep Bench.close h _ _)
  · exact h

theorem InOrder.onResource {s : GraceSession} {name : String} {f : Nat → Outcome × GraceSession}
    (hf : ∀ serial, (f serial).2.InOrder) (h : s.InOrder) : (s.onResource name f).2.InOrder := by
  unfold GraceSession.onResource
  split
  · exact hf _
  · exact h

/-- **Each step keeps the queue in eviction order.** Handing a resource over stamps it with
the clock's reading; sweeps and shutdown only take entries out; the clock only moves forward. -/
theorem InOrder.step {s : GraceSession} (h : s.InOrder) (t : GraceStep) : (s.step t).2.InOrder := by
  cases t with
  | create name target b => exact h
  | setBehavior name b => exact h.onResource fun _ => h
  | enqueue name =>
    exact h.onResource fun serial => inOrder_withGrace (InOrder.enqueue Bench.close h serial _)
  | closeOnce name =>
    refine h.onResource fun serial => ?_
    dsimp only
    split <;> exact h
  | isClosed name => exact h.onResource fun _ => h
  | describe name => exact h.onResource fun _ => h
  | advance ms => exact GraceQueue.InOrder.later h (Clock.le_advance _ _)
  | setElapsed ms => exact GraceQueue.InOrder.later h (Clock.le_setElapsed _ _)
  | sweep => exact InOrder.sweep Bench.close h _ _
  | shutdown => exact inOrder_withGrace (inOrder_shutdown Bench.close _ _)
  | delay => exact h
  | start => exact GraceQueue.InOrder.start h
  | isRunning => exact h
  | wait goal =>
    simp only [GraceSession.step]
    split
    · exact h
    · exact watch_invariant GraceSession.settle (fun s => s) gauges goal GraceSession.InOrder
        (fun _ hs => hs.settle) (fun _ hs => hs) waitLooks s h
  | invalid m => exact h

/-- A fresh grace session, and every session a script leads it to, is in eviction order. -/
theorem inOrder_run (delay : Nat) (closeOnShutdown : Bool) (steps : List GraceStep) :
    (runScript step view steps { grace := { delay, closeOnShutdown } }).2.InOrder :=
  runScript_invariant step view InOrder (fun _ t hs => hs.step t) steps _
    (inOrder_empty rfl 0)

end GraceSession

/-- **The grace queue is in the order of eviction, so a sweep agrees with a filter.** For a
grace queue driven on its own by any script on a manual clock (resources handed over, sweeps,
shutdowns, the clock advanced or set), and for the queue shared by the pools of any reachable
world on a manual or a system clock: the queue's eviction stamps never decrease from front to
back, none is later than the clock; and for every clock reading `T`, the entries a sweep at `T`
takes from the front are exactly the queued entries with `T - evictedAt ≥ delay`, in queue
order, and the queue it leaves is exactly the other entries, in queue order. -/
theorem grace_queue_in_eviction_order :
    (∀ (delay : Nat) (closeOnShutdown : Bool) (steps : List GraceStep),
      let s := (runScript GraceSession.step GraceSession.view steps
        { grace := { delay, closeOnShutdown } }).2
      (s.grace.queue.Pairwise fun p p' => p.evictedAt ≤ p'.evictedAt) ∧
      (∀ p ∈ s.grace.queue, p.evictedAt ≤ s.clock.elapsed) ∧
      ∀ T, s.grace.takeDue T = (s.grace.queue.filter (fun p => s.grace.delay ≤ T - p.evictedAt),
        { s.grace with queue := s.grace.queue.filter fun p => T - p.evictedAt < s.grace.delay })) ∧
    (∀ w : World, w.Reachable →
      (w.grace.queue.Pairwise fun p p' => p.evictedAt ≤ p'.evictedAt) ∧
      (∀ p ∈ w.grace.queue, p.evictedAt ≤ w.clock.elapsed) ∧
      ∀ T, w.grace.takeDue T = (w.grace.queue.filter (fun p => w.grace.delay ≤ T - p.evictedAt),
        { w.grace with queue := w.grace.queue.filter fun p => T - p.evictedAt < w.grace.delay })) := by
  constructor
  · intro delay closeOnShutdown steps
    have h := GraceSession.inOrder_run delay closeOnShutdown steps
    exact ⟨h.sorted, h.stamped, GraceQueue.takeDue_of_sorted _ h.sorted⟩
  · intro w hw
    have hl := World.ledger_of_reachable hw
    exact ⟨hl.ordered, hl.stamped, GraceQueue.takeDue_of_sorted _ hl.ordered⟩

/-- The world after a lease, its removal and an advance of the clock is reachable, so its grace
queue is in order and a sweep at any reading agrees with the filter. -/
theorem grace_queue_in_eviction_order_after_remove :
    let w := ((((World.create {} .manual none).act
        (.get 0 "hdfs://nn1" (.direct "alice" .simple .empty) false (some "a"))).2.act
        (.remove 0 "a")).2.act (.advance 10)).2
    w.Reachable ∧
    (w.grace.queue.Pairwise fun p p' => p.evictedAt ≤ p'.evictedAt) ∧
      (∀ p ∈ w.grace.queue, p.evictedAt ≤ w.clock.elapsed) ∧
      ∀ T, w.grace.takeDue T = (w.grace.queue.filter (fun p => w.grace.delay ≤ T - p.evictedAt),
        { w.grace with queue := w.grace.queue.filter fun p => T - p.evictedAt < w.grace.delay }) :=
  have hw := (((World.Reachable.create {} .manual none .switched).act _).act _).act _
  ⟨hw, grace_queue_in_eviction_order.2 _ hw⟩

end HandlePool
