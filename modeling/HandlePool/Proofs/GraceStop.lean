import Mathlib.Logic.Relation
import HandlePool.Proofs.GraceFlow
import HandlePool.World.Basic
/-!
# A grace queue after shutdown

Shutting a grace queue down stops it for good. The shutdown itself empties the queue: a queue
built to close what is pending closes every waiting resource, due or not, once each and in the
order they came, and one that abandons them closes none. From then on, whatever happens to the
queue (resources handed over at any clock reading, sweeps, starts, further shutdowns) and to the
resources by other paths, the queue stays `Stopped`: stopped, with no sweeper and nothing waiting.
A sweep then takes nothing, a start does nothing, a shutdown changes nothing, and a resource
handed over is closed at once or left alone.

`Move` says what can happen to a queue; `logged close` writes down each close the queue makes, so
that "closed once each" is a statement about the log.

* `stopped_shutdown`, `Stopped.move`, `Stopped.moves`: a queue after shutdown stays stopped along
  every run.
* `Stopped.sweep`, `Stopped.enqueue`, `Stopped.shutdown`: what the operations do to it.
* `shutdown_logged`: what the shutdown itself closes.
* `World.shutdown_shutdown`: shutting a world down twice is shutting it down once.
* `closer_after_shutdown`: the whole statement.
-/

namespace HandlePool

namespace GraceQueue

variable {σ : Type}

/-- One thing that can happen to a grace queue and the resources it closes through `close`: a
resource is handed over, a sweep, a start or a shutdown is made, at any clock reading, or the
resources change by another path. -/
inductive Move (close : Nat → σ → CloseAttempt × σ) : GraceQueue × σ → GraceQueue × σ → Prop
  | enqueue (serial now : Nat) (qs : GraceQueue × σ) : Move close qs (enqueue close serial now qs)
  | sweep (now : Nat) (qs : GraceQueue × σ) : Move close qs (sweep close now qs).2
  | start (qs : GraceQueue × σ) : Move close qs (qs.1.start, qs.2)
  | shutdown (qs : GraceQueue × σ) : Move close qs (shutdown close qs)
  | outside (f : σ → σ) (qs : GraceQueue × σ) : Move close qs (qs.1, f qs.2)

/-- A grace queue after shutdown: stopped, with no sweeper and nothing waiting. -/
structure Stopped (q : GraceQueue) : Prop where
  stopped : q.stopped = true
  idle : q.sweeping = false
  empty : q.queue = []

section Stopping

variable (close : Nat → σ → CloseAttempt × σ) {q : GraceQueue}

theorem stopped_shutdown (qs : GraceQueue × σ) : Stopped (shutdown close qs).1 :=
  ⟨(queue_shutdown close qs).2.1, (queue_shutdown close qs).2.2, (queue_shutdown close qs).1⟩

/-- Counting a close keeps a queue stopped. -/
theorem Stopped.tally (h : Stopped q) (a : CloseAttempt) : Stopped (q.tally a) := by
  cases a <;> exact ⟨h.stopped, h.idle, h.empty⟩

/-- After shutdown a sweep takes nothing and changes nothing, whatever the clock reads. -/
theorem Stopped.sweep (h : Stopped q) (now : Nat) (s : σ) : sweep close now (q, s) = (0, (q, s)) := by
  have hq : { q with queue := [] } = q := by
    cases q
    cases h.empty
    rfl
  simp only [GraceQueue.sweep, takeDue, h.empty, List.takeWhile_nil, List.dropWhile_nil,
    List.length_nil, closeEach, hq]

/-- After shutdown a resource handed over is closed at once through `close`, if the queue closes
what is pending at shutdown, and left alone otherwise. -/
theorem Stopped.enqueue (h : Stopped q) (serial now : Nat) (s : σ) :
    enqueue close serial now (q, s) =
      if q.closeOnShutdown then (q.tally (close serial s).1, (close serial s).2) else (q, s) := by
  simp only [GraceQueue.enqueue, h.stopped, Bool.not_true, Bool.false_eq_true, if_false, closeEach]

/-- A second shutdown changes nothing. -/
theorem Stopped.shutdown (h : Stopped q) (s : σ) : shutdown close (q, s) = (q, s) := by
  -- the queue already is as a shutdown leaves it, and there is nothing left to close
  have hq : { q with stopped := true, sweeping := false, queue := [] } = q := by
    cases q
    cases h.stopped
    cases h.idle
    cases h.empty
    rfl
  unfold GraceQueue.shutdown
  rw [h.empty]
  split <;> simp only [hq, closeEach]

/-- Whatever happens to a queue after shutdown keeps it stopped. -/
theorem Stopped.move {qs qs' : GraceQueue × σ} (h : Stopped qs.1) (hm : Move close qs qs') :
    Stopped qs'.1 := by
  cases hm with
  | enqueue serial now =>
    rw [h.enqueue close serial now qs.2]
    split
    · exact h.tally _
    · exact h
  | sweep now => rw [h.sweep close now qs.2]; exact h
  | start => rw [start_of_stopped _ h.stopped]; exact h
  | shutdown => exact stopped_shutdown close qs
  | outside f => exact h

theorem Stopped.moves {qs qs' : GraceQueue × σ} (h : Stopped qs.1)
    (hr : Relation.ReflTransGen (Move close) qs qs') : Stopped qs'.1 := by
  induction hr with
  | refl => exact h
  | tail _ hm ih => exact ih.move close hm

/-- A shutdown closes what is queued, due or not, each entry once and in order, if the queue
closes what is pending; otherwise it closes nothing and leaves the resources alone. -/
theorem shutdown_logged (q : GraceQueue) (s : σ × List (Nat × CloseAttempt)) :
    (∃ L, (shutdown (logged close) (q, s)).2.2 = s.2 ++ L ∧
      L.map (·.1) = (if q.closeOnShutdown then q.queue else []).map (·.serial)) ∧
    (q.closeOnShutdown = false → (shutdown (logged close) (q, s)).2 = s) := by
  unfold GraceQueue.shutdown
  cases hb : q.closeOnShutdown with
  | true =>
    obtain ⟨L, hL, hmap, -⟩ := closeEach_logged close q.queue
      { q with stopped := true, sweeping := false, queue := [] } s
    exact ⟨⟨L, hL, by rw [hmap, if_pos rfl]⟩, fun h => Bool.noConfusion h⟩
  | false =>
    -- what was queued is abandoned: the state and the log stay as they were
    refine ⟨⟨[], ?_, by simp⟩, fun _ => ?_⟩ <;> simp

end Stopping

end GraceQueue

namespace Orphans

variable {κ σ : Type} [DecidableEq κ] (run : κ → σ → Bool × σ)

/-- Finalizing a notice leaves the tracker's flags alone. -/
theorem flags_finalize (n : Notice κ) (os : Orphans κ × σ) :
    (finalize run n os).1.stopped = os.1.stopped ∧ (finalize run n os).1.working = os.1.working := by
  unfold finalize
  split
  · exact ⟨rfl, rfl⟩
  · dsimp only
    split <;> exact ⟨rfl, rfl⟩

theorem flags_finalizeAll (ns : List (Notice κ)) (os : Orphans κ × σ) :
    (finalizeAll run ns os).1.stopped = os.1.stopped ∧
      (finalizeAll run ns os).1.working = os.1.working := by
  induction ns generalizing os with
  | nil => exact ⟨rfl, rfl⟩
  | cons n ns ih =>
    rw [finalizeAll, (ih _).1, (ih _).2]
    exact flags_finalize run n os

/-- A second shutdown of the tracker changes nothing: the first left it stopped, idle and with
no notice waiting. -/
theorem shutdown_shutdown (os : Orphans κ × σ) : shutdown run (shutdown run os) = shutdown run os := by
  have hq : (shutdown run os).1.queue = [] := queue_drain run _
  obtain ⟨hs, hw⟩ := flags_finalizeAll run os.1.queue
    ({ os.1 with stopped := true, working := false, queue := [] }, os.2)
  generalize hr : shutdown run os = r at hq
  have hs' : r.1.stopped = true := by rw [← hr]; exact hs
  have hw' : r.1.working = false := by rw [← hr]; exact hw
  obtain ⟨o, s⟩ := r
  cases o
  simp only at hq hs' hw'
  subst hq hs' hw'
  rfl

end Orphans

namespace World

/-- Shutting a world down twice is shutting it down once. -/
theorem shutdown_shutdown (w : World) : w.shutdown.shutdown = w.shutdown := by
  have hg : GraceQueue.Stopped w.shutdown.grace :=
    GraceQueue.stopped_shutdown Backend.close (w.grace, w.backend)
  -- the grace queue, stopped, ignores the second shutdown
  have h₁ : w.shutdown.stopCloser = w.shutdown := by
    unfold stopCloser withGrace
    rw [hg.shutdown Backend.close]
  show w.shutdown.stopCloser.stopTracker = w.shutdown
  rw [h₁, shutdown]
  -- and so does the tracker
  unfold stopTracker withOrphans
  dsimp only
  rw [Orphans.shutdown_shutdown]

end World

namespace GraceQueue

variable {σ : Type}

/-- **The grace queue after shutdown.** A shutdown closes every resource still queued, due or
not, once each and in order, if the queue closes what is pending at shutdown, and closes none
otherwise. In every later state, whatever was handed over, swept, started or shut down since and
however the resources changed, the queue is stopped, with no sweeper and nothing waiting; a start
does nothing; a sweep at any clock reading takes and closes nothing; a further shutdown changes
nothing; and a resource handed over is passed to its close at once, the one close being logged and
counted, if the queue closes what is pending at shutdown, and left untouched otherwise. Shutting a
world's workers down twice is shutting them down once. -/
theorem closer_after_shutdown (close : Nat → σ → CloseAttempt × σ) (q : GraceQueue)
    (s : σ × List (Nat × CloseAttempt)) :
    (∃ L, (shutdown (logged close) (q, s)).2.2 = s.2 ++ L ∧
      L.map (·.1) = (if q.closeOnShutdown then q.queue else []).map (·.serial)) ∧
    (q.closeOnShutdown = false → (shutdown (logged close) (q, s)).2 = s) ∧
    (∀ qs', Relation.ReflTransGen (Move (logged close)) (shutdown (logged close) (q, s)) qs' →
      qs'.1.queue = [] ∧ qs'.1.stopped = true ∧ qs'.1.sweeping = false ∧ qs'.1.start = qs'.1 ∧
      (∀ now, sweep (logged close) now qs' = (0, qs')) ∧
      shutdown (logged close) qs' = qs' ∧
      ∀ serial now, enqueue (logged close) serial now qs' =
        if qs'.1.closeOnShutdown then
          (qs'.1.tally (close serial qs'.2.1).1,
            ((close serial qs'.2.1).2, qs'.2.2 ++ [(serial, (close serial qs'.2.1).1)]))
        else qs') ∧
    ∀ w : World, w.shutdown.shutdown = w.shutdown := by
  obtain ⟨hlog, habandon⟩ := shutdown_logged close q s
  refine ⟨hlog, habandon, fun qs' hr => ?_, World.shutdown_shutdown⟩
  have h := (stopped_shutdown (logged close) (q, s)).moves (logged close) hr
  refine ⟨h.empty, h.stopped, h.idle, start_of_stopped _ h.stopped, fun now => ?_, ?_,
    fun serial now => ?_⟩
  · exact h.sweep (logged close) now qs'.2
  · exact h.shutdown (logged close) qs'.2
  · -- the one close the hand-over makes is the logged close of the resource
    rw [h.enqueue (logged close) serial now qs'.2]
    rfl

/-- A queue that closes what is pending: two resources wait when it shuts down, so both are
closed by the shutdown; a third handed over afterwards, after a start and a sweep, is closed at
once. -/
theorem closer_after_shutdown_closing :
    let close : Nat → Unit → CloseAttempt × Unit := fun _ u => (.closed, u)
    let q := (enqueue (logged close) 2 3 (enqueue (logged close) 1 0
      (({ delay := 5, closeOnShutdown := true } : GraceQueue), (), []))).1
    let qs := shutdown (logged close) (q, (), [])
    let qs' := (sweep (logged close) 9 ((qs.1.start), qs.2)).2
    Relation.ReflTransGen (Move (logged close)) qs qs' ∧
    (∃ L, qs.2.2 = [] ++ L ∧ L.map (·.1) = (if q.closeOnShutdown then q.queue else []).map (·.serial)) ∧
    qs'.1.queue = [] ∧ enqueue (logged close) 3 9 qs' =
      (qs'.1.tally .closed, ((), qs'.2.2 ++ [(3, .closed)])) := by
  intro close q qs qs'
  have hr : Relation.ReflTransGen (Move (logged close)) qs qs' :=
    (Relation.ReflTransGen.single (Move.start qs)).tail (Move.sweep 9 _)
  have hall := closer_after_shutdown close q ((), [])
  refine ⟨hr, hall.1, (hall.2.2.1 qs' hr).1, ?_⟩
  rw [(hall.2.2.1 qs' hr).2.2.2.2.2.2 3 9]
  rfl

end GraceQueue

end HandlePool
