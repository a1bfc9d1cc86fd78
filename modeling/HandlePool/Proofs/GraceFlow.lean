import HandlePool.Reclaim.Grace
/-!
# Nothing is lost or doubled in the grace queue

A grace queue used on its own: resources are handed over at clock readings of the caller's
choosing, sweeps are made at any readings, the queue is shut down (perhaps more than once), and
between two operations the resources may change by other paths, as when someone closes one
directly. The queue closes resources through `close`; `logged close` also writes down each close
it makes, with the resource and the guard's answer. A history of the queue (`Flows`) carries,
besides the queue and the log, what went through it (`Passage`): the entries that joined the
queue, those taken out by sweeps, those taken out by the shutdown, and the resources handed over
after shutdown.

Along every history (`Conserved`) the entries that joined the queue are, in order, those the
sweeps took out, then those the shutdown took out, then those still waiting; the closes of the
log are those of the entries the sweeps took out, followed, for a queue that closes what is
pending at shutdown, by those the shutdown took out and those handed over after it; and the
counters count the logged closes that closed a resource and those that failed or panicked.

* `closeEach_logged`: closing entries in turn logs one close per entry, in order, and counts
  them.
* `sweep_logged`: a sweep answers `n`, takes exactly the first `n` entries out of the queue, and
  closes them in order.
* `Flows.conserved`: the account, along every history.
* `grace_queue_conserves_entries`: the whole statement.
-/

namespace HandlePool

namespace GraceQueue

variable {σ : Type}

/-- Closes the resource `serial` through `close`, and writes down the resource and the guard's
answer. -/
def logged (close : Nat → σ → CloseAttempt × σ) (serial : Nat)
    (sl : σ × List (Nat × CloseAttempt)) : CloseAttempt × (σ × List (Nat × CloseAttempt)) :=
  let r := close serial sl.1
  (r.1, (r.2, sl.2 ++ [(serial, r.1)]))

section Logged

variable (close : Nat → σ → CloseAttempt × σ)

/-- Closing entries in turn through a logged close logs one close per entry, in order; the queue
only counts them. -/
theorem closeEach_logged (ps : List Pending) (q : GraceQueue) (s : σ × List (Nat × CloseAttempt)) :
    ∃ L, (closeEach (logged close) ps (q, s)).2.2 = s.2 ++ L ∧ L.map (·.1) = ps.map (·.serial) ∧
      (closeEach (logged close) ps (q, s)).1 =
        { q with closed := q.closed + UInt64.ofNat (L.countP (·.2 == .closed)),
                 failed := q.failed + UInt64.ofNat (L.countP (!·.2.isOk)) } := by
  induction ps generalizing q s with
  | nil => exact ⟨[], by simp [closeEach], rfl, by simp [closeEach]⟩
  | cons p ps ih =>
    obtain ⟨L, hL, hmap, hq⟩ := ih (q.tally (close p.serial s.1).1)
      ((close p.serial s.1).2, s.2 ++ [(p.serial, (close p.serial s.1).1)])
    refine ⟨(p.serial, (close p.serial s.1).1) :: L, ?_, by simp [hmap], ?_⟩
    · simp only [closeEach, logged]
      rw [hL]
      simp
    · simp only [closeEach, logged]
      rw [hq]
      -- the first close is counted by `tally`, the rest by the induction
      cases (close p.serial s.1).1 <;> simp [tally, CloseAttempt.isOk, UInt64.ofNat_add] <;> grind

/-- A sweep answers `n`, takes exactly the first `n` entries out of the queue, and closes them in
order; the queue only loses them and counts the closes. -/
theorem sweep_logged (now : Nat) (q : GraceQueue) (s : σ × List (Nat × CloseAttempt)) :
    (sweep (logged close) now (q, s)).1 ≤ q.queue.length ∧
      q.queue = q.queue.take (sweep (logged close) now (q, s)).1 ++
        (sweep (logged close) now (q, s)).2.1.queue ∧
      ∃ L, (sweep (logged close) now (q, s)).2.2.2 = s.2 ++ L ∧
        L.map (·.1) = (q.queue.take (sweep (logged close) now (q, s)).1).map (·.serial) ∧
        (sweep (logged close) now (q, s)).2.1 =
          { q with queue := q.queue.drop (sweep (logged close) now (q, s)).1,
                   closed := q.closed + UInt64.ofNat (L.countP (·.2 == .closed)),
                   failed := q.failed + UInt64.ofNat (L.countP (!·.2.isOk)) } := by
  have hsplit := takeDue_append q now
  obtain ⟨L, hL, hmap, hq⟩ := closeEach_logged close (q.takeDue now).1 (q.takeDue now).2 s
  -- the entries taken are the due prefix, which is the first `n` entries
  have htake : q.queue.take (q.takeDue now).1.length = (q.takeDue now).1 := by
    rw [← hsplit]
    exact List.take_left' rfl
  have hdrop : q.queue.drop (q.takeDue now).1.length = (q.takeDue now).2.queue := by
    rw [← hsplit]
    exact List.drop_left' rfl
  simp only [sweep]
  refine ⟨?_, ?_, L, hL, ?_, ?_⟩
  · rw [← hsplit, List.length_append]
    exact Nat.le_add_right _ _
  · rw [hq, htake]
    exact hsplit.symm
  · rw [htake, hmap]
  · rw [hq, hdrop]
    rfl

end Logged

/-! ## Histories -/

/-- What went through a grace queue, each part in order: the entries that joined its queue,
those its sweeps took out, those its shutdown took out, and the resources handed over after
shutdown. -/
structure Passage where
  queued : List Pending := []
  swept : List Pending := []
  drained : List Pending := []
  late : List Pending := []
deriving DecidableEq, Repr

/-- The histories of a grace queue that closes the resources of a state `σ` through `close`,
logged. Resources are handed over and sweeps made at any readings of the clock, the queue may be
shut down more than once, and the resources may change between operations by other paths. -/
inductive Flows (close : Nat → σ → CloseAttempt × σ) :
    GraceQueue × σ × List (Nat × CloseAttempt) → Passage → Prop
  | init (delay : Nat) (closeOnShutdown : Bool) (s : σ) :
      Flows close ({ delay, closeOnShutdown }, s, []) {}
  | enqueue {qs g} (serial now : Nat) : Flows close qs g →
      Flows close (enqueue (logged close) serial now qs)
        (if qs.1.stopped then { g with late := g.late ++ [⟨serial, now⟩] }
          else { g with queued := g.queued ++ [⟨serial, now⟩] })
  | sweep {qs g} (now : Nat) : Flows close qs g →
      Flows close (sweep (logged close) now qs).2
        { g with swept := g.swept ++ qs.1.queue.take (sweep (logged close) now qs).1 }
  | shutdown {qs g} : Flows close qs g →
      Flows close (shutdown (logged close) qs) { g with drained := g.drained ++ qs.1.queue }
  | outside {qs g} (f : σ → σ) : Flows close qs g → Flows close (qs.1, f qs.2.1, qs.2.2) g

/-- The account of a grace queue: its entries leave in the order they came, each once; its
closes are those of the entries it took out or was handed after shutdown, unless it abandons
them; and its counters count its closes by outcome. -/
structure Conserved (qs : GraceQueue × σ × List (Nat × CloseAttempt)) (g : Passage) : Prop where
  fifo : g.queued = g.swept ++ g.drained ++ qs.1.queue
  emptied : qs.1.stopped = true → qs.1.queue = []
  running : qs.1.stopped = false → g.drained = [] ∧ g.late = []
  closes : qs.2.2.map (·.1) =
    (g.swept ++ if qs.1.closeOnShutdown then g.drained ++ g.late else []).map (·.serial)
  closed : qs.1.closed = UInt64.ofNat (qs.2.2.countP (·.2 == .closed))
  failed : qs.1.failed = UInt64.ofNat (qs.2.2.countP (!·.2.isOk))

section Steps

variable {close : Nat → σ → CloseAttempt × σ} {qs : GraceQueue × σ × List (Nat × CloseAttempt)}
  {g : Passage}

theorem conserved_enqueue (hc : Conserved qs g) (serial now : Nat) :
    Conserved (enqueue (logged close) serial now qs)
      (if qs.1.stopped then { g with late := g.late ++ [⟨serial, now⟩] }
        else { g with queued := g.queued ++ [⟨serial, now⟩] }) := by
  obtain ⟨q, e, log⟩ := qs
  obtain ⟨hfifo, hemp, hrun, hcls, hcld, hfld⟩ := hc
  simp only at hfifo hemp hrun hcls hcld hfld ⊢
  cases hst : q.stopped with
  | false =>
    -- before shutdown the entry joins the back of the queue
    obtain ⟨hd, hl⟩ := hrun hst
    simp only [enqueue, hst, Bool.not_false, if_true, Bool.false_eq_true, if_false]
    exact ⟨by simp [hfifo], by simp, fun _ => ⟨hd, hl⟩, hcls, hcld, hfld⟩
  | true =>
    simp only [enqueue, hst, Bool.not_true, Bool.false_eq_true, if_false, if_true]
    cases hb : q.closeOnShutdown with
    | false =>
      -- abandoned: nothing is closed
      simp only [Bool.false_eq_true, if_false]
      exact ⟨hfifo, hemp, by simp [hst], by simpa [hb] using hcls, hcld, hfld⟩
    | true =>
      -- closed at once, through the guard, and logged
      simp only [if_true]
      obtain ⟨L, hL, hmap, hq⟩ := closeEach_logged close [⟨serial, now⟩] q (e, log)
      generalize closeEach (logged close) [⟨serial, now⟩] (q, e, log) = r at hL hq ⊢
      obtain ⟨q', e', log'⟩ := r
      simp only at hL hq
      subst hq hL
      refine ⟨hfifo, hemp, by simp [hst], ?_, ?_, ?_⟩
      · simp only [List.map_append, hmap, hcls, hb, if_true]
        simp
      · simp [hcld, List.countP_append, UInt64.ofNat_add]
      · simp [hfld, List.countP_append, UInt64.ofNat_add]

theorem conserved_sweep (hc : Conserved qs g) (now : Nat) :
    Conserved (sweep (logged close) now qs).2
      { g with swept := g.swept ++ qs.1.queue.take (sweep (logged close) now qs).1 } := by
  obtain ⟨q, e, log⟩ := qs
  obtain ⟨hfifo, hemp, hrun, hcls, hcld, hfld⟩ := hc
  simp only at hfifo hemp hrun hcls hcld hfld ⊢
  obtain ⟨-, -, L, hL, hmap, hq⟩ := sweep_logged close now q (e, log)
  generalize sweep (logged close) now (q, e, log) = r at hL hmap hq ⊢
  obtain ⟨n, q', e', log'⟩ := r
  simp only at hL hmap hq ⊢
  subst hq hL
  cases hst : q.stopped with
  | false =>
    -- a running queue has no drained or late entries, so the sweep's entries come last
    obtain ⟨hd, hl⟩ := hrun hst
    refine ⟨?_, by simp, fun _ => ⟨hd, hl⟩, ?_, ?_, ?_⟩
    · simp only [hfifo, hd, List.append_nil, List.append_assoc, List.take_append_drop]
    · simp only [List.map_append, hmap, hcls, hd, hl, List.append_nil, ite_self]
    · simp [hcld, List.countP_append, UInt64.ofNat_add]
    · simp [hfld, List.countP_append, UInt64.ofNat_add]
  | true =>
    -- a queue shut down is empty: the sweep takes and closes nothing
    have he : q.queue = [] := hemp hst
    have hL₀ : L = [] := by simpa [he] using hmap
    subst hL₀
    refine ⟨by simpa [he] using hfifo, fun _ => by simp [he], by simp, ?_, ?_, ?_⟩
    · simpa [he] using hcls
    · simpa using hcld
    · simpa using hfld

theorem conserved_shutdown (hc : Conserved qs g) :
    Conserved (shutdown (logged close) qs) { g with drained := g.drained ++ qs.1.queue } := by
  obtain ⟨q, e, log⟩ := qs
  obtain ⟨hfifo, hemp, hrun, hcls, hcld, hfld⟩ := hc
  simp only at hfifo hemp hrun hcls hcld hfld ⊢
  cases hst : q.stopped with
  | true =>
    -- a second shutdown finds the queue empty
    have he : q.queue = [] := hemp hst
    have hsh : shutdown (logged close) (q, e, log) = ({ q with sweeping := false }, e, log) := by
      unfold shutdown
      split <;> simp [he, closeEach, hst]
    rw [hsh]
    exact ⟨by simpa [he] using hfifo, fun _ => he, by simp [hst], by simpa [he] using hcls, hcld,
      hfld⟩
  | false =>
    obtain ⟨hd, hl⟩ := hrun hst
    unfold shutdown
    split
    · -- what was queued is closed in order
      rename_i hb
      obtain ⟨L, hL, hmap, hq⟩ := closeEach_logged close q.queue
        { q with stopped := true, sweeping := false, queue := [] } (e, log)
      generalize closeEach (logged close) q.queue
        ({ q with stopped := true, sweeping := false, queue := [] }, e, log) = r at hL hq ⊢
      obtain ⟨q', e', log'⟩ := r
      simp only at hL hq hb
      subst hq hL
      refine ⟨by simp [hfifo, hd], fun _ => rfl, by simp, ?_, ?_, ?_⟩
      · simp only [List.map_append, hmap, hcls, hd, hl, hb, if_true]
        simp
      · simp [hcld, List.countP_append, UInt64.ofNat_add]
      · simp [hfld, List.countP_append, UInt64.ofNat_add]
    · -- what was queued is abandoned
      rename_i hb
      simp only at hb
      refine ⟨by simp [hfifo, hd], fun _ => rfl, by simp, ?_, hcld, hfld⟩
      simpa [hb] using hcls

/-- Along every history the grace queue keeps its account. -/
theorem Flows.conserved (h : Flows close qs g) : Conserved qs g := by
  induction h with
  | init delay b s =>
    exact ⟨rfl, fun h => absurd h (by simp), fun _ => ⟨rfl, rfl⟩, by simp, rfl, rfl⟩
  | enqueue serial now _ ih => exact conserved_enqueue ih serial now
  | sweep now _ ih => exact conserved_sweep ih now
  | shutdown _ ih => exact conserved_shutdown ih
  | outside f _ ih => exact ⟨ih.fifo, ih.emptied, ih.running, ih.closes, ih.closed, ih.failed⟩

end Steps

/-- **Nothing is lost or doubled in the grace queue.** Along every history of a grace queue —
resources handed over before or after shutdown, sweeps at any clock readings, shutdowns, and
resources changing by other paths — the entries that joined the queue are, in order, those its
sweeps took out, then those its shutdown took out, then those still waiting, so each is taken
out at most once, by one sweep or by the shutdown, or still waits, first in first out. The queue
has closed, in order, the entries its sweeps took out, and, if it closes what is pending at
shutdown, those the shutdown took out and those handed over after it; if it does not, it never
closed an abandoned entry. Its counters count the closes that closed a resource and those that
failed or panicked; a close that found the resource closed counts in neither. A sweep from any
point answers `n` and takes exactly the first `n` entries, closing them in order. -/
theorem grace_queue_conserves_entries {close : Nat → σ → CloseAttempt × σ}
    {qs : GraceQueue × σ × List (Nat × CloseAttempt)} {g : Passage} (h : Flows close qs g) :
    g.queued = g.swept ++ g.drained ++ qs.1.queue ∧
    qs.2.2.map (·.1) =
      (g.swept ++ if qs.1.closeOnShutdown then g.drained ++ g.late else []).map (·.serial) ∧
    qs.1.closed = UInt64.ofNat (qs.2.2.countP (·.2 == .closed)) ∧
    qs.1.failed = UInt64.ofNat (qs.2.2.countP (!·.2.isOk)) ∧
    ∀ now, (sweep (logged close) now qs).1 ≤ qs.1.queue.length ∧
      qs.1.queue = qs.1.queue.take (sweep (logged close) now qs).1 ++
        (sweep (logged close) now qs).2.1.queue ∧
      ∃ L, (sweep (logged close) now qs).2.2.2 = qs.2.2 ++ L ∧
        L.map (·.1) = (qs.1.queue.take (sweep (logged close) now qs).1).map (·.serial) := by
  have hc := h.conserved
  refine ⟨hc.fifo, hc.closes, hc.closed, hc.failed, fun now => ?_⟩
  obtain ⟨hle, hsplit, L, hL, hmap, -⟩ := sweep_logged close now qs.1 qs.2
  exact ⟨hle, hsplit, L, hL, hmap⟩

/-- A queue that abandons what is pending at shutdown: two resources are handed over, a sweep
after the delay of the first closes it, the shutdown abandons the second, and a third handed over
afterwards is abandoned too. -/
theorem grace_queue_conserves_entries_abandoning :
    let close : Nat → Unit → CloseAttempt × Unit := fun _ u => (.closed, u)
    let qs₁ := sweep (logged close) 6 (enqueue (logged close) 2 3
      (enqueue (logged close) 1 0 (({ delay := 5, closeOnShutdown := false } : GraceQueue), (), [])))
    let qs := enqueue (logged close) 3 7 (shutdown (logged close) qs₁.2)
    let g : Passage :=
      { queued := [⟨1, 0⟩, ⟨2, 3⟩], swept := [⟨1, 0⟩], drained := [⟨2, 3⟩], late := [⟨3, 7⟩] }
    Flows close qs g ∧
    (g.queued = g.swept ++ g.drained ++ qs.1.queue ∧
    qs.2.2.map (·.1) =
      (g.swept ++ if qs.1.closeOnShutdown then g.drained ++ g.late else []).map (·.serial) ∧
    qs.1.closed = UInt64.ofNat (qs.2.2.countP (·.2 == .closed)) ∧
    qs.1.failed = UInt64.ofNat (qs.2.2.countP (!·.2.isOk)) ∧
    ∀ now, (sweep (logged close) now qs).1 ≤ qs.1.queue.length ∧
      qs.1.queue = qs.1.queue.take (sweep (logged close) now qs).1 ++
        (sweep (logged close) now qs).2.1.queue ∧
      ∃ L, (sweep (logged close) now qs).2.2.2 = qs.2.2 ++ L ∧
        L.map (·.1) = (qs.1.queue.take (sweep (logged close) now qs).1).map (·.serial)) := by
  intro close qs₁ qs g
  have h : Flows close qs g :=
    ((((Flows.init 5 false ()).enqueue 1 0).enqueue 2 3).sweep 6).shutdown.enqueue 3 7
  exact ⟨h, grace_queue_conserves_entries h⟩

end GraceQueue

end HandlePool
