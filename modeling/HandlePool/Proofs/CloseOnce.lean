import HandlePool.Proofs.Reach
import HandlePool.Proofs.Guard
import HandlePool.Proofs.Frame
/-!
# Every resource is closed at most once

Six paths close resources: an explicit close, a bulk close of a pool, the grace queue's
sweeps, its shutdown and its closes after shutdown, and the orphan tracker's cleanups (run
from its queue, at its shutdown, or at once after it). All of them go through the resource's
one-shot guard, which marks the resource closed before it asks the backend. Whatever order
these paths run in, on however many pools sharing one world, the backend is therefore asked to
close each resource at most once.

`Backend.Keeps b b'` says that `b'` is a later state of the backend `b`: every resource of
`b` is at its place in `b'`, as it was or closed by one pass through its guard, and the
backend calls are still counted one per closed resource. Every operation of a world keeps it
(`keeps_act`), hence every step and every script (`keeps_runSteps`).

* `counted_of_reachable`: in every reachable world, each resource was passed to the backend's
  close once if it is closed and never if it is open.
* `resource_closed_at_most_once`: the same, together with the guard's answers and the fact
  that a closed resource is never touched again by any later script.
-/

namespace HandlePool

namespace Backend

/-- `b'` is a later state of `b`: its resources are later states of `b`'s, and if every
resource of `b` is counted, so is every resource of `b'`. -/
def Keeps (b b' : Backend) : Prop :=
  b.resources.Later b'.resources ∧ (b.resources.Counted → b'.resources.Counted)

theorem Keeps.refl (b : Backend) : b.Keeps b := ⟨Resources.Later.refl _, id⟩

theorem Keeps.trans {b b' b'' : Backend} (h₁ : b.Keeps b') (h₂ : b'.Keeps b'') : b.Keeps b'' :=
  ⟨h₁.1.trans h₂.1, fun hc => h₂.2 (h₁.2 hc)⟩

theorem keeps_close (n : Nat) (b : Backend) : b.Keeps (b.close n).2 :=
  ⟨Resources.later_closeOnce _ _ _, fun hc => Resources.counted_closeOnce hc _ _⟩

theorem keeps_cleanup (n : Nat) (b : Backend) : b.Keeps (b.cleanup n).2 := keeps_close n b

/-- A resource the backend opens is new, open and never closed. -/
theorem keeps_openOn {b b' : Backend} {t : Target} {props : Properties} {r : Resource}
    (h : b.openOn t props = .ok (r, b')) : b.Keeps b' := by
  unfold openOn at h
  split at h
  · cases h
  · simp only [Except.ok.injEq, Prod.mk.injEq] at h
    obtain ⟨rfl, rfl⟩ := h
    refine ⟨Resources.later_append _ _, ?_⟩
    intro hc x hx
    rcases List.mem_append.1 hx with hx | hx
    · exact hc x hx
    · rw [List.mem_singleton.1 hx]
      exact Resource.counted_of_open rfl rfl

end Backend

namespace World

open Backend

theorem keeps_letGo (w : World) (h : Handle) : w.backend.Keeps (w.letGo h).backend := by
  unfold letGo
  split
  · exact Keeps.refl _
  · rw [withOrphans_eq]
    exact Orphans.rel_post Backend.cleanup Keeps Keeps.refl keeps_cleanup
      ⟨h.registration, h.serial⟩ (w.orphans, w.backend)

theorem keeps_letGoAll (w : World) (hs : List Handle) : w.backend.Keeps (w.letGoAll hs).backend := by
  induction hs generalizing w with
  | nil => exact Keeps.refl _
  | cons h hs ih =>
    rw [letGoAll_cons]
    exact (keeps_letGo w h).trans (ih _)

theorem keeps_hold (w : World) (name : String) (h : Handle) :
    w.backend.Keeps (w.hold name h).backend := by
  unfold hold
  cases w.held.bind name h with
  | mk held old =>
    cases old with
    | none => exact Keeps.refl _
    | some o => exact keeps_letGo { w with held := held } o

theorem keeps_evict (w : World) (n : Nat) : w.backend.Keeps (w.evict n).backend := by
  unfold evict
  rw [withGrace_eq]
  exact GraceQueue.rel_enqueue Backend.close Keeps Keeps.refl Keeps.trans Backend.keeps_close
    n w.clock.elapsed (w.grace, w.backend)

theorem keeps_closeResource (w : World) (n : Nat) : w.backend.Keeps (w.closeResource n).2.backend :=
  Backend.keeps_close n w.backend

theorem keeps_openHandle (w : World) (i : Nat) (p : Pool) (key : CacheKey) (t : Target)
    (creds : TokenSet) : w.backend.Keeps (w.openHandle i p key t creds).2.backend := by
  unfold openHandle
  split
  · exact Keeps.refl _
  · rename_i r b hopen
    exact keeps_openOn hopen

theorem keeps_purge (w : World) (i : Nat) (p : Pool) : w.backend.Keeps (w.purge i p).2.backend :=
  keeps_letGoAll (w.setPool i (w.purge i p).1) _

theorem keeps_discardClosed (w : World) (i : Nat) (p : Pool) (key : CacheKey) :
    w.backend.Keeps (w.discardClosed i p key).2.backend := by
  unfold discardClosed
  split
  · rename_i e _
    split
    · exact keeps_letGo (w.setPool i (p.erase key)) e.handle
    · exact Keeps.refl _
  · exact Keeps.refl _

theorem keeps_lookup (w : World) (i : Nat) (p : Pool) (t : Target) (pr : Principal) (u : Nat) :
    w.backend.Keeps (w.lookup i p t pr u).2.backend := by
  unfold lookup
  split
  · exact Keeps.refl _
  · exact Keeps.refl _
  · rename_i key creds _ _
    have hd := keeps_discardClosed w i p key
    generalize w.discardClosed i p key = d at hd ⊢
    obtain ⟨p₁, w₁⟩ := d
    dsimp only
    split
    · rename_i e _
      split
      · -- rotation: the old resource goes to the grace queue, then a new one is opened
        have hev := keeps_evict (w₁.setPool i ((p₁.erase key).count Recorder.rotation)) e.handle.serial
        have hlet := keeps_letGo ((w₁.setPool i ((p₁.erase key).count Recorder.rotation)).evict
          e.handle.serial) e.handle
        exact hd.trans (hev.trans (hlet.trans (keeps_openHandle _ _ _ _ _ _)))
      · exact hd
    · have hpu : w₁.backend.Keeps
          (if w₁.config.maxCacheSize ≤ p₁.size then w₁.purge i p₁ else (p₁, w₁)).2.backend := by
        split
        · exact keeps_purge _ _ _
        · exact Keeps.refl _
      generalize (if w₁.config.maxCacheSize ≤ p₁.size then w₁.purge i p₁ else (p₁, w₁)) = d at hpu ⊢
      obtain ⟨p₂, w₂⟩ := d
      dsimp only
      split
      · exact hd.trans hpu
      · exact hd.trans (hpu.trans (keeps_openHandle _ _ _ _ _ _))

theorem keeps_answerLookup (w : World) (i : Nat) (p : Pool) (t : Target) (pr : Principal) (u : Nat)
    (name : Option String) : w.backend.Keeps (w.answerLookup i p t pr u name).2.backend := by
  have hl := keeps_lookup w i p t pr u
  unfold answerLookup
  generalize w.lookup i p t pr u = l at hl ⊢
  obtain ⟨r, w₁⟩ := l
  cases r with
  | error e => exact hl
  | ok h =>
    dsimp only
    cases name with
    | none => exact hl
    | some n => exact hl.trans (keeps_hold _ _ _)

theorem keeps_lookupAs (w : World) (i : Nat) (p : Pool) (t : Target) (pr : Principal)
    (exclusive : Bool) (name : Option String) :
    w.backend.Keeps (w.lookupAs i p t pr exclusive name).2.backend := by
  cases exclusive with
  | true =>
    rw [lookupAs_true]
    exact keeps_answerLookup (w.setPool i p.drawUnique.2) i p.drawUnique.2 t pr _ name
  | false =>
    rw [lookupAs_false]
    exact keeps_answerLookup w i p t pr 0 name

theorem keeps_remove (w : World) (i : Nat) (p : Pool) (h : Handle) :
    w.backend.Keeps (w.remove i p h).2.backend := by
  unfold remove
  split
  · rename_i e p' _
    have hev := keeps_evict (w.setPool i (p'.count Recorder.eviction)) e.handle.serial
    exact hev.trans (keeps_letGo _ e.handle)
  · exact Keeps.refl _

theorem keeps_close (w : World) (i : Nat) (p : Pool) (h : Handle) :
    w.backend.Keeps (w.close i p h).2.backend := by
  unfold close
  split
  · rename_i e p' _
    have hlet := keeps_letGo (w.setPool i (p'.count Recorder.eviction)) e.handle
    exact hlet.trans (keeps_closeResource _ h.serial)
  · exact keeps_closeResource w h.serial

theorem keeps_closeAll (w : World) (i : Nat) (p : Pool) :
    w.backend.Keeps (w.closeAll i p).2.backend :=
  -- the fold keeps the relation from the start, one entry at a time
  w.closeEntries_induction (fun _ w' => w.backend.Keeps w'.backend) i p p.entries
    (fun _ _ w' h => h.trans (keeps_closeResource w' _)) (fun _ _ w' h => h.trans (keeps_letGo w' _))
    (Keeps.refl _)

theorem keeps_dropPool (w : World) (i : Nat) (p : Pool) : w.backend.Keeps (w.dropPool i p).backend :=
  keeps_letGoAll { w with pools := w.pools.set i none } (p.entries.map Entry.handle)

theorem keeps_sweep (w : World) : w.backend.Keeps w.sweep.2.backend :=
  GraceQueue.rel_sweep Backend.close Keeps Keeps.refl Keeps.trans Backend.keeps_close w.clock.elapsed
    (w.grace, w.backend)

theorem keeps_runPending (w : World) : w.backend.Keeps w.runPending.2.backend :=
  Orphans.rel_drain Backend.cleanup Keeps Keeps.refl Keeps.trans keeps_cleanup (w.orphans, w.backend)

theorem keeps_receive (w : World) : w.backend.Keeps w.receive.backend := by
  unfold receive
  split
  · exact Orphans.rel_receive Backend.cleanup Keeps Keeps.refl keeps_cleanup (w.orphans, w.backend)
  · exact Keeps.refl _

theorem keeps_stopCloser (w : World) : w.backend.Keeps w.stopCloser.backend :=
  GraceQueue.rel_shutdown Backend.close Keeps Keeps.refl Keeps.trans Backend.keeps_close
    (w.grace, w.backend)

theorem keeps_stopTracker (w : World) : w.backend.Keeps w.stopTracker.backend :=
  Orphans.rel_shutdown Backend.cleanup Keeps Keeps.refl Keeps.trans keeps_cleanup
    (w.orphans, w.backend)

theorem keeps_shutdown (w : World) : w.backend.Keeps w.shutdown.backend :=
  (keeps_stopCloser w).trans (keeps_stopTracker w.stopCloser)

theorem keeps_settle (w : World) : w.backend.Keeps w.settle.backend := by
  have hrun : w.backend.Keeps (if w.orphans.isRunning then w.runPending.2 else w).backend := by
    split
    · exact keeps_runPending w
    · exact Keeps.refl _
  unfold settle
  dsimp only
  generalize (if w.orphans.isRunning then w.runPending.2 else w) = w₁ at hrun ⊢
  split
  · exact hrun.trans (keeps_sweep w₁)
  · exact hrun

theorem keeps_watch (goal : List (String × Option Reading)) :
    ∀ (n : Nat) (w : World), w.backend.Keeps (watch settle tick meters goal n w).2.backend
  | 0, w => Keeps.refl _
  | n + 1, w => by
    simp only [watch]
    split
    · exact keeps_settle w
    · exact (keeps_settle w).trans (keeps_watch goal n w.settle.tick)

theorem keeps_onPool (w : World) (i : Nat) (f : Pool → Outcome × World)
    (hf : ∀ p, w.backend.Keeps (f p).2.backend) : w.backend.Keeps (w.onPool i f).2.backend := by
  unfold onPool
  split
  · exact hf _
  · exact Keeps.refl _

theorem keeps_onHandle (w : World) (name : String) (f : Handle → Outcome × World)
    (hf : ∀ h, w.backend.Keeps (f h).2.backend) : w.backend.Keeps (w.onHandle name f).2.backend := by
  unfold onHandle
  split
  · exact hf _
  · exact Keeps.refl _

theorem keeps_onManualClock (w : World) (f : Fault) (g : Clock → Clock) :
    w.backend.Keeps (w.onManualClock f g).2.backend := by
  unfold onManualClock
  split <;> exact Keeps.refl _

/-- No operation of a world touches a closed resource, and each asks the backend to close a
resource only by closing it. -/
theorem keeps_act (w : World) (s : PoolStep) : w.backend.Keeps (w.act s).2.backend := by
  cases s with
  | get i uri pr exclusive name =>
    refine keeps_onPool w i _ fun p => ?_
    split
    · exact Keeps.refl _
    · exact keeps_lookupAs _ _ _ _ _ _ _
  | getCurrent i uri exclusive name =>
    refine keeps_onPool w i _ fun p => ?_
    split
    · exact Keeps.refl _
    · split
      · exact Keeps.refl _
      · split
        · exact Keeps.refl _
        · exact keeps_lookupAs _ _ _ _ _ _ _
  | runAs pr steps => exact Keeps.refl _
  | remove i name =>
    exact keeps_onPool w i _ fun p => keeps_onHandle w name _ fun h => keeps_remove w i p h
  | close i name =>
    exact keeps_onPool w i _ fun p => keeps_onHandle w name _ fun h => keeps_close w i p h
  | closeAllShared i =>
    rw [act_closeAllShared_snd]
    exact keeps_onPool w i _ fun p => keeps_closeAll w i p
  | closeAllFiltered i f => exact keeps_onPool w i _ fun _ => Keeps.refl _
  | share source name => exact keeps_onHandle w source _ fun h => keeps_hold w name h
  | release name =>
    simp only [act]
    split
    · exact keeps_letGo { w with held := (w.held.unbind name).1 } _
    · exact Keeps.refl _
  | same a b =>
    exact keeps_onHandle w a _ fun _ => keeps_onHandle w b _ fun _ => Keeps.refl _
  | isClosed name => exact keeps_onHandle w name _ fun _ => Keeps.refl _
  | inspect name =>
    refine keeps_onHandle w name _ fun h => ?_
    split <;> exact Keeps.refl _
  | advance ms => exact keeps_onManualClock _ _ _
  | setElapsed ms => exact keeps_onManualClock _ _ _
  | clockElapsed => exact keeps_onManualClock _ _ _
  | sweep => exact keeps_sweep w
  | runPending => exact keeps_runPending w
  | setSwitches o c => exact Keeps.refl _
  | shutdown => exact keeps_shutdown w
  | start => exact Keeps.refl _
  | isRunning => exact Keeps.refl _
  | statistics i => exact keeps_onPool w i _ fun _ => Keeps.refl _
  | workerStatistics => exact Keeps.refl _
  | config i => exact keeps_onPool w i _ fun _ => Keeps.refl _
  | contextConfig => exact Keeps.refl _
  | isEmpty i => exact keeps_onPool w i _ fun _ => Keeps.refl _
  | size i => exact keeps_onPool w i _ fun _ => Keeps.refl _
  | newPool identity => exact Keeps.refl _
  | dropPool i => exact keeps_onPool w i _ fun p => keeps_dropPool w i p
  | wait goal =>
    simp only [act]
    split
    · exact Keeps.refl _
    · exact keeps_watch goal _ _
  | invalid m => exact Keeps.refl _

theorem keeps_runSteps (w : World) (ss : List PoolStep) : w.backend.Keeps (w.runSteps ss).2.backend :=
  rel_runSteps (fun w w' => w.backend.Keeps w'.backend) (fun _ => Keeps.refl _)
    (fun h₁ h₂ => h₁.trans h₂) (fun _ _ h => h) keeps_act w ss

/-- In every reachable world, each resource was passed to the backend's close once if it is
closed, and never if it is open. -/
theorem counted_of_reachable {w : World} (hw : w.Reachable) : w.backend.resources.Counted := by
  induction hw with
  | create config kind identity answers => intro r hr; simp [World.create] at hr
  | act s _ ih => exact (keeps_act _ s).2 ih
  | rescope scope _ ih => exact ih
  | settle _ ih => exact (keeps_settle _).2 ih
  | tick _ ih => exact ih
  | receive _ ih => exact (keeps_receive _).2 ih
  | stopCloser _ ih => exact (keeps_stopCloser _).2 ih
  | stopTracker _ ih => exact (keeps_stopTracker _).2 ih

/-- **At most one close per resource.** In every reachable world of any number of pools
sharing their workers, each resource has been passed to the backend's close once if it is
closed and never if it is open; a pass through its guard on an open resource closes it and
answers closed, failed or panicked, and on a closed one answers skipped and changes nothing;
and along every later script each resource stays at its place, a closed one exactly as it
was. -/
theorem resource_closed_at_most_once {w : World} (hw : w.Reachable) (ss : List PoolStep) :
    (∀ r ∈ w.backend.resources, r.closeCalls = if r.closed then 1 else 0) ∧
    (∀ (r : Resource) (reply : CloseReply),
      (r.closed = true → r.closeOnce reply = (.skipped, r)) ∧
      (r.closed = false → (r.closeOnce reply).2.closed = true ∧
        (r.closeOnce reply).2.closeCalls = r.closeCalls + 1 ∧
        ((r.closeOnce reply).1 = .closed ∨ (∃ reason, (r.closeOnce reply).1 =
          .failed (.backendClose r.describe reason)) ∨ ∃ m, (r.closeOnce reply).1 = .panicked m))) ∧
    w.backend.resources.Later (w.runSteps ss).2.backend.resources := by
  refine ⟨counted_of_reachable hw, ?_, (keeps_runSteps w ss).1⟩
  intro r reply
  refine ⟨fun hc => by simp [Resource.closeOnce, hc], fun ho => ?_⟩
  cases reply with
  | done => simp [Resource.closeOnce, ho]
  | refused reason => simp [Resource.closeOnce, ho]
  | panicked m => simp [Resource.closeOnce, ho]

/-- After a lookup that opens a resource and a close through its handle, the resource is closed
by one close call, and a second close leaves it as it was. -/
theorem resource_closed_at_most_once_after_close :
    let w := (((World.create {} .manual none).act
        (.get 0 "hdfs://nn1" (.direct "alice" .simple .empty) false (some "a"))).2.act
        (.close 0 "a")).2
    w.Reachable ∧ w.backend.resources.map (fun r => (r.closed, r.closeCalls)) = [(true, 1)] ∧
    ((∀ r ∈ w.backend.resources, r.closeCalls = if r.closed then 1 else 0) ∧
      (∀ (r : Resource) (reply : CloseReply),
        (r.closed = true → r.closeOnce reply = (.skipped, r)) ∧
        (r.closed = false → (r.closeOnce reply).2.closed = true ∧
          (r.closeOnce reply).2.closeCalls = r.closeCalls + 1 ∧
          ((r.closeOnce reply).1 = .closed ∨ (∃ reason, (r.closeOnce reply).1 =
            .failed (.backendClose r.describe reason)) ∨ ∃ m, (r.closeOnce reply).1 = .panicked m))) ∧
      w.backend.resources.Later (w.runSteps [.close 0 "a"]).2.backend.resources) := by
  intro w
  have hw : w.Reachable := ((Reachable.create {} .manual none .switched).act _).act _
  exact ⟨hw, by decide, resource_closed_at_most_once hw _⟩

end World

end HandlePool
