import Mathlib.Data.List.Nodup
import HandlePool.Proofs.CloseOnce
/-!
# The ledger of a world: who holds each resource, and what waits for it

A resource of a world is closed, or some holder (a caller's name or an entry of a live pool)
holds a handle on it, or the notice that its last holder let go waits in the orphan tracker's
queue (`Accounted`). Every operation keeps this, although in the middle of an operation a
holder may already be gone while its handle has not yet been let go; `Ledger D` is the ledger
of a world in which the handles of `D` are in that state, and `Ledger []` is the ledger of a
world between operations.

The ledger also records the facts that make this work: resources are numbered 1, 2, … and
each handle is registered under its resource's number; a waiting notice is for a resource that
nobody holds; a cleanup that started closed its resource; a resource in the grace queue is in
no live pool; and in the pools, keys are distinct within a pool and a resource is in at most
one entry.

* `Resources.shut_closeOnce`: a pass through the guard of an opened resource leaves it closed.
* `holds_iff`: the world's `holds` test says that some holder holds the handle.
* `Ledger.tracker`: a tracker operation that only takes notices off, closing their resources,
  keeps the ledger.
* `ledger_letGo`, `ledger_evict`, `ledger_runPending`, `ledger_receive`, `ledger_sweep`,
  `ledger_stopCloser`, `ledger_stopTracker`: the operations of the workers keep the ledger.
-/

namespace HandlePool

namespace Resources

/-- The resource with serial `n` is closed. -/
def Shut (rs : Resources) (n : Nat) : Prop := ∃ r ∈ rs, r.serial = n ∧ r.closed = true

/-- Serials are 1, 2, … in the order of opening. -/
def Numbered (rs : Resources) : Prop := rs.map (·.serial) = List.range' 1 rs.length

theorem Later.shut {rs rs' : Resources} (h : rs.Later rs') {n : Nat} (hs : rs.Shut n) :
    rs'.Shut n := by
  obtain ⟨r, hr, hsr, hc⟩ := hs
  obtain ⟨i, hi⟩ := List.mem_iff_getElem?.1 hr
  obtain ⟨r', hr', hl⟩ := h i r hi
  exact ⟨r', List.mem_of_getElem? hr', hl.serial ▸ hsr, hl.closed hc⟩

theorem Later.map_serial {rs rs' : Resources} (h : rs.Later rs') (hlen : rs'.length = rs.length) :
    rs'.map (·.serial) = rs.map (·.serial) := by
  apply List.ext_getElem?
  intro i
  simp only [List.getElem?_map]
  cases hi : rs[i]? with
  | none =>
    have : rs'.length ≤ i := by rw [hlen]; exact List.getElem?_eq_none_iff.1 hi
    rw [List.getElem?_eq_none_iff.2 this]
  | some r =>
    obtain ⟨r', hr', hl⟩ := h i r hi
    rw [hr']
    simp [hl.serial]

theorem Later.exists_serial {rs rs' : Resources} (h : rs.Later rs') {n : Nat}
    (hn : ∃ r ∈ rs, r.serial = n) : ∃ r ∈ rs', r.serial = n := by
  obtain ⟨r, hr, hs⟩ := hn
  obtain ⟨i, hi⟩ := List.mem_iff_getElem?.1 hr
  obtain ⟨r', hr', hl⟩ := h i r hi
  exact ⟨r', List.mem_of_getElem? hr', hl.serial ▸ hs⟩

theorem shut_closeOnce (rs : Resources) (n : Nat) (reply : Resource → CloseReply)
    (hn : ∃ r ∈ rs, r.serial = n) : (rs.closeOnce n reply).2.Shut n := by
  induction rs with
  | nil => obtain ⟨r, hr, -⟩ := hn; cases hr
  | cons r rest ih =>
    unfold closeOnce
    split
    · rename_i hs
      -- the first resource with this serial is the one the pass closes
      refine ⟨_, List.mem_cons_self, ?_, Resource.closeOnce_closed r _⟩
      rw [(Resource.later_closeOnce r (reply r)).serial]
      simpa using hs
    · rename_i hs
      have hrest : ∃ x ∈ rest, x.serial = n := by
        obtain ⟨x, hx, hxs⟩ := hn
        rcases List.mem_cons.1 hx with rfl | hx
        · exact absurd (by simpa using hxs) hs
        · exact ⟨x, hx, hxs⟩
      obtain ⟨x, hx, hxs, hxc⟩ := ih hrest
      exact ⟨x, List.mem_cons_of_mem _ hx, hxs, hxc⟩

theorem Numbered.mem {rs : Resources} (h : rs.Numbered) {r : Resource} (hr : r ∈ rs) :
    0 < r.serial ∧ r.serial ≤ rs.length := by
  have hm : r.serial ∈ rs.map (·.serial) := List.mem_map_of_mem hr
  rw [h, List.mem_range'_1] at hm
  omega

theorem Numbered.exists_serial {rs : Resources} (h : rs.Numbered) {n : Nat} (h0 : 0 < n)
    (hn : n ≤ rs.length) : ∃ r ∈ rs, r.serial = n := by
  have hm : n ∈ rs.map (·.serial) := by
    rw [h, List.mem_range'_1]
    omega
  simpa using hm

theorem Numbered.eq_of_serial {rs : Resources} (h : rs.Numbered) {r r' : Resource} (hr : r ∈ rs)
    (hr' : r' ∈ rs) (hs : r.serial = r'.serial) : r = r' := by
  have hnd : (rs.map (·.serial)).Nodup := by
    rw [h]; exact List.nodup_range'
  exact List.inj_on_of_nodup_map hnd hr hr' hs

theorem Numbered.append {rs : Resources} (h : rs.Numbered) {r : Resource}
    (hr : r.serial = rs.length + 1) : (rs ++ [r]).Numbered := by
  unfold Numbered at h ⊢
  rw [List.map_append, h, List.length_append, List.length_singleton, List.range'_1_concat]
  simp [hr, Nat.add_comm]

theorem Numbered.later {rs rs' : Resources} (h : rs.Numbered) (hl : rs.Later rs')
    (hlen : rs'.length = rs.length) : rs'.Numbered := by
  unfold Numbered at h ⊢
  rw [hl.map_serial hlen, h, hlen]

end Resources

namespace Backend

/-- `b'` is `b` after closes through the guards only: a later state in which no resource was
opened. -/
def Steady (b b' : Backend) : Prop := b.Keeps b' ∧ b'.resources.length = b.resources.length

theorem Steady.refl (b : Backend) : b.Steady b := ⟨Keeps.refl b, rfl⟩

theorem Steady.trans {b b' b'' : Backend} (h₁ : b.Steady b') (h₂ : b'.Steady b'') :
    b.Steady b'' :=
  ⟨h₁.1.trans h₂.1, h₂.2.trans h₁.2⟩

theorem steady_close (n : Nat) (b : Backend) : b.Steady (b.close n).2 :=
  ⟨keeps_close n b, Resources.length_closeOnce _ _ _⟩

theorem steady_cleanup (n : Nat) (b : Backend) : b.Steady (b.cleanup n).2 := steady_close n b

theorem shut_close {n : Nat} {b : Backend} (hn : ∃ r ∈ b.resources, r.serial = n) :
    (b.close n).2.resources.Shut n :=
  Resources.shut_closeOnce _ _ _ hn

end Backend

namespace World

/-- The entry `e` is in the live pool with index `j`. -/
def CachedAt (w : World) (j : Nat) (e : Entry) : Prop := ∃ p, w.pool? j = some p ∧ e ∈ p.entries

/-- A caller's name or an entry of a live pool holds the handle. -/
def Holds (w : World) (h : Handle) : Prop :=
  (∃ name, (name, h) ∈ w.held) ∨ ∃ j e, w.CachedAt j e ∧ e.handle = h

/-- The serial `n` is one the backend has given to a resource. -/
def Issued (w : World) (n : Nat) : Prop := 0 < n ∧ n ≤ w.backend.resources.length

/-- The resource `n` is closed, held, or its notice waits in the tracker's queue. -/
def Accounted (w : World) (n : Nat) : Prop :=
  w.backend.resources.Shut n ∨ (∃ h, w.Holds h ∧ h.serial = n) ∨ ∃ x ∈ w.orphans.queue, x.cleanup = n

theorem holds_iff (w : World) (h : Handle) : w.holds h = true ↔ w.Holds h := by
  unfold holds Holds CachedAt
  simp only [Bool.or_eq_true, List.any_eq_true, beq_iff_eq, Prod.exists]
  apply or_congr
  · constructor
    · rintro ⟨name, h', hmem, rfl⟩; exact ⟨name, hmem⟩
    · rintro ⟨name, hmem⟩; exact ⟨name, h, hmem, rfl⟩
  · constructor
    · rintro ⟨p?, hp?, hh⟩
      obtain ⟨j, hj⟩ := List.mem_iff_getElem?.1 hp?
      cases p? with
      | none => cases hh
      | some p =>
        simp only [Pool.holds, List.any_eq_true, beq_iff_eq] at hh
        obtain ⟨e, he, rfl⟩ := hh
        exact ⟨j, e, ⟨p, by simp [pool?, hj], he⟩, rfl⟩
    · rintro ⟨j, e, ⟨p, hp, he⟩, rfl⟩
      have hj : w.pools[j]? = some (some p) := by
        unfold pool? at hp
        cases h' : w.pools[j]? with
        | none => rw [h'] at hp; cases hp
        | some q => rw [h'] at hp; simp at hp; rw [hp]
      refine ⟨some p, List.mem_of_getElem? hj, ?_⟩
      simp only [Pool.holds, List.any_eq_true, beq_iff_eq]
      exact ⟨e, he, rfl⟩

/-- The ledger of a world in which the handles of `D` have lost a holder and are not yet let
go. -/
structure Ledger (D : List Handle) (w : World) : Prop where
  numbered : w.backend.resources.Numbered
  /-- Registrations are numbered like resources, modulo `2 ^ 64`. -/
  nextId : w.orphans.nextId = UInt64.ofNat (w.backend.resources.length + 1)
  handle : ∀ h, w.Holds h → h.registration = UInt64.ofNat h.serial ∧ w.Issued h.serial
  dropped : ∀ h ∈ D, h.registration = UInt64.ofNat h.serial ∧ w.Issued h.serial
  /-- A waiting notice is registered under its resource's serial and closes that resource,
  which nobody holds. -/
  notice : ∀ x ∈ w.orphans.queue, x.id = UInt64.ofNat x.cleanup ∧ w.Issued x.cleanup ∧
    ∀ h, w.Holds h → h.serial ≠ x.cleanup
  started : ∀ id ∈ w.orphans.started, w.backend.resources.Shut id
  accounted : ∀ n, w.Issued n → w.Accounted n ∨ ∃ h ∈ D, h.serial = n
  /-- A resource waiting in the grace queue is in no live pool. -/
  grace : ∀ p ∈ w.grace.queue, p.serial ≤ w.backend.resources.length ∧
    ∀ j e, w.CachedAt j e → e.handle.serial ≠ p.serial
  names : (w.held.map (·.1)).Nodup
  keys : ∀ j p, w.pool? j = some p → (p.entries.map (·.key)).Nodup
  /-- A resource is in at most one entry of one live pool. -/
  single : ∀ j j' e e', w.CachedAt j e → w.CachedAt j' e' → e.handle.serial = e'.handle.serial →
    j = j' ∧ e = e'
  /-- The grace queue is in the order of eviction, and no entry was stamped after the clock's
  reading. -/
  ordered : w.grace.queue.Pairwise fun p p' => p.evictedAt ≤ p'.evictedAt
  stamped : ∀ p ∈ w.grace.queue, p.evictedAt ≤ w.clock.elapsed

theorem cachedAt_congr {w w' : World} (hp : w'.pools = w.pools) (j : Nat) (e : Entry) :
    w'.CachedAt j e ↔ w.CachedAt j e := by
  unfold CachedAt pool?
  rw [hp]

theorem holds_congr {w w' : World} (hp : w'.pools = w.pools) (hh : w'.held = w.held) (h : Handle) :
    w'.Holds h ↔ w.Holds h := by
  unfold Holds
  simp only [hh, cachedAt_congr hp]

/-- How the grace queue may change from `w` to `w'`: the clock does not go back, entries are
dropped, and new entries come last, for opened resources in no live pool, stamped with the
clock's reading. -/
def GraceGrows (w w' : World) : Prop :=
  w.clock.elapsed ≤ w'.clock.elapsed ∧ ∃ new, w'.grace.queue.Sublist (w.grace.queue ++ new) ∧
    ∀ p ∈ new, p.evictedAt = w'.clock.elapsed ∧ p.serial ≤ w.backend.resources.length ∧
      ∀ j e, w.CachedAt j e → e.handle.serial ≠ p.serial

theorem GraceGrows.of_sublist {w w' : World} (hc : w.clock.elapsed ≤ w'.clock.elapsed)
    (h : w'.grace.queue.Sublist w.grace.queue) : GraceGrows w w' :=
  ⟨hc, [], by simpa using h, fun _ hp => by cases hp⟩

theorem GraceGrows.of_eq {w w' : World} (hc : w'.clock = w.clock)
    (h : w'.grace.queue = w.grace.queue) : GraceGrows w w' :=
  .of_sublist (hc ▸ Nat.le_refl _) (h ▸ List.Sublist.refl _)

/-- A queue that only grew by entries stamped with the clock's reading stays in the order of
eviction: the old entries are in order and none is later than the old reading, which is not
later than the new one. -/
theorem GraceGrows.ordered {w w' : World} (hg : GraceGrows w w')
    (hord : w.grace.queue.Pairwise fun p p' => p.evictedAt ≤ p'.evictedAt)
    (hst : ∀ p ∈ w.grace.queue, p.evictedAt ≤ w.clock.elapsed) :
    w'.grace.queue.Pairwise fun p p' => p.evictedAt ≤ p'.evictedAt := by
  obtain ⟨hclock, new, hsub, hnew⟩ := hg
  refine List.Pairwise.sublist hsub (List.pairwise_append.2 ⟨hord, ?_, ?_⟩)
  · refine List.pairwise_of_forall_mem_list ?_
    intro a ha b hb
    exact Nat.le_of_eq ((hnew a ha).1.trans (hnew b hb).1.symm)
  · intro a ha b hb
    rw [(hnew b hb).1]
    exact Nat.le_trans (hst a ha) hclock

theorem GraceGrows.stamped {w w' : World} (hg : GraceGrows w w')
    (hst : ∀ p ∈ w.grace.queue, p.evictedAt ≤ w.clock.elapsed) :
    ∀ p ∈ w'.grace.queue, p.evictedAt ≤ w'.clock.elapsed := by
  obtain ⟨hclock, new, hsub, hnew⟩ := hg
  intro p hp
  rcases List.mem_append.1 (hsub.subset hp) with hold | hp
  · exact Nat.le_trans (hst p hold) hclock
  · exact Nat.le_of_eq (hnew p hp).1

/-- The ledger survives any change that leaves the holders alone, closes resources only
through their guards, and otherwise only drops notices and grace entries or queues new ones for
resources in no live pool: a notice that left the queue, a cleanup that started and a handle no
longer pending must each have their resource closed. -/
theorem Ledger.mono {D D' : List Handle} {w w' : World} (hl : w.Ledger D)
    (hpools : w'.pools = w.pools) (hheld : w'.held = w.held)
    (hst : w.backend.Steady w'.backend) (hnext : w'.orphans.nextId = w.orphans.nextId)
    (hqueue : ∀ x ∈ w'.orphans.queue, x ∈ w.orphans.queue)
    (hgone : ∀ x ∈ w.orphans.queue, x ∈ w'.orphans.queue ∨ w'.backend.resources.Shut x.cleanup)
    (hstarted : ∀ id ∈ w'.orphans.started, id ∈ w.orphans.started ∨ w'.backend.resources.Shut id)
    (hgrace : GraceGrows w w')
    (hD' : ∀ h ∈ D', h ∈ D) (hD : ∀ h ∈ D, h ∈ D' ∨ w'.Accounted h.serial) :
    w'.Ledger D' := by
  obtain ⟨hkeeps, hlen⟩ := hst
  have hord := hgrace.ordered hl.ordered hl.stamped
  have hstamped := hgrace.stamped hl.stamped
  obtain ⟨-, new, hsub, hnew⟩ := hgrace
  have hiss : ∀ n, w'.Issued n ↔ w.Issued n := fun n => by simp only [Issued, hlen]
  have hho := holds_congr hpools hheld
  have hca := cachedAt_congr hpools
  refine ⟨hl.numbered.later hkeeps.1 hlen, by rw [hnext, hl.nextId, hlen], ?_, ?_, ?_, ?_, ?_, ?_,
    by rw [hheld]; exact hl.names, ?_, ?_, hord, hstamped⟩
  · intro h hh
    rw [hiss]
    exact hl.handle h ((hho h).1 hh)
  · intro h hh
    rw [hiss]
    exact hl.dropped h (hD' h hh)
  · intro x hx
    obtain ⟨hc, hi, hfree⟩ := hl.notice x (hqueue x hx)
    exact ⟨hc, (hiss _).2 hi, fun h hh => hfree h ((hho h).1 hh)⟩
  · intro id hid
    rcases hstarted id hid with hold | hshut
    · exact hkeeps.1.shut (hl.started id hold)
    · exact hshut
  · intro n hn
    rcases hl.accounted n ((hiss n).1 hn) with (hs | ⟨h, hh, hs⟩ | ⟨x, hx, hs⟩) | ⟨h, hd, hs⟩
    · exact Or.inl (Or.inl (hkeeps.1.shut hs))
    · exact Or.inl (Or.inr (Or.inl ⟨h, (hho h).2 hh, hs⟩))
    · rcases hgone x hx with hx' | hshut
      · exact Or.inl (Or.inr (Or.inr ⟨x, hx', hs⟩))
      · exact Or.inl (Or.inl (hs ▸ hshut))
    · rcases hD h hd with hd' | hacc
      · exact Or.inr ⟨h, hd', hs⟩
      · exact Or.inl (hs ▸ hacc)
  · intro p hp
    rcases List.mem_append.1 (hsub.subset hp) with hold | hp
    · obtain ⟨hle, hfree⟩ := hl.grace p hold
      exact ⟨hlen ▸ hle, fun j e he => hfree j e ((hca j e).1 he)⟩
    · obtain ⟨-, hle, hfree⟩ := hnew p hp
      exact ⟨hlen ▸ hle, fun j e he => hfree j e ((hca j e).1 he)⟩
  · intro j p hp
    exact hl.keys j p (by simpa [pool?, hpools] using hp)
  · intro j j' e e' he he' hs
    exact hl.single j j' e e' ((hca j e).1 he) ((hca j' e').1 he') hs

/-- The ledger reads only the backend, the pools, the holders, the grace queue's entries, the
tracker's queue, started cleanups and next number, and the clock, which may move forward. -/
theorem Ledger.congr {D : List Handle} {w w' : World} (hl : w.Ledger D)
    (hb : w'.backend = w.backend) (hpools : w'.pools = w.pools) (hheld : w'.held = w.held)
    (hgrace : w'.grace.queue = w.grace.queue) (hqueue : w'.orphans.queue = w.orphans.queue)
    (hstarted : w'.orphans.started = w.orphans.started)
    (hnext : w'.orphans.nextId = w.orphans.nextId) (hclock : w.clock.elapsed ≤ w'.clock.elapsed) :
    w'.Ledger D :=
  hl.mono hpools hheld (hb ▸ Backend.Steady.refl _) hnext (fun _ hx => hqueue ▸ hx)
    (fun _ hx => Or.inl (hqueue ▸ hx)) (fun _ hid => Or.inl (hstarted ▸ hid))
    (.of_sublist hclock (hgrace ▸ List.Sublist.refl _)) (fun _ hh => hh) (fun _ hh => Or.inl hh)

/-- Closing resources through their guards keeps the ledger. -/
theorem Ledger.of_backend {D : List Handle} {w : World} (hl : w.Ledger D) {b : Backend}
    (hst : w.backend.Steady b) : ({ w with backend := b }).Ledger D :=
  hl.mono rfl rfl hst rfl (fun _ hx => hx) (fun _ hx => Or.inl hx) (fun _ hid => Or.inl hid)
    (.of_eq rfl rfl) (fun _ hh => hh) (fun _ hh => Or.inl hh)

end World

/-! ## Cleanups close their resources -/

namespace Orphans

open Backend

/-- Finalizing a notice whose cleanup closes an opened resource leaves that resource closed,
and every started cleanup's resource stays closed. -/
theorem finalize_spec (x : Notice Nat) (o : Orphans Nat) (b : Backend)
    (hex : ∃ r ∈ b.resources, r.serial = x.cleanup) (hst : ∀ id ∈ o.started, b.resources.Shut id) :
    ∃ o' b', finalize Backend.cleanup x (o, b) = (o', b') ∧ o'.queue = o.queue ∧
      o'.nextId = o.nextId ∧ b.Steady b' ∧ (∀ id ∈ o'.started, b'.resources.Shut id) ∧
      b'.resources.Shut x.cleanup := by
  by_cases hin : x.cleanup ∈ o.started
  · rw [finalize_of_started _ _ _ hin]
    exact ⟨_, b, rfl, rfl, rfl, Steady.refl b, hst, hst x.cleanup hin⟩
  · -- the cleanup runs now: it closes the resource through its guard
    rw [finalize_of_not_started _ _ _ hin]
    have hshut : (b.cleanup x.cleanup).2.resources.Shut x.cleanup := shut_close hex
    have hs : b.Steady (b.cleanup x.cleanup).2 := steady_cleanup _ _
    refine ⟨_, (b.cleanup x.cleanup).2, rfl, rfl, rfl, hs, fun id hid => ?_, hshut⟩
    rcases List.mem_cons.1 hid with rfl | hid
    · exact hshut
    · exact hs.1.1.shut (hst id hid)

theorem finalizeAll_spec (ns : List (Notice Nat)) (o : Orphans Nat) (b : Backend)
    (hns : ∀ x ∈ ns, ∃ r ∈ b.resources, r.serial = x.cleanup)
    (hst : ∀ id ∈ o.started, b.resources.Shut id) :
    ∃ o' b', finalizeAll Backend.cleanup ns (o, b) = (o', b') ∧ o'.queue = o.queue ∧
      o'.nextId = o.nextId ∧ b.Steady b' ∧ (∀ id ∈ o'.started, b'.resources.Shut id) ∧
      ∀ x ∈ ns, b'.resources.Shut x.cleanup := by
  induction ns generalizing o b with
  | nil => exact ⟨o, b, rfl, rfl, rfl, Steady.refl b, hst, by simp⟩
  | cons x ns ih =>
    obtain ⟨o₁, b₁, he₁, hq₁, hn₁, hs₁, hst₁, hshut₁⟩ :=
      finalize_spec x o b (hns x List.mem_cons_self) hst
    have hns₁ : ∀ y ∈ ns, ∃ r ∈ b₁.resources, r.serial = y.cleanup :=
      fun y hy => hs₁.1.1.exists_serial (hns y (List.mem_cons_of_mem _ hy))
    obtain ⟨o₂, b₂, he₂, hq₂, hn₂, hs₂, hst₂, hshut₂⟩ := ih o₁ b₁ hns₁ hst₁
    refine ⟨o₂, b₂, ?_, hq₂.trans hq₁, hn₂.trans hn₁, hs₁.trans hs₂, hst₂, ?_⟩
    · rw [finalizeAll, he₁, he₂]
    · intro y hy
      rcases List.mem_cons.1 hy with rfl | hy
      · exact hs₂.1.1.shut hshut₁
      · exact hshut₂ y hy

/-- A drain finalizes every waiting notice: it leaves the queue empty and the resource of each
notice closed. -/
theorem drain_spec (o : Orphans Nat) (b : Backend)
    (hns : ∀ x ∈ o.queue, ∃ r ∈ b.resources, r.serial = x.cleanup)
    (hst : ∀ id ∈ o.started, b.resources.Shut id) :
    ∃ o' b', (drain Backend.cleanup (o, b)).2 = (o', b') ∧ o'.queue = [] ∧ o'.nextId = o.nextId ∧
      b.Steady b' ∧ (∀ id ∈ o'.started, b'.resources.Shut id) ∧
      ∀ x ∈ o.queue, b'.resources.Shut x.cleanup :=
  finalizeAll_spec o.queue { o with queue := [] } b hns hst

/-- The loop's receive finalizes the oldest waiting notice, if any: it leaves the rest of the
queue waiting and that notice's resource closed. -/
theorem receive_spec (o : Orphans Nat) (b : Backend)
    (hns : ∀ x ∈ o.queue, ∃ r ∈ b.resources, r.serial = x.cleanup)
    (hst : ∀ id ∈ o.started, b.resources.Shut id) :
    ∃ o' b', receive Backend.cleanup (o, b) = (o', b') ∧ o'.queue = o.queue.tail ∧
      o'.nextId = o.nextId ∧ b.Steady b' ∧ (∀ id ∈ o'.started, b'.resources.Shut id) ∧
      ∀ x ∈ o.queue.head?, b'.resources.Shut x.cleanup := by
  cases hq : o.queue with
  | nil => exact ⟨o, b, receive_of_queue_nil _ (o, b) hq, hq, rfl, Steady.refl b, hst, by simp⟩
  | cons x ns =>
    obtain ⟨o', b', he, hq', hn, hs, hst', hshut⟩ :=
      finalize_spec x { o with queue := ns } b (hns x (hq ▸ List.mem_cons_self)) hst
    exact ⟨o', b', (receive_of_queue_cons _ (o, b) hq).trans he, hq', hn, hs, hst',
      by simpa using hshut⟩

end Orphans

namespace GraceQueue

variable {σ : Type} (close : Nat → σ → CloseAttempt × σ)

/-- A sweep only takes entries out of the queue. -/
theorem sublist_sweep (now : Nat) (qs : GraceQueue × σ) :
    (sweep close now qs).2.1.queue.Sublist qs.1.queue := by
  have hq : (sweep close now qs).2.1.queue = (qs.1.takeDue now).2.queue :=
    queue_closeEach close _ _ _
  rw [hq]
  conv_rhs => rw [← takeDue_append qs.1 now]
  exact List.sublist_append_right _ _

/-- Handing a resource over adds at most its own entry, at the back. -/
theorem sublist_enqueue (serial now : Nat) (qs : GraceQueue × σ) :
    (enqueue close serial now qs).1.queue.Sublist (qs.1.queue ++ [⟨serial, now⟩]) := by
  unfold enqueue
  dsimp only
  split
  · exact List.Sublist.refl _
  · split
    · rw [queue_closeEach]
      exact List.sublist_append_left _ _
    · exact List.sublist_append_left _ _

end GraceQueue

namespace World

open Backend

/-! ## The workers keep the ledger -/

section Workers

variable {D : List Handle} {w : World}

/-- A notice for a handle that nobody holds any more takes the handle's place in the ledger. -/
theorem Ledger.post {h : Handle} (hl : w.Ledger (h :: D)) (hfree : w.holds h = false) :
    ({ w with orphans := { w.orphans with
        queue := w.orphans.queue ++ [Notice.mk h.registration h.serial] } }).Ledger D := by
  obtain ⟨hreg, hiss⟩ := hl.dropped h List.mem_cons_self
  -- a holder of the same resource would hold this very handle: both carry its number twice
  have hnone : ∀ h', w.Holds h' → h'.serial ≠ h.serial := by
    intro h' hh' hs
    obtain ⟨hreg', -⟩ := hl.handle h' hh'
    have he : h' = h := by
      cases h'
      cases h
      simp_all
    rw [he, ← holds_iff, hfree] at hh'
    cases hh'
  refine ⟨hl.numbered, hl.nextId, hl.handle, fun h' hd => hl.dropped h' (List.mem_cons_of_mem _ hd),
    ?_, hl.started, ?_, hl.grace, hl.names, hl.keys, hl.single, hl.ordered, hl.stamped⟩
  · intro x hx
    rcases List.mem_append.1 hx with hx | hx
    · exact hl.notice x hx
    · rw [List.mem_singleton.1 hx]
      exact ⟨hreg, hiss, hnone⟩
  · intro n hn
    rcases hl.accounted n hn with hacc | ⟨h', hd, hs⟩
    · rcases hacc with hs | hh | ⟨x, hx, hs⟩
      · exact Or.inl (Or.inl hs)
      · exact Or.inl (Or.inr (Or.inl hh))
      · exact Or.inl (Or.inr (Or.inr ⟨x, List.mem_append_left _ hx, hs⟩))
    · rcases List.mem_cons.1 hd with heq | hd
      · rw [heq] at hs
        exact Or.inl (Or.inr (Or.inr ⟨⟨h.registration, h.serial⟩,
          List.mem_append_right _ (List.mem_singleton_self _), hs⟩))
      · exact Or.inr ⟨h', hd, hs⟩

/-- Letting go of a handle settles its place in the ledger: it is still held, or its notice
waits, or (after shutdown) its resource is closed. -/
theorem ledger_letGo {h : Handle} (hl : w.Ledger (h :: D)) : (w.letGo h).Ledger D := by
  unfold letGo
  split
  · rename_i hheld
    refine hl.mono rfl rfl (Steady.refl _) rfl (fun _ hx => hx) (fun _ hx => Or.inl hx)
      (fun _ hid => Or.inl hid) (.of_eq rfl rfl) (fun _ hd => List.mem_cons_of_mem _ hd) ?_
    intro h' hd
    rcases List.mem_cons.1 hd with rfl | hd
    · exact Or.inr (Or.inr (Or.inl ⟨h', (holds_iff w h').1 hheld, rfl⟩))
    · exact Or.inl hd
  · rename_i hfree
    rw [withOrphans_eq]
    unfold Orphans.post
    split
    · -- after shutdown the cleanup runs at once and closes the resource
      obtain ⟨-, hpos, hle⟩ := hl.dropped h List.mem_cons_self
      obtain ⟨o', b', he, hq, hn, hst, hst', hshut⟩ :=
        Orphans.finalize_spec ⟨h.registration, h.serial⟩ w.orphans w.backend
          (hl.numbered.exists_serial hpos hle) hl.started
      rw [he]
      refine hl.mono rfl rfl hst hn (fun _ hx => hq ▸ hx) (fun _ hx => Or.inl (hq ▸ hx))
        (fun id hid => Or.inr (hst' id hid)) (.of_eq rfl rfl)
        (fun _ hd => List.mem_cons_of_mem _ hd) ?_
      intro h' hd
      rcases List.mem_cons.1 hd with rfl | hd
      · exact Or.inr (Or.inl hshut)
      · exact Or.inl hd
    · exact hl.post (by simpa using hfree)

theorem ledger_letGoAll {hs : List Handle} (hl : w.Ledger (hs ++ D)) :
    (w.letGoAll hs).Ledger D := by
  induction hs generalizing w with
  | nil => exact hl
  | cons h hs ih =>
    rw [letGoAll_cons]
    exact ih (ledger_letGo hl)

/-- Handing an opened resource that no live pool has to the grace queue keeps the ledger. -/
theorem ledger_evict {n : Nat} (hl : w.Ledger D) (hn : n ≤ w.backend.resources.length)
    (hfree : ∀ j e, w.CachedAt j e → e.handle.serial ≠ n) : (w.evict n).Ledger D := by
  rw [evict, withGrace_eq]
  have hst : w.backend.Steady
      (GraceQueue.enqueue Backend.close n w.clock.elapsed (w.grace, w.backend)).2 :=
    GraceQueue.rel_enqueue Backend.close Steady Steady.refl Steady.trans steady_close n
      w.clock.elapsed (w.grace, w.backend)
  -- the new entry, if any, is stamped with the clock's reading and comes last
  refine hl.mono rfl rfl hst rfl (fun _ hx => hx) (fun _ hx => Or.inl hx) (fun _ hid => Or.inl hid)
    ⟨Nat.le_refl _, [⟨n, w.clock.elapsed⟩], GraceQueue.sublist_enqueue Backend.close _ _ _, ?_⟩
    (fun _ hd => hd) (fun _ hd => Or.inl hd)
  intro p hp
  rw [List.mem_singleton.1 hp]
  exact ⟨rfl, hn, hfree⟩

theorem ledger_closeResource (hl : w.Ledger D) (n : Nat) : (w.closeResource n).2.Ledger D :=
  hl.of_backend (steady_close n w.backend)

theorem ledger_sweep (hl : w.Ledger D) : w.sweep.2.Ledger D := by
  have hst : w.backend.Steady w.sweep.2.backend :=
    GraceQueue.rel_sweep Backend.close Steady Steady.refl Steady.trans steady_close
      w.clock.elapsed (w.grace, w.backend)
  exact hl.mono rfl rfl hst rfl (fun _ hx => hx) (fun _ hx => Or.inl hx) (fun _ hid => Or.inl hid)
    (.of_sublist (Nat.le_refl _) (GraceQueue.sublist_sweep Backend.close _ _)) (fun _ hd => hd)
    (fun _ hd => Or.inl hd)

/-- A tracker operation that only takes notices off the queue keeps the ledger, if the backend
only closed resources, every notice taken off has its resource closed, and so has every started
cleanup. -/
theorem Ledger.tracker {o' : Orphans Nat} {b' : Backend} (hl : w.Ledger D)
    (hst : w.backend.Steady b') (hn : o'.nextId = w.orphans.nextId)
    (hq : ∀ x ∈ o'.queue, x ∈ w.orphans.queue)
    (hgone : ∀ x ∈ w.orphans.queue, x ∈ o'.queue ∨ b'.resources.Shut x.cleanup)
    (hstarted : ∀ id ∈ o'.started, b'.resources.Shut id) :
    ({ w with orphans := o', backend := b' }).Ledger D :=
  hl.mono rfl rfl hst hn hq hgone (fun id hid => Or.inr (hstarted id hid)) (.of_eq rfl rfl)
    (fun _ hd => hd) (fun _ hd => Or.inl hd)

/-- Every waiting notice of a world with a ledger is for an opened resource. -/
theorem Ledger.notice_opened (hl : w.Ledger D) :
    ∀ x ∈ w.orphans.queue, ∃ r ∈ w.backend.resources, r.serial = x.cleanup := by
  intro x hx
  obtain ⟨-, ⟨hpos, hle⟩, -⟩ := hl.notice x hx
  exact hl.numbered.exists_serial hpos hle

/-- Draining the tracker's queue keeps the ledger: each waiting notice has its resource closed. -/
theorem Ledger.drain (hl : w.Ledger D) :
    ({ w with
      orphans := (Orphans.drain Backend.cleanup (w.orphans, w.backend)).2.1
      backend := (Orphans.drain Backend.cleanup (w.orphans, w.backend)).2.2 }).Ledger D := by
  obtain ⟨o', b', he, hq, hn, hst, hst', hshut⟩ :=
    Orphans.drain_spec w.orphans w.backend hl.notice_opened hl.started
  rw [he]
  refine hl.tracker hst hn (fun x hx => ?_) (fun x hx => Or.inr (hshut x hx)) hst'
  rw [hq] at hx
  cases hx

/-- The loop's receive keeps the ledger: the oldest notice has its resource closed, and the
others still wait. -/
theorem ledger_receive (hl : w.Ledger D) : w.receive.Ledger D := by
  unfold receive
  split
  · rw [withOrphans_eq]
    obtain ⟨o', b', he, hq, hn, hst, hst', hshut⟩ :=
      Orphans.receive_spec w.orphans w.backend hl.notice_opened hl.started
    rw [he]
    refine hl.tracker hst hn (fun x hx => ?_) (fun x hx => ?_) hst'
    · rw [hq] at hx
      exact List.mem_of_mem_tail hx
    · -- the oldest notice was finalized; every other one is still waiting
      rw [hq]
      cases hwq : w.orphans.queue with
      | nil => rw [hwq] at hx; cases hx
      | cons y ys =>
        rw [hwq] at hx hshut
        rcases List.mem_cons.1 hx with rfl | hx
        · exact Or.inr (hshut x rfl)
        · exact Or.inl hx
  · exact hl

theorem ledger_runPending (hl : w.Ledger D) : w.runPending.2.Ledger D :=
  hl.drain

/-- Shutting the grace queue down keeps the ledger: it closes or abandons what it held and is
left empty. -/
theorem ledger_stopCloser (hl : w.Ledger D) : w.stopCloser.Ledger D := by
  rw [stopCloser, withGrace_eq]
  have hst := GraceQueue.rel_shutdown Backend.close Steady Steady.refl Steady.trans steady_close
    (w.grace, w.backend)
  refine hl.mono rfl rfl hst rfl (fun _ hx => hx) (fun _ hx => Or.inl hx) (fun _ hid => Or.inl hid)
    (.of_sublist (Nat.le_refl _) ?_) (fun _ hd => hd) (fun _ hd => Or.inl hd)
  rw [(GraceQueue.queue_shutdown Backend.close _).1]
  exact List.nil_sublist _

/-- Shutting the tracker down keeps the ledger: it stops its loop and drains its queue. -/
theorem ledger_stopTracker (hl : w.Ledger D) : w.stopTracker.Ledger D := by
  have hstop : ({ w with orphans := { w.orphans with stopped := true, working := false } }).Ledger D :=
    hl.congr rfl rfl rfl rfl rfl rfl rfl (Nat.le_refl _)
  exact hstop.drain

theorem ledger_shutdown (hl : w.Ledger D) : w.shutdown.Ledger D :=
  ledger_stopTracker (ledger_stopCloser hl)

theorem ledger_settle (hl : w.Ledger D) : w.settle.Ledger D := by
  have hloop : (if w.orphans.isRunning then w.runPending.2 else w).Ledger D := by
    split
    · exact ledger_runPending hl
    · exact hl
  unfold settle
  dsimp only
  generalize (if w.orphans.isRunning then w.runPending.2 else w) = w₁ at hloop ⊢
  split
  · exact ledger_sweep hloop
  · exact hloop

theorem ledger_tick (hl : w.Ledger D) : w.tick.Ledger D :=
  hl.congr rfl rfl rfl rfl rfl rfl rfl (Clock.le_tick _)

theorem ledger_start (hl : w.Ledger D) : w.start.Ledger D := by
  have hg : w.grace.start.queue = w.grace.queue := by
    unfold GraceQueue.start; split <;> rfl
  have ho : w.orphans.start = { w.orphans with working := w.orphans.start.working } := by
    unfold Orphans.start; split <;> rfl
  exact hl.congr rfl rfl rfl hg (by simp only [start]; rw [ho]) (by simp only [start]; rw [ho])
    (by simp only [start]; rw [ho]) (Nat.le_refl _)

end Workers

end World

end HandlePool
