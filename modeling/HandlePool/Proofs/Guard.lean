import HandlePool.Reclaim.Grace
import HandlePool.Reclaim.Orphans
/-!
# The close guard over many passes

A pass through a resource's guard either finds it closed and leaves it exactly as it is, or
finds it open, closes it and asks the backend once. Whatever sequence of passes a list of
resources goes through, each resource therefore ends up as it was or closed by one pass
(`Resource.Later`), and the number of backend calls stays one for a closed resource and
none for an open one (`Resource.Counted`).

The grace queue and the orphan tracker close resources through an action on a state they do
not own. The lemmas of the second half lift a relation that every single close (or cleanup)
keeps, such as `Resources.Later`, to each of their operations.

* `Resources.later_closeOnce`, `Resources.counted_closeOnce`: one pass keeps both facts.
* `GraceQueue.rel_sweep`, `GraceQueue.rel_enqueue`, `GraceQueue.rel_shutdown`,
  `Orphans.rel_drain`, `Orphans.rel_post`, `Orphans.rel_shutdown`: what every close keeps,
  every operation of the queue and the tracker keeps.
* The `_of` forms: what the closes of the resources an operation holds keep, the operation
  keeps.
-/

namespace HandlePool

namespace Resource

/-- What a resource can become: itself, or, if it was open, closed by one pass through its
guard that asked the backend once. -/
def Later (r r' : Resource) : Prop :=
  r' = r ∨ r.closed = false ∧ r' = { r with closed := true, closeCalls := r.closeCalls + 1 }

/-- The backend was asked to close the resource once if it is closed, and never if it is open. -/
def Counted (r : Resource) : Prop := r.closeCalls = if r.closed then 1 else 0

theorem Later.refl (r : Resource) : r.Later r := Or.inl rfl

theorem Later.of_closed {r r' : Resource} (h : r.Later r') (hc : r.closed = true) : r' = r := by
  rcases h with rfl | ⟨ho, -⟩
  · rfl
  · rw [hc] at ho; cases ho

theorem Later.trans {r r' r'' : Resource} (h₁ : r.Later r') (h₂ : r'.Later r'') : r.Later r'' := by
  rcases h₁ with rfl | ⟨ho, rfl⟩
  · exact h₂
  · -- once closed, the second step cannot change it
    rw [h₂.of_closed rfl]
    exact Or.inr ⟨ho, rfl⟩

theorem Later.serial {r r' : Resource} (h : r.Later r') : r'.serial = r.serial := by
  rcases h with rfl | ⟨-, rfl⟩ <;> rfl

theorem Later.closed {r r' : Resource} (h : r.Later r') (hc : r.closed = true) :
    r'.closed = true := by
  rw [h.of_closed hc]; exact hc

theorem Later.counted {r r' : Resource} (h : r.Later r') (hc : r.Counted) : r'.Counted := by
  rcases h with rfl | ⟨ho, rfl⟩
  · exact hc
  · simp only [Counted, ho] at hc ⊢
    simp [hc]

theorem later_closeOnce (r : Resource) (reply : CloseReply) : r.Later (r.closeOnce reply).2 := by
  unfold closeOnce
  split
  · exact Later.refl r
  · rename_i ho
    right
    refine ⟨by simpa using ho, ?_⟩
    split <;> rfl

/-- A fresh resource, open and never closed, is counted. -/
theorem counted_of_open {r : Resource} (ho : r.closed = false) (hc : r.closeCalls = 0) :
    r.Counted := by
  simp [Counted, ho, hc]

end Resource

namespace Resources

/-- `rs'` is a later state of `rs`: each resource of `rs` is at the same place in `rs'`, as it
was or closed by one pass through its guard; resources opened since come after them. -/
def Later (rs rs' : Resources) : Prop :=
  ∀ (i : Nat) (r : Resource), rs[i]? = some r → ∃ r', rs'[i]? = some r' ∧ r.Later r'

/-- Every resource is counted. -/
def Counted (rs : Resources) : Prop := ∀ r ∈ rs, r.Counted

theorem Later.refl (rs : Resources) : rs.Later rs :=
  fun _ r h => ⟨r, h, Resource.Later.refl r⟩

theorem Later.trans {rs rs' rs'' : Resources} (h₁ : rs.Later rs') (h₂ : rs'.Later rs'') :
    rs.Later rs'' := by
  intro i r hr
  obtain ⟨r', hr', hl⟩ := h₁ i r hr
  obtain ⟨r'', hr'', hl'⟩ := h₂ i r' hr'
  exact ⟨r'', hr'', hl.trans hl'⟩

theorem later_append (rs extra : Resources) : rs.Later (rs ++ extra) := by
  intro i r hr
  have hi : i < rs.length := (List.getElem?_eq_some_iff.1 hr).1
  exact ⟨r, by rw [List.getElem?_append_left hi, hr], Resource.Later.refl r⟩

theorem later_closeOnce (rs : Resources) (serial : Nat) (reply : Resource → CloseReply) :
    rs.Later (rs.closeOnce serial reply).2 := by
  induction rs with
  | nil => intro i r hr; simp at hr
  | cons r rest ih =>
    intro i x hx
    unfold closeOnce
    split
    · cases i with
      | zero =>
        simp only [List.getElem?_cons_zero, Option.some.injEq] at hx ⊢
        subst hx
        exact ⟨_, rfl, Resource.later_closeOnce _ _⟩
      | succ i => exact ⟨x, by simpa using hx, Resource.Later.refl x⟩
    · cases i with
      | zero =>
        simp only [List.getElem?_cons_zero, Option.some.injEq] at hx ⊢
        subst hx
        exact ⟨_, rfl, Resource.Later.refl _⟩
      | succ i => simpa using ih i x (by simpa using hx)

theorem length_closeOnce (rs : Resources) (serial : Nat) (reply : Resource → CloseReply) :
    (rs.closeOnce serial reply).2.length = rs.length := by
  induction rs with
  | nil => rfl
  | cons r rest ih =>
    unfold closeOnce
    split
    · rfl
    · simp [ih]

/-- Every resource of a later state is a later state of a resource before, or new. -/
theorem Later.mem {rs rs' : Resources} (h : rs.Later rs') (hlen : rs'.length = rs.length)
    {r' : Resource} (hr' : r' ∈ rs') : ∃ r ∈ rs, r.Later r' := by
  obtain ⟨i, hi⟩ := List.mem_iff_getElem?.1 hr'
  have hlt : i < rs.length := by
    rw [← hlen]; exact (List.getElem?_eq_some_iff.1 hi).1
  obtain ⟨r, hr⟩ : ∃ r, rs[i]? = some r := ⟨rs[i], List.getElem?_eq_getElem hlt⟩
  obtain ⟨r'', hr'', hl⟩ := h i r hr
  rw [hi] at hr''
  cases hr''
  exact ⟨r, List.mem_of_getElem? hr, hl⟩

theorem counted_closeOnce {rs : Resources} (hc : rs.Counted) (serial : Nat)
    (reply : Resource → CloseReply) : (rs.closeOnce serial reply).2.Counted := by
  intro r' hr'
  obtain ⟨r, hr, hl⟩ := (later_closeOnce rs serial reply).mem (length_closeOnce rs serial reply) hr'
  exact hl.counted (hc r hr)

end Resources

namespace GraceQueue

/-! ## What every close keeps, the grace queue keeps

Each operation of the queue closes only resources it holds: a sweep and a shutdown those in
the queue, a hand-over after shutdown the one handed over. So a relation that the closes of
those resources keep, the operation keeps; one that every close keeps, every operation keeps. -/

section Rel

variable {σ : Type} (close : Nat → σ → CloseAttempt × σ) (R : σ → σ → Prop)
  (refl : ∀ s, R s s) (trans : ∀ {a b c : σ}, R a b → R b c → R a c)
  (hclose : ∀ n s, R s (close n s).2)

include refl trans in
theorem rel_closeEach_of (ps : List Pending) (hps : ∀ p ∈ ps, ∀ s, R s (close p.serial s).2)
    (q : GraceQueue) (s : σ) : R s (closeEach close ps (q, s)).2 := by
  induction ps generalizing q s with
  | nil => exact refl s
  | cons p ps ih =>
    rw [closeEach]
    exact trans (hps p List.mem_cons_self s)
      (ih (fun p' hp' => hps p' (List.mem_cons_of_mem _ hp')) _ _)

/-- A sweep closes only queued resources. -/
theorem takeDue_mem {q : GraceQueue} {now : Nat} {p : Pending} (hp : p ∈ (q.takeDue now).1) :
    p ∈ q.queue := by
  rw [← takeDue_append q now]
  exact List.mem_append_left _ hp

include refl trans in
theorem rel_sweep_of (now : Nat) (qs : GraceQueue × σ)
    (hq : ∀ p ∈ qs.1.queue, ∀ s, R s (close p.serial s).2) : R qs.2 (sweep close now qs).2.2 :=
  rel_closeEach_of close R refl trans _ (fun p hp => hq p (takeDue_mem hp)) _ _

include refl trans hclose in
theorem rel_sweep (now : Nat) (qs : GraceQueue × σ) : R qs.2 (sweep close now qs).2.2 :=
  rel_sweep_of close R refl trans now qs fun p _ => hclose p.serial

include refl trans in
theorem rel_enqueue_of (serial now : Nat) (qs : GraceQueue × σ)
    (hs : ∀ s, R s (close serial s).2) : R qs.2 (enqueue close serial now qs).2 := by
  unfold enqueue
  dsimp only
  split
  · exact refl _
  · split
    · exact rel_closeEach_of close R refl trans _ (fun p hp => by
        rw [List.mem_singleton.1 hp]; exact hs) _ _
    · exact refl _

include refl trans hclose in
theorem rel_enqueue (serial now : Nat) (qs : GraceQueue × σ) :
    R qs.2 (enqueue close serial now qs).2 :=
  rel_enqueue_of close R refl trans serial now qs (hclose serial)

include refl trans in
theorem rel_shutdown_of (qs : GraceQueue × σ)
    (hq : ∀ p ∈ qs.1.queue, ∀ s, R s (close p.serial s).2) : R qs.2 (shutdown close qs).2 := by
  unfold shutdown
  split
  · exact rel_closeEach_of close R refl trans _ hq _ _
  · exact refl _

include refl trans hclose in
theorem rel_shutdown (qs : GraceQueue × σ) : R qs.2 (shutdown close qs).2 :=
  rel_shutdown_of close R refl trans qs fun p _ => hclose p.serial

end Rel

end GraceQueue

namespace Orphans

/-! ## What every cleanup keeps, the orphan tracker keeps

Likewise the tracker runs only the cleanups of the notices it finalizes: those in its queue,
or after shutdown the one just posted. -/

section Rel

variable {κ σ : Type} [DecidableEq κ] (run : κ → σ → Bool × σ) (R : σ → σ → Prop)
  (refl : ∀ s, R s s) (trans : ∀ {a b c : σ}, R a b → R b c → R a c)
  (hrun : ∀ k s, R s (run k s).2)

include refl in
theorem rel_finalize_of (n : Notice κ) (os : Orphans κ × σ) (hn : ∀ s, R s (run n.cleanup s).2) :
    R os.2 (finalize run n os).2 := by
  unfold finalize
  split
  · exact refl _
  · exact hn os.2

include refl trans in
theorem rel_finalizeAll_of (ns : List (Notice κ)) (hns : ∀ x ∈ ns, ∀ s, R s (run x.cleanup s).2)
    (os : Orphans κ × σ) : R os.2 (finalizeAll run ns os).2 := by
  induction ns generalizing os with
  | nil => exact refl _
  | cons n ns ih =>
    rw [finalizeAll]
    exact trans (rel_finalize_of run R refl n os (hns n List.mem_cons_self))
      (ih (fun x hx => hns x (List.mem_cons_of_mem _ hx)) _)

include refl trans in
theorem rel_drain_of (os : Orphans κ × σ) (hq : ∀ x ∈ os.1.queue, ∀ s, R s (run x.cleanup s).2) :
    R os.2 (drain run os).2.2 :=
  rel_finalizeAll_of run R refl trans os.1.queue hq ({ os.1 with queue := [] }, os.2)

include refl trans hrun in
theorem rel_drain (os : Orphans κ × σ) : R os.2 (drain run os).2.2 :=
  rel_drain_of run R refl trans os fun x _ => hrun x.cleanup

include refl in
theorem rel_receive_of (os : Orphans κ × σ) (hq : ∀ x ∈ os.1.queue, ∀ s, R s (run x.cleanup s).2) :
    R os.2 (receive run os).2 := by
  cases h : os.1.queue with
  | nil =>
    rw [receive_of_queue_nil run os h]
    exact refl _
  | cons n ns =>
    rw [receive_of_queue_cons run os h]
    exact rel_finalize_of run R refl n ({ os.1 with queue := ns }, os.2) (hq n (h ▸ List.mem_cons_self))

include refl hrun in
theorem rel_receive (os : Orphans κ × σ) : R os.2 (receive run os).2 :=
  rel_receive_of run R refl os fun x _ => hrun x.cleanup

include refl in
theorem rel_post_of (n : Notice κ) (os : Orphans κ × σ) (hn : ∀ s, R s (run n.cleanup s).2) :
    R os.2 (post run n os).2 := by
  unfold post
  split
  · exact rel_finalize_of run R refl n os hn
  · exact refl _

include refl hrun in
theorem rel_post (n : Notice κ) (os : Orphans κ × σ) : R os.2 (post run n os).2 :=
  rel_post_of run R refl n os (hrun n.cleanup)

include refl trans in
theorem rel_shutdown_of (os : Orphans κ × σ)
    (hq : ∀ x ∈ os.1.queue, ∀ s, R s (run x.cleanup s).2) : R os.2 (shutdown run os).2 :=
  rel_drain_of run R refl trans ({ os.1 with stopped := true, working := false }, os.2) hq

include refl trans hrun in
theorem rel_shutdown (os : Orphans κ × σ) : R os.2 (shutdown run os).2 :=
  rel_shutdown_of run R refl trans os fun x _ => hrun x.cleanup

end Rel

end Orphans

end HandlePool
