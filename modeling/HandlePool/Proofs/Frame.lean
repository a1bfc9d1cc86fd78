import HandlePool.Session.Pool
/-!
# What each operation of a world changes

Each lemma here gives the shape of one operation: the world it returns is the world it was
given with some fields replaced, and every other field as it was. Later proofs take the
replaced fields from these lemmas and never unfold the operation for the others.

* Letting go of handles changes only the tracker and the backend (`letGo_shape`,
  `letGoAll_shape`); handing a resource to the grace queue only the queue and the backend
  (`evict_shape`); the workers only the queue, the tracker and the backend (`settle_shape`).
* `pool?_setPool`, `pool?_dropPool`: replacing or dropping a pool changes it at its index and
  nowhere else.
* `closeEntries_induction`: a bulk close closes and lets go of each entry in turn, or only lets
  go once a close has panicked; what both keep, it keeps.
* `lookupAs_true`, `lookupAs_false`: a session's lookup, exclusive with the number it draws
  from the pool's counter, or shared with 0.
-/

namespace HandlePool

namespace World

variable (w : World)

theorem withGrace_eq (f : GraceQueue × Backend → GraceQueue × Backend) :
    w.withGrace f =
      { w with
        grace := (f (w.grace, w.backend)).1
        backend := (f (w.grace, w.backend)).2 } := rfl

theorem withOrphans_eq (f : Orphans Nat × Backend → Orphans Nat × Backend) :
    w.withOrphans f =
      { w with
        orphans := (f (w.orphans, w.backend)).1
        backend := (f (w.orphans, w.backend)).2 } := rfl

theorem letGo_shape (h : Handle) : ∃ o b, w.letGo h = { w with orphans := o, backend := b } := by
  unfold letGo
  split
  · exact ⟨w.orphans, w.backend, rfl⟩
  · exact ⟨_, _, withOrphans_eq w _⟩

theorem letGoAll_shape (hs : List Handle) :
    ∃ o b, w.letGoAll hs = { w with orphans := o, backend := b } := by
  induction hs generalizing w with
  | nil => exact ⟨w.orphans, w.backend, rfl⟩
  | cons h hs ih =>
    obtain ⟨o, b, he⟩ := letGo_shape w h
    obtain ⟨o', b', he'⟩ := ih (w.letGo h)
    refine ⟨o', b', ?_⟩
    simp only [letGoAll, List.foldl_cons] at he' ⊢
    rw [he', he]

theorem letGoAll_cons (h : Handle) (hs : List Handle) :
    w.letGoAll (h :: hs) = (w.letGo h).letGoAll hs := rfl

theorem evict_shape (n : Nat) : ∃ q b, w.evict n = { w with grace := q, backend := b } :=
  ⟨_, _, withGrace_eq w _⟩

theorem runPending_shape : ∃ o b, w.runPending.2 = { w with orphans := o, backend := b } :=
  ⟨_, _, rfl⟩

theorem settle_shape : ∃ q o b, w.settle = { w with grace := q, orphans := o, backend := b } := by
  -- the tracker's loop acts first, then the sweeper; each changes its own part and the backend
  have loop : ∃ o b, (if w.orphans.isRunning then w.runPending.2 else w) =
      { w with orphans := o, backend := b } := by
    split
    · exact runPending_shape w
    · exact ⟨w.orphans, w.backend, rfl⟩
  obtain ⟨o, b, he⟩ := loop
  unfold settle
  dsimp only
  rw [he]
  split
  · exact ⟨_, o, _, rfl⟩
  · exact ⟨w.grace, o, b, rfl⟩

theorem pool?_setPool {i : Nat} {p : Pool} (hp : w.pool? i = some p) (q : Pool) (j : Nat) :
    (w.setPool i q).pool? j = if j = i then some q else w.pool? j := by
  have hi : i < w.pools.length := by
    unfold pool? at hp
    cases h : w.pools[i]? with
    | none => rw [h] at hp; cases hp
    | some _ => exact (List.getElem?_eq_some_iff.1 h).1
  unfold pool? setPool
  rw [List.getElem?_set]
  by_cases hj : j = i
  · subst hj; simp [hi]
  · simp [Ne.symm hj, hj]

theorem pool?_dropPool (i j : Nat) :
    ({ w with pools := w.pools.set i none }).pool? j = if j = i then none else w.pool? j := by
  unfold pool?
  rw [List.getElem?_set]
  by_cases hj : j = i
  · subst hj
    simp only [if_true]
    split <;> rfl
  · simp [Ne.symm hj, hj]

theorem letGo_pools (h : Handle) : (w.letGo h).pools = w.pools := by
  obtain ⟨o, b, he⟩ := letGo_shape w h
  rw [he]

theorem letGoAll_pools (hs : List Handle) : (w.letGoAll hs).pools = w.pools := by
  obtain ⟨o, b, he⟩ := letGoAll_shape w hs
  rw [he]

theorem evict_pools (n : Nat) : (w.evict n).pools = w.pools := by
  obtain ⟨q, b, he⟩ := evict_shape w n
  rw [he]

/-- What holds of the world with pool `i` emptied, for the entries left to drain, and is kept
by closing the first one's resource and by letting go of its handle, holds of the world a bulk
close leaves: each entry's resource is closed, unless a close has panicked, and its handle let
go. -/
theorem closeEntries_induction (P : List Entry → World → Prop) (i : Nat) (p : Pool)
    (es : List Entry)
    (hclose : ∀ e es w, P (e :: es) w → P (e :: es) (w.closeResource e.handle.serial).2)
    (hlet : ∀ e es w, P (e :: es) w → P es (w.letGo e.handle))
    (h₀ : P es (w.setPool i { p with entries := [] })) : P [] (w.closeEntries i p es).2 := by
  unfold closeEntries
  -- the fold from any start, whatever it has gathered so far
  generalize w.setPool i { p with entries := [] } = w₀ at h₀
  generalize hacc : (({} : Gathered), w₀) = acc
  rw [show w₀ = acc.2 by rw [← hacc]] at h₀
  clear hacc
  induction es generalizing acc with
  | nil => exact h₀
  | cons e es ih =>
    rw [List.foldl_cons]
    apply ih
    dsimp only
    split
    · exact hlet e es _ h₀
    · exact hlet e es _ (hclose e es _ h₀)

/-- Whatever a session's bulk close answers, it leaves the world the bulk close leaves. -/
theorem act_closeAllShared_snd (i : Nat) :
    (w.act (.closeAllShared i)).2 = (w.onPool i fun p => (.value .unit, (w.closeAll i p).2)).2 := by
  simp only [act, onPool]
  split
  · rcases w.closeAll i _ with ⟨⟨errs, pn⟩, w₁⟩
    rcases pn with _ | m <;> rcases errs with _ | ⟨e, _ | ⟨e', rest⟩⟩ <;> rfl
  · rfl

/-- An exclusive lookup looks up with the number it draws, in the pool with its counter moved
on. -/
theorem lookupAs_true (i : Nat) (p : Pool) (t : Target) (pr : Principal) (name : Option String) :
    w.lookupAs i p t pr true name =
      (w.setPool i p.drawUnique.2).answerLookup i p.drawUnique.2 t pr p.nextUnique.toNat name :=
  rfl

theorem lookupAs_false (i : Nat) (p : Pool) (t : Target) (pr : Principal) (name : Option String) :
    w.lookupAs i p t pr false name = w.answerLookup i p t pr 0 name :=
  rfl

end World

end HandlePool
