import HandlePool.Proofs.Ownership
/-!
# Opening and looking up keep the ledger

A lookup discards a closed entry under its key, then either hits, rotates the entry out, or
misses and opens a new handle, purging the closed entries of a full pool first. A new handle is
on a resource the backend has just opened, so nothing else refers to it yet: no entry, no
notice and no grace entry has its serial. It is registered under the same number, waits for a
holder for a moment (`Ledger.register`) and is adopted by its pool (`Ledger.adopt`).

* `ledger_openHandle`: opening keeps the ledger, and the handle it answers is held by its pool.
* `ledger_lookup`: so does every lookup, hit, rotation or miss.
* `ledger_lookupAs`: and a lookup whose handle is then held under a name.
-/

namespace HandlePool

namespace Backend

theorem openOn_ok {b b' : Backend} {t : Target} {props : Properties} {r : Resource}
    (h : b.openOn t props = .ok (r, b')) :
    r.serial = b.resources.length + 1 ∧ b'.resources = b.resources ++ [r] := by
  unfold openOn at h
  split at h
  · cases h
  · simp only [Except.ok.injEq, Prod.mk.injEq] at h
    obtain ⟨rfl, rfl⟩ := h
    exact ⟨rfl, rfl⟩

end Backend

namespace Pool

theorem find?_none_of_sublist {p q : Pool} {k : CacheKey} (hsub : q.entries.Sublist p.entries)
    (h : p.find? k = none) : q.find? k = none := by
  unfold find?
  rw [List.find?_eq_none]
  intro e he
  exact List.find?_eq_none.1 h e (hsub.subset he)

end Pool

namespace World

section Opening

variable {D : List Handle} {w : World}

theorem Issued.le {n : Nat} (h : w.Issued n) : n ≤ w.backend.resources.length := h.2

/-- A resource the backend has just opened, registered with the tracker under the next number,
is the one handle that waits for a holder. -/
theorem Ledger.register (hl : w.Ledger D) {r : Resource} {b : Backend}
    (hr : r.serial = w.backend.resources.length + 1) (hb : b.resources = w.backend.resources ++ [r]) :
    ({ w with backend := b, orphans := w.orphans.register.2 }).Ledger
      (⟨r.serial, w.orphans.register.1⟩ :: D) := by
  have hlen : b.resources.length = w.backend.resources.length + 1 := by simp [hb]
  have hlater : w.backend.resources.Later b.resources := hb ▸ Resources.later_append _ _
  -- every serial issued before is still issued
  have hiss : ∀ n, w.Issued n → 0 < n ∧ n ≤ b.resources.length := fun n hn =>
    ⟨hn.1, by have := hn.le; omega⟩
  have hreg : w.orphans.register.1 = UInt64.ofNat r.serial := by
    rw [hr, ← hl.nextId]
    rfl
  refine ⟨hb ▸ hl.numbered.append hr, ?_, fun h hh => ?_, ?_, fun x hx => ?_,
    fun id hid => hlater.shut (hl.started id hid), fun n hn => ?_, fun g hg => ?_, hl.names,
    hl.keys, hl.single, hl.ordered, hl.stamped⟩
  · show w.orphans.nextId + 1 = UInt64.ofNat (b.resources.length + 1)
    rw [hl.nextId, hlen, UInt64.ofNat_add (w.backend.resources.length + 1) 1]
    rfl
  · obtain ⟨hreg', hi⟩ := hl.handle h hh
    exact ⟨hreg', hiss _ hi⟩
  · intro h hd
    rcases List.mem_cons.1 hd with rfl | hd
    · exact ⟨hreg, show 0 < r.serial by omega, show r.serial ≤ b.resources.length by omega⟩
    · obtain ⟨hreg', hi⟩ := hl.dropped h hd
      exact ⟨hreg', hiss _ hi⟩
  · obtain ⟨hc, hi, hfree⟩ := hl.notice x hx
    exact ⟨hc, hiss _ hi, hfree⟩
  · have hn₂ : n ≤ b.resources.length := hn.2
    by_cases hnew : n = b.resources.length
    · -- the new resource: its handle waits
      exact Or.inr ⟨_, List.mem_cons_self, by rw [hnew, hlen, hr]⟩
    · have hold : w.Issued n := ⟨hn.1, by omega⟩
      rcases hl.accounted n hold with (hs | hh | hq) | ⟨h, hd, hs⟩
      · exact Or.inl (Or.inl (hlater.shut hs))
      · exact Or.inl (Or.inr (Or.inl hh))
      · exact Or.inl (Or.inr (Or.inr hq))
      · exact Or.inr ⟨h, List.mem_cons_of_mem _ hd, hs⟩
  · obtain ⟨hle, hfree⟩ := hl.grace g hg
    exact ⟨show g.serial ≤ b.resources.length by omega, hfree⟩

/-- Appending an entry to a live pool caches it there and changes nothing else. -/
theorem cachedAt_setPool_append {i : Nat} {p q : Pool} {e : Entry} (hp : w.pool? i = some p)
    (hq : q.entries = p.entries ++ [e]) (j : Nat) (e' : Entry) :
    (w.setPool i q).CachedAt j e' ↔ w.CachedAt j e' ∨ j = i ∧ e' = e := by
  rw [cachedAt_setPool hp, hq]
  constructor
  · rintro (⟨rfl, he'⟩ | ⟨-, hc⟩)
    · rcases List.mem_append.1 he' with he' | he'
      · exact Or.inl ⟨p, hp, he'⟩
      · exact Or.inr ⟨rfl, List.mem_singleton.1 he'⟩
    · exact Or.inl hc
  · rintro (hc | ⟨rfl, rfl⟩)
    · by_cases hj : j = i
      · subst hj
        obtain ⟨p', hp', he'⟩ := hc
        rw [hp] at hp'
        cases hp'
        exact Or.inl ⟨rfl, List.mem_append_left _ he'⟩
      · exact Or.inr ⟨hj, hc⟩
    · exact Or.inl ⟨rfl, List.mem_append_right _ (List.mem_singleton_self _)⟩

theorem holds_setPool_append {i : Nat} {p q : Pool} {e : Entry} (hp : w.pool? i = some p)
    (hq : q.entries = p.entries ++ [e]) (h : Handle) :
    (w.setPool i q).Holds h ↔ w.Holds h ∨ h = e.handle := by
  have hca := cachedAt_setPool_append hp hq
  constructor
  · rintro (hn | ⟨j, e', he', rfl⟩)
    · exact Or.inl (Or.inl hn)
    · rcases (hca j e').1 he' with hc | ⟨-, rfl⟩
      · exact Or.inl (Or.inr ⟨j, e', hc, rfl⟩)
      · exact Or.inr rfl
  · rintro ((hn | ⟨j, e', he', rfl⟩) | rfl)
    · exact Or.inl hn
    · exact Or.inr ⟨j, e', (hca j e').2 (Or.inl he'), rfl⟩
    · exact Or.inr ⟨i, e, (hca i e).2 (Or.inr ⟨rfl, rfl⟩), rfl⟩

/-- An entry whose handle waits for a holder, on a resource that no entry, notice or grace
entry refers to, joins a live pool under a key the pool does not have. -/
theorem Ledger.adopt {i : Nat} {p q : Pool} {e : Entry} (hl : w.Ledger (e.handle :: D))
    (hp : w.pool? i = some p) (hq : q.entries = p.entries ++ [e])
    (hkey : ∀ e' ∈ p.entries, e'.key ≠ e.key)
    (hfresh : ∀ j e', w.CachedAt j e' → e'.handle.serial ≠ e.handle.serial)
    (hnotice : ∀ x ∈ w.orphans.queue, x.cleanup ≠ e.handle.serial)
    (hgrace : ∀ g ∈ w.grace.queue, g.serial ≠ e.handle.serial) : (w.setPool i q).Ledger D := by
  have hca := cachedAt_setPool_append hp hq
  have hho := holds_setPool_append hp hq
  refine ⟨hl.numbered, hl.nextId, fun h hh => ?_, fun h hd => hl.dropped h (List.mem_cons_of_mem _ hd),
    fun x hx => ?_, hl.started, fun n hn => ?_, fun g hg => ?_, hl.names, fun j q' hq' => ?_,
    fun j j' e₁ e₂ h₁ h₂ hs => ?_, hl.ordered, hl.stamped⟩
  · rcases (hho h).1 hh with hh | rfl
    · exact hl.handle h hh
    · exact hl.dropped _ List.mem_cons_self
  · obtain ⟨hc, hi, hfree⟩ := hl.notice x hx
    refine ⟨hc, hi, fun h hh => ?_⟩
    rcases (hho h).1 hh with hh | rfl
    · exact hfree h hh
    · exact (hnotice x hx).symm
  · rcases hl.accounted n hn with (hs | ⟨h, hh, hs⟩ | hq) | ⟨h, hd, hs⟩
    · exact Or.inl (Or.inl hs)
    · exact Or.inl (Or.inr (Or.inl ⟨h, (hho h).2 (Or.inl hh), hs⟩))
    · exact Or.inl (Or.inr (Or.inr hq))
    · rcases List.mem_cons.1 hd with rfl | hd
      · exact Or.inl (Or.inr (Or.inl ⟨e.handle, (hho _).2 (Or.inr rfl), hs⟩))
      · exact Or.inr ⟨h, hd, hs⟩
  · obtain ⟨hle, hfree⟩ := hl.grace g hg
    refine ⟨hle, fun j e' he' => ?_⟩
    rcases (hca j e').1 he' with hc | ⟨-, rfl⟩
    · exact hfree j e' hc
    · exact (hgrace g hg).symm
  · rw [pool?_setPool w hp] at hq'
    split at hq'
    · cases hq'
      rw [hq, List.map_append, List.nodup_append]
      refine ⟨hl.keys i p hp, List.nodup_singleton _, ?_⟩
      intro a ha b hb hab
      obtain ⟨e', he', rfl⟩ := List.mem_map.1 ha
      rw [List.mem_singleton.1 hb] at hab
      exact hkey e' he' hab
    · exact hl.keys j q' hq'
  · -- the new entry is the only one on its resource
    rcases (hca j e₁).1 h₁ with c₁ | ⟨rfl, rfl⟩
    · rcases (hca j' e₂).1 h₂ with c₂ | ⟨rfl, rfl⟩
      · exact hl.single j j' e₁ e₂ c₁ c₂ hs
      · exact absurd hs (hfresh j e₁ c₁)
    · rcases (hca j' e₂).1 h₂ with c₂ | ⟨rfl, rfl⟩
      · exact absurd hs.symm (hfresh j' e₂ c₂)
      · exact ⟨rfl, rfl⟩

/-- Opening a handle under a key its pool does not have keeps the ledger; the handle it answers
is held by its pool. The pool passed in has the live pool's entries. -/
theorem ledger_openHandle {i : Nat} {p₀ p : Pool} {key : CacheKey} (hl : w.Ledger D)
    (hp : w.pool? i = some p₀) (hentries : p.entries = p₀.entries) (hkey : p.find? key = none)
    (t : Target) (creds : TokenSet) :
    (w.openHandle i p key t creds).2.Ledger D ∧
      ∀ h, (w.openHandle i p key t creds).1 = .ok h → (w.openHandle i p key t creds).2.Holds h := by
  unfold openHandle
  split
  · exact ⟨hl.setPool_entries hp hentries, fun h hh => by cases hh⟩
  · rename_i r b hopen
    obtain ⟨hr, hb⟩ := Backend.openOn_ok hopen
    have h₁ := hl.register hr hb
    have hp₁ : ({ w with backend := b, orphans := w.orphans.register.2 }).pool? i = some p₀ := hp
    -- nothing refers to the new resource: everything else is on a serial issued before
    have hold : ∀ n, w.Issued n → n ≠ r.serial := fun n hn => by have := hn.le; omega
    have hq : ((p.insert ⟨key, ⟨r.serial, w.orphans.register.1⟩, creds⟩).count Recorder.creation).entries =
        p₀.entries ++ [⟨key, ⟨r.serial, w.orphans.register.1⟩, creds⟩] := by
      rw [← hentries]
      rfl
    have hl₂ := h₁.adopt hp₁ hq (fun e' he' => Pool.key_ne_of_find?_none hkey e' (hentries ▸ he'))
      (fun j e' he' => hold _ (hl.handle _ (Or.inr ⟨j, e', he', rfl⟩)).2)
      (fun x hx => hold _ (hl.notice x hx).2.1)
      (fun g hg => by have := (hl.grace g hg).1; show g.serial ≠ r.serial; omega)
    refine ⟨hl₂, fun h hh => ?_⟩
    cases hh
    refine Or.inr ⟨i, ⟨key, ⟨r.serial, w.orphans.register.1⟩, creds⟩,
      (cachedAt_setPool hp₁ _ i _).2 (Or.inl ⟨rfl, ?_⟩), rfl⟩
    rw [hq]
    exact List.mem_append_right _ (List.mem_singleton_self _)

/-- Discarding the closed entry under a key keeps the ledger, and the pool it answers is the
live one. -/
theorem ledger_discardClosed {i : Nat} {p : Pool} (hl : w.Ledger D) (hp : w.pool? i = some p)
    (key : CacheKey) :
    (w.discardClosed i p key).2.Ledger D ∧
      (w.discardClosed i p key).2.pool? i = some (w.discardClosed i p key).1 := by
  unfold discardClosed
  split
  · rename_i e hf
    split
    · have hpool : ((w.setPool i (p.erase key)).letGo e.handle).pool? i = some (p.erase key) := by
        rw [pool?, letGo_pools, ← pool?, pool?_setPool w hp, if_pos rfl]
      exact ⟨ledger_letGo (hl.takeOut hp (hl.takesOut_erase hp hf)), hpool⟩
    · exact ⟨hl, hp⟩
  · exact ⟨hl, hp⟩

/-- Purging the entries on closed resources keeps the ledger. -/
theorem ledger_purge {i : Nat} {p : Pool} (hl : w.Ledger D) (hp : w.pool? i = some p) :
    (w.purge i p).2.Ledger D ∧ (w.purge i p).2.pool? i = some (w.purge i p).1 ∧
      (w.purge i p).1.entries.Sublist p.entries := by
  unfold purge
  dsimp only
  refine ⟨ledger_letGoAll (hl.setPool hp List.filter_sublist ?_ ?_), ?_, List.filter_sublist⟩
  · -- an entry that went is on a closed resource
    intro e he hq
    exact List.mem_map_of_mem (List.mem_filter.2 ⟨he, by simpa [he] using hq⟩)
  · intro h hh
    obtain ⟨e, he, rfl⟩ := List.mem_map.1 hh
    exact ⟨e, (List.mem_filter.1 he).1, rfl⟩
  · rw [pool?, letGoAll_pools, ← pool?, pool?_setPool w hp, if_pos rfl]

/-- A lookup keeps the ledger, and the handle it answers is held by its pool. -/
theorem ledger_lookup {i : Nat} {p : Pool} (hl : w.Ledger D) (hp : w.pool? i = some p) (t : Target)
    (pr : Principal) (u : Nat) :
    (w.lookup i p t pr u).2.Ledger D ∧
      ∀ h, (w.lookup i p t pr u).1 = .ok h → (w.lookup i p t pr u).2.Holds h := by
  unfold lookup
  split
  · exact ⟨hl, fun h hh => by cases hh⟩
  · exact ⟨hl, fun h hh => by cases hh⟩
  · rename_i key creds _ _
    obtain ⟨hd, hdp⟩ := ledger_discardClosed hl hp key
    generalize w.discardClosed i p key = d at hd hdp ⊢
    obtain ⟨p₁, w₁⟩ := d
    dsimp only
    split
    · rename_i e hf
      split
      · -- a rotation: the entry leaves for the grace queue and a new handle is opened
        have ht := (hd.takesOut_erase hdp hf).count Recorder.rotation
        have hpool : (((w₁.setPool i ((p₁.erase key).count Recorder.rotation)).evict
            e.handle.serial).letGo e.handle).pool? i = some ((p₁.erase key).count Recorder.rotation) := by
          rw [pool?, letGo_pools, evict_pools, ← pool?, pool?_setPool w₁ hdp, if_pos rfl]
        have hentries : ((p₁.erase key).count Recorder.rotation).entries =
            ((p₁.erase key).count Recorder.rotation).entries := rfl
        exact ledger_openHandle (hd.evictOut hdp ht) hpool hentries (Pool.find?_erase p₁ key) t creds
      · -- a hit: the handle is the entry's
        refine ⟨hd.setPool_entries hdp rfl, fun h hh => ?_⟩
        cases hh
        exact Or.inr ⟨i, e, (cachedAt_setPool hdp _ i e).2 (Or.inl ⟨rfl, (Pool.find?_spec hf).1⟩), rfl⟩
    · -- a miss, after purging a full pool
      rename_i hf
      have hpu : (if w₁.config.maxCacheSize ≤ p₁.size then w₁.purge i p₁ else (p₁, w₁)).2.Ledger D ∧
          (if w₁.config.maxCacheSize ≤ p₁.size then w₁.purge i p₁ else (p₁, w₁)).2.pool? i =
            some (if w₁.config.maxCacheSize ≤ p₁.size then w₁.purge i p₁ else (p₁, w₁)).1 ∧
          (if w₁.config.maxCacheSize ≤ p₁.size then w₁.purge i p₁ else (p₁, w₁)).1.entries.Sublist
            p₁.entries := by
        split
        · exact ledger_purge hd hdp
        · exact ⟨hd, hdp, List.Sublist.refl _⟩
      generalize (if w₁.config.maxCacheSize ≤ p₁.size then w₁.purge i p₁ else (p₁, w₁)) = d at hpu ⊢
      obtain ⟨p₂, w₂⟩ := d
      obtain ⟨hl₂, hp₂, hsub₂⟩ := hpu
      dsimp only
      split
      · exact ⟨hl₂.setPool_entries hp₂ rfl, fun h hh => by cases hh⟩
      · have hentries : (p₂.count Recorder.miss).entries = p₂.entries := rfl
        exact ledger_openHandle hl₂ hp₂ hentries (Pool.find?_none_of_sublist hsub₂ hf) t creds

theorem ledger_answerLookup {i : Nat} {p : Pool} (hl : w.Ledger D) (hp : w.pool? i = some p)
    (t : Target) (pr : Principal) (u : Nat) (name : Option String) :
    (w.answerLookup i p t pr u name).2.Ledger D := by
  have hlk := ledger_lookup hl hp t pr u
  unfold answerLookup
  generalize w.lookup i p t pr u = l at hlk ⊢
  obtain ⟨r, w₁⟩ := l
  obtain ⟨hl₁, hheld⟩ := hlk
  cases r with
  | error e => exact hl₁
  | ok h =>
    dsimp only
    cases name with
    | none => exact hl₁
    | some n => exact ledger_hold hl₁ (hheld h rfl) n

theorem ledger_lookupAs {i : Nat} {p : Pool} (hl : w.Ledger D) (hp : w.pool? i = some p)
    (t : Target) (pr : Principal) (exclusive : Bool) (name : Option String) :
    (w.lookupAs i p t pr exclusive name).2.Ledger D := by
  cases exclusive with
  | true =>
    -- drawing the unique number changes the pool's counter, not its entries
    rw [lookupAs_true]
    have hp' : (w.setPool i p.drawUnique.2).pool? i = some p.drawUnique.2 := by
      rw [pool?_setPool w hp, if_pos rfl]
    have hentries : p.drawUnique.2.entries = p.entries := rfl
    exact ledger_answerLookup (hl.setPool_entries hp hentries) hp' t pr _ name
  | false =>
    rw [lookupAs_false]
    exact ledger_answerLookup hl hp t pr 0 name

end Opening

end World

end HandlePool
