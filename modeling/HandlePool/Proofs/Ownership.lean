import HandlePool.Proofs.Ledger
/-!
# Holders come and go: the pool operations keep the ledger

A handle changes holders in four ways: a caller holds it under a name or lets the name go; an
entry takes it into a pool, or leaves its pool (taken out on a remove or a close, erased on a
rotation, purged when its resource is closed, emptied by a bulk close, dropped with its pool).
Each of these keeps the ledger once the handles that lost a holder are counted as waiting to be
let go, and letting them go afterwards (`ledger_letGo`) settles the ledger again.

* `Ledger.shrink`: a world that only lost holders keeps the ledger, with the handles that lost
  their last holder waiting.
* `Ledger.uncached_of_takenOut`: once an entry is taken out of its pool, no live pool has its
  resource any more; this is what makes handing that resource to the grace queue safe.
* `Ledger.adopt`: an entry for a freshly opened resource joins its pool.
* `ledger_remove`, `ledger_close`, `ledger_closeAll`, `ledger_dropPool`, `ledger_hold`: the
  operations on pools and names keep the ledger.
-/

namespace HandlePool

namespace Named

variable {α : Type} {ns : Named α} {name : String}

theorem mem_of_lookup {v : α} (h : ns.lookup name = some v) : (name, v) ∈ ns := by
  obtain ⟨l₁, l₂, rfl, -⟩ := List.lookup_eq_some_iff.1 h
  simp

/-- With distinct names, the value under a name is the one stored with it. -/
theorem lookup_of_mem (hnd : (ns.map (·.1)).Nodup) {k : String} {v : α} (h : (k, v) ∈ ns) :
    ns.lookup k = some v := by
  induction ns with
  | nil => cases h
  | cons x ns ih =>
    obtain ⟨k', v'⟩ := x
    rw [List.map_cons, List.nodup_cons] at hnd
    rw [List.lookup_cons]
    rcases List.mem_cons.1 h with he | h
    · cases he
      simp
    · have hne : (k == k') = false := by
        have hk : k ∈ ns.map (·.1) := List.mem_map.2 ⟨_, h, rfl⟩
        simpa using fun he : k = k' => hnd.1 (he ▸ hk)
      simp only [hne]
      exact ih hnd.2 h

theorem bind_snd (v : α) : (ns.bind name v).2 = ns.lookup name := by
  unfold bind
  cases ns.lookup name <;> rfl

theorem mem_bind {v : α} {x : String × α} (hx : x ∈ (ns.bind name v).1) :
    x ∈ ns ∨ x = (name, v) := by
  unfold bind at hx
  split at hx
  · obtain ⟨⟨k, y⟩, hy, rfl⟩ := List.mem_map.1 hx
    by_cases hk : k = name
    · subst hk; simp
    · simp [hk, hy]
  · rcases List.mem_append.1 hx with hx | hx
    · exact Or.inl hx
    · exact Or.inr (List.mem_singleton.1 hx)

theorem nodup_bind (hnd : (ns.map (·.1)).Nodup) (v : α) : ((ns.bind name v).1.map (·.1)).Nodup := by
  unfold bind
  split
  · -- replacing the value under a name keeps every name in place
    rw [List.map_map]
    have hkeys : ((fun x : String × α => x.1) ∘ fun x : String × α =>
        if x.1 == name then (x.1, v) else (x.1, x.2)) = (·.1) := by
      funext x
      simp only [Function.comp]
      split <;> rfl
    rw [hkeys]
    exact hnd
  · rename_i hnone
    rw [List.map_append, List.nodup_append]
    refine ⟨hnd, List.nodup_singleton _, ?_⟩
    intro a ha b hb hab
    rw [List.mem_singleton.1 hb] at hab
    obtain ⟨⟨k, y⟩, hk, rfl⟩ := List.mem_map.1 ha
    have := List.lookup_eq_none_iff.1 hnone (k, y) hk
    simp_all

/-- A pair that a bind drops was under the bound name, and is the value the bind replaced. -/
theorem bind_lost (hnd : (ns.map (·.1)).Nodup) (v : α) {x : String × α} (hx : x ∈ ns)
    (hx' : x ∉ (ns.bind name v).1) : (ns.bind name v).2 = some x.2 := by
  rw [bind_snd]
  by_cases hk : x.1 = name
  · rw [← hk]
    exact lookup_of_mem hnd hx
  · -- any other pair stays as it is
    refine absurd ?_ hx'
    unfold bind
    split
    · exact List.mem_map.2 ⟨x, hx, by simp [hk]⟩
    · exact List.mem_append_left _ hx

theorem mem_unbind {x : String × α} (hx : x ∈ (ns.unbind name).1) : x ∈ ns :=
  (List.mem_filter.1 hx).1

theorem nodup_unbind (hnd : (ns.map (·.1)).Nodup) : ((ns.unbind name).1.map (·.1)).Nodup :=
  hnd.sublist (List.filter_sublist.map _)

theorem unbind_lost (hnd : (ns.map (·.1)).Nodup) {x : String × α} (hx : x ∈ ns)
    (hx' : x ∉ (ns.unbind name).1) : (ns.unbind name).2 = some x.2 := by
  have hk : x.1 = name := by
    by_contra hk
    exact hx' (List.mem_filter.2 ⟨hx, by simp [hk]⟩)
  rw [← hk]
  exact lookup_of_mem hnd hx

end Named

namespace Pool

theorem find?_spec {p : Pool} {k : CacheKey} {e : Entry} (h : p.find? k = some e) :
    e ∈ p.entries ∧ e.key = k :=
  ⟨List.mem_of_find?_eq_some h, by simpa using List.find?_some h⟩

theorem key_ne_of_find?_none {p : Pool} {k : CacheKey} (h : p.find? k = none) :
    ∀ e ∈ p.entries, e.key ≠ k := by
  intro e he hk
  have := List.find?_eq_none.1 h e he
  simp_all

theorem find?_erase (p : Pool) (k : CacheKey) : (p.erase k).find? k = none := by
  unfold find? erase
  rw [List.find?_eq_none]
  intro e he
  simpa using (List.mem_filter.1 he).2

theorem take_spec {p : Pool} {s : Nat} {e : Entry} {p' : Pool} (h : p.take s = (some e, p')) :
    e ∈ p.entries ∧ e.handle.serial = s ∧
      p'.entries = p.entries.filter (·.handle.serial != s) := by
  unfold take at h
  split at h
  · rename_i e' hf
    simp only [Prod.mk.injEq, Option.some.injEq] at h
    obtain ⟨rfl, rfl⟩ := h
    exact ⟨List.mem_of_find?_eq_some hf, by simpa using List.find?_some hf, rfl⟩
  · cases h

end Pool

/-- `q` is the pool `p` with its entry `e` taken out, and nothing else. -/
structure TakesOut (p q : Pool) (e : Entry) : Prop where
  mem : e ∈ p.entries
  not_mem : e ∉ q.entries
  sublist : q.entries.Sublist p.entries
  only : ∀ e' ∈ p.entries, e' ∉ q.entries → e' = e

theorem TakesOut.count {p q : Pool} {e : Entry} (ht : TakesOut p q e) (f : Recorder → Recorder) :
    TakesOut p (q.count f) e :=
  ⟨ht.mem, ht.not_mem, ht.sublist, ht.only⟩

namespace World

section Holders

variable {D : List Handle} {w : World}

theorem cachedAt_setPool {i : Nat} {p : Pool} (hp : w.pool? i = some p) (q : Pool) (j : Nat)
    (e : Entry) : (w.setPool i q).CachedAt j e ↔ j = i ∧ e ∈ q.entries ∨ j ≠ i ∧ w.CachedAt j e := by
  unfold CachedAt
  rw [pool?_setPool w hp]
  by_cases hj : j = i <;> simp [hj]

theorem cachedAt_dropPool (i j : Nat) (e : Entry) :
    ({ w with pools := w.pools.set i none }).CachedAt j e ↔ j ≠ i ∧ w.CachedAt j e := by
  unfold CachedAt
  rw [pool?_dropPool w]
  by_cases hj : j = i <;> simp [hj]

/-- A world that only lost holders keeps the ledger, with the handles that lost their last
holder (`E`) waiting to be let go. -/
theorem Ledger.shrink {E : List Handle} {w' : World} (hl : w.Ledger D)
    (hb : w'.backend = w.backend) (ho : w'.orphans = w.orphans) (hg : w'.grace = w.grace)
    (hc : w'.clock = w.clock) (hca : ∀ j e, w'.CachedAt j e → w.CachedAt j e)
    (hheld : ∀ x ∈ w'.held, x ∈ w.held ∨ w.Holds x.2) (hnames : (w'.held.map (·.1)).Nodup)
    (hkeys : ∀ j p, w'.pool? j = some p → (p.entries.map (·.key)).Nodup)
    (hE : ∀ h, w.Holds h → ¬ w'.Holds h → h ∈ E) (hEh : ∀ h ∈ E, w.Holds h) :
    w'.Ledger (E ++ D) := by
  have hho : ∀ h, w'.Holds h → w.Holds h := by
    rintro h (⟨name, hn⟩ | ⟨j, e, he, rfl⟩)
    · rcases hheld _ hn with hn | hh
      · exact Or.inl ⟨name, hn⟩
      · exact hh
    · exact Or.inr ⟨j, e, hca j e he, rfl⟩
  have hiss : ∀ n, w'.Issued n ↔ w.Issued n := fun n => by simp only [Issued, hb]
  refine ⟨by rw [hb]; exact hl.numbered, by rw [ho, hb]; exact hl.nextId, ?_, ?_, ?_,
    by rw [ho, hb]; exact hl.started, ?_, ?_, hnames, hkeys, ?_, by rw [hg]; exact hl.ordered,
    by rw [hg, hc]; exact hl.stamped⟩
  · intro h hh
    rw [hiss]
    exact hl.handle h (hho h hh)
  · intro h hd
    rw [hiss]
    rcases List.mem_append.1 hd with hd | hd
    · exact hl.handle h (hEh h hd)
    · exact hl.dropped h hd
  · intro x hx
    rw [ho] at hx
    obtain ⟨hc, hi, hfree⟩ := hl.notice x hx
    exact ⟨hc, (hiss _).2 hi, fun h hh => hfree h (hho h hh)⟩
  · intro n hn
    rcases hl.accounted n ((hiss n).1 hn) with (hs | ⟨h, hh, hs⟩ | ⟨x, hx, hs⟩) | ⟨h, hd, hs⟩
    · exact Or.inl (Or.inl (by rw [hb]; exact hs))
    · -- a handle that is no longer held has joined the waiting ones
      by_cases hh' : w'.Holds h
      · exact Or.inl (Or.inr (Or.inl ⟨h, hh', hs⟩))
      · exact Or.inr ⟨h, List.mem_append_left _ (hE h hh hh'), hs⟩
    · exact Or.inl (Or.inr (Or.inr ⟨x, by rw [ho]; exact hx, hs⟩))
    · exact Or.inr ⟨h, List.mem_append_right _ hd, hs⟩
  · intro p hp
    rw [hg] at hp
    obtain ⟨hle, hfree⟩ := hl.grace p hp
    exact ⟨by rw [hb]; exact hle, fun j e he => hfree j e (hca j e he)⟩
  · intro j j' e e' he he' hs
    exact hl.single j j' e e' (hca j e he) (hca j' e' he') hs

/-- Replacing a live pool by one with fewer entries keeps the ledger, with the handles of the
entries that went waiting to be let go. -/
theorem Ledger.setPool {E : List Handle} {i : Nat} {p q : Pool} (hl : w.Ledger D)
    (hp : w.pool? i = some p) (hsub : q.entries.Sublist p.entries)
    (hE : ∀ e ∈ p.entries, e ∉ q.entries → e.handle ∈ E)
    (hEp : ∀ h ∈ E, ∃ e ∈ p.entries, e.handle = h) : (w.setPool i q).Ledger (E ++ D) := by
  have hca := cachedAt_setPool hp q
  refine hl.shrink rfl rfl rfl rfl ?_ (fun x hx => Or.inl hx) hl.names ?_ ?_ ?_
  · intro j e he
    rcases (hca j e).1 he with ⟨rfl, hq⟩ | ⟨-, hc⟩
    · exact ⟨p, hp, hsub.subset hq⟩
    · exact hc
  · intro j q' hq'
    rw [pool?_setPool w hp] at hq'
    split at hq'
    · cases hq'
      exact (hl.keys i p hp).sublist (hsub.map _)
    · exact hl.keys j q' hq'
  · rintro h (⟨name, hn⟩ | ⟨j, e, ⟨p', hp', he⟩, rfl⟩) hh'
    · exact absurd (Or.inl ⟨name, hn⟩) hh'
    · by_cases hj : j = i
      · subst hj
        rw [hp] at hp'
        cases hp'
        by_cases hq : e ∈ q.entries
        · exact absurd (Or.inr ⟨j, e, (hca j e).2 (Or.inl ⟨rfl, hq⟩), rfl⟩) hh'
        · exact hE e he hq
      · exact absurd (Or.inr ⟨j, e, (hca j e).2 (Or.inr ⟨hj, p', hp', he⟩), rfl⟩) hh'
  · intro h hh
    obtain ⟨e, he, rfl⟩ := hEp h hh
    exact Or.inr ⟨i, e, ⟨p, hp, he⟩, rfl⟩

/-- Replacing a live pool by one with the same entries keeps the ledger. -/
theorem Ledger.setPool_entries {i : Nat} {p q : Pool} (hl : w.Ledger D) (hp : w.pool? i = some p)
    (he : q.entries = p.entries) : (w.setPool i q).Ledger D :=
  show Ledger ([] ++ D) _ from
    hl.setPool hp (he ▸ List.Sublist.refl _) (fun _ he' hq => absurd (he ▸ he') hq)
      (fun _ hh => by cases hh)

/-- In a pool, an entry on the same resource as `e`, or under the same key, is `e`. -/
theorem Ledger.takesOut_take {i s : Nat} {p p' : Pool} {e : Entry} (hl : w.Ledger D)
    (hp : w.pool? i = some p) (ht : p.take s = (some e, p')) : TakesOut p p' e := by
  obtain ⟨he, hs, hq⟩ := Pool.take_spec ht
  refine ⟨he, ?_, ?_, ?_⟩
  · rw [hq]
    simp [hs]
  · rw [hq]
    exact List.filter_sublist
  · intro e' he' hn
    rw [hq] at hn
    have hs' : e'.handle.serial = e.handle.serial := by
      rw [hs]
      simpa [he'] using hn
    exact (hl.single i i e' e ⟨p, hp, he'⟩ ⟨p, hp, he⟩ hs').2

theorem Ledger.takesOut_erase {i : Nat} {p : Pool} {k : CacheKey} {e : Entry} (hl : w.Ledger D)
    (hp : w.pool? i = some p) (hf : p.find? k = some e) : TakesOut p (p.erase k) e := by
  obtain ⟨he, hk⟩ := Pool.find?_spec hf
  have hq : (p.erase k).entries = p.entries.filter (·.key != k) := rfl
  refine ⟨he, ?_, ?_, ?_⟩
  · rw [hq]
    simp [hk]
  · rw [hq]
    exact List.filter_sublist
  · intro e' he' hn
    rw [hq] at hn
    have hk' : e'.key = e.key := by
      rw [hk]
      simpa [he'] using hn
    exact List.inj_on_of_nodup_map (hl.keys i p hp) he' he hk'

/-- Taking an entry out of its pool leaves its handle waiting to be let go. -/
theorem Ledger.takeOut {i : Nat} {p q : Pool} {e : Entry} (hl : w.Ledger D)
    (hp : w.pool? i = some p) (ht : TakesOut p q e) : (w.setPool i q).Ledger (e.handle :: D) :=
  show Ledger ([e.handle] ++ D) _ from
    hl.setPool hp ht.sublist
      (fun e' he' hq => by rw [ht.only e' he' hq]; exact List.mem_singleton_self _)
      (fun h hh => ⟨e, ht.mem, (List.mem_singleton.1 hh).symm⟩)

/-- Once an entry is taken out of its pool, no live pool has its resource. -/
theorem Ledger.uncached_of_takenOut {i : Nat} {p q : Pool} {e : Entry} (hl : w.Ledger D)
    (hp : w.pool? i = some p) (he : e ∈ p.entries) (hsub : ∀ e' ∈ q.entries, e' ∈ p.entries)
    (hq : e ∉ q.entries) : ∀ j e', (w.setPool i q).CachedAt j e' → e'.handle.serial ≠ e.handle.serial := by
  intro j e' hc hs
  have hin : w.CachedAt i e := ⟨p, hp, he⟩
  rcases (cachedAt_setPool hp q j e').1 hc with ⟨rfl, he'⟩ | ⟨hj, hc'⟩
  · -- in its own pool only `e` itself is on that resource
    obtain ⟨-, rfl⟩ := hl.single j j e' e ⟨p, hp, hsub e' he'⟩ hin hs
    exact hq he'
  · exact hj (hl.single j i e' e hc' hin hs).1

/-- Taking an entry out of its pool, handing its resource to the grace queue and letting go of
its handle keeps the ledger. -/
theorem Ledger.evictOut {i : Nat} {p q : Pool} {e : Entry} (hl : w.Ledger D)
    (hp : w.pool? i = some p) (ht : TakesOut p q e) :
    (((w.setPool i q).evict e.handle.serial).letGo e.handle).Ledger D := by
  have hout := hl.takeOut hp ht
  have hfree := hl.uncached_of_takenOut hp ht.mem (fun _ he => ht.sublist.subset he) ht.not_mem
  have hle : e.handle.serial ≤ w.backend.resources.length :=
    (hl.handle e.handle (Or.inr ⟨i, e, ⟨p, hp, ht.mem⟩, rfl⟩)).2.2
  exact ledger_letGo (ledger_evict hout hle hfree)

theorem ledger_remove {i : Nat} {p : Pool} (hl : w.Ledger D) (hp : w.pool? i = some p) (h : Handle) :
    (w.remove i p h).2.Ledger D := by
  unfold remove
  split
  · rename_i e p' ht
    exact hl.evictOut hp ((hl.takesOut_take hp ht).count Recorder.eviction)
  · exact hl

theorem ledger_close {i : Nat} {p : Pool} (hl : w.Ledger D) (hp : w.pool? i = some p) (h : Handle) :
    (w.close i p h).2.Ledger D := by
  unfold close
  split
  · rename_i e p' ht
    exact ledger_closeResource (ledger_letGo (hl.takeOut hp ((hl.takesOut_take hp ht).count _))) _
  · exact ledger_closeResource hl _

theorem ledger_closeAll {i : Nat} {p : Pool} (hl : w.Ledger D) (hp : w.pool? i = some p) :
    (w.closeAll i p).2.Ledger D :=
  -- the handles of the entries left to drain are owed to the ledger until each is let go
  w.closeEntries_induction (fun es w' => w'.Ledger (es.map Entry.handle ++ D)) i p p.entries
    (fun e _ _ h => ledger_closeResource h e.handle.serial) (fun _ _ _ h => ledger_letGo h)
    (hl.setPool hp (List.nil_sublist _) (fun e he _ => List.mem_map_of_mem he)
      (fun h hh => by simpa using hh))

theorem ledger_dropPool {i : Nat} {p : Pool} (hl : w.Ledger D) (hp : w.pool? i = some p) :
    (w.dropPool i p).Ledger D := by
  have hca : ∀ j e, ({ w with pools := w.pools.set i none }).CachedAt j e ↔ j ≠ i ∧ w.CachedAt j e :=
    cachedAt_dropPool i
  have h₀ : ({ w with pools := w.pools.set i none }).Ledger (p.entries.map Entry.handle ++ D) := by
    refine hl.shrink rfl rfl rfl rfl (fun j e he => ((hca j e).1 he).2) (fun x hx => Or.inl hx) hl.names
      ?_ ?_ ?_
    · intro j q hq
      rw [pool?_dropPool w] at hq
      split at hq
      · cases hq
      · exact hl.keys j q hq
    · rintro h (⟨name, hn⟩ | ⟨j, e, ⟨p', hp', he⟩, rfl⟩) hh'
      · exact absurd (Or.inl ⟨name, hn⟩) hh'
      · by_cases hj : j = i
        · subst hj
          rw [hp] at hp'
          cases hp'
          exact List.mem_map_of_mem he
        · exact absurd (Or.inr ⟨j, e, (hca j e).2 ⟨hj, p', hp', he⟩, rfl⟩) hh'
    · intro h hh
      obtain ⟨e, he, rfl⟩ := List.mem_map.1 hh
      exact Or.inr ⟨i, e, ⟨p, hp, he⟩, rfl⟩
  exact ledger_letGoAll h₀

/-- A change of the names callers hold handles under keeps the ledger when the names stay
distinct, every new name holds a handle already held, and every pair that went was the one
whose handle `old` now waits. -/
theorem Ledger.reheld {held : Named Handle} {old : Option Handle} (hl : w.Ledger D)
    (hnames : (held.map (·.1)).Nodup) (hmem : ∀ x ∈ held, x ∈ w.held ∨ w.Holds x.2)
    (hlost : ∀ x ∈ w.held, x ∉ held → old = some x.2)
    (hold : ∀ o, old = some o → ∃ name, (name, o) ∈ w.held) :
    ({ w with held := held }).Ledger (old.toList ++ D) := by
  refine hl.shrink rfl rfl rfl rfl (fun _ _ he => he) hmem hnames hl.keys ?_ ?_
  · rintro h (⟨name, hn⟩ | ⟨j, e, he, rfl⟩) hh'
    · by_cases hn' : (name, h) ∈ held
      · exact absurd (Or.inl ⟨name, hn'⟩) hh'
      · rw [hlost _ hn hn']
        exact List.mem_singleton_self _
    · exact absurd (Or.inr ⟨j, e, he, rfl⟩) hh'
  · intro h hh
    obtain ⟨name, hn⟩ := hold h (Option.mem_toList.1 hh)
    exact Or.inl ⟨name, hn⟩

/-- Holding a held handle under a name leaves what the name held before waiting to be let go. -/
theorem Ledger.bind {h : Handle} (hl : w.Ledger D) (hh : w.Holds h) (name : String) :
    ({ w with held := (w.held.bind name h).1 }).Ledger ((w.held.bind name h).2.toList ++ D) :=
  hl.reheld (Named.nodup_bind hl.names h)
    (fun x hx => by
      rcases Named.mem_bind hx with hx | rfl
      · exact Or.inl hx
      · exact Or.inr hh)
    (fun x hx hx' => Named.bind_lost hl.names h hx hx')
    (fun o ho => ⟨name, Named.mem_of_lookup (Named.bind_snd h ▸ ho : w.held.lookup name = some o)⟩)

/-- Letting a name go leaves what it held waiting to be let go. -/
theorem Ledger.unbind (hl : w.Ledger D) (name : String) :
    ({ w with held := (w.held.unbind name).1 }).Ledger ((w.held.unbind name).2.toList ++ D) :=
  hl.reheld (Named.nodup_unbind hl.names)
    (fun _ hx => Or.inl (Named.mem_unbind hx))
    (fun _ hx hx' => Named.unbind_lost hl.names hx hx')
    (fun _ ho => ⟨name, Named.mem_of_lookup ho⟩)

/-- Holding a held handle under a name keeps the ledger; what the name held before is let go. -/
theorem ledger_hold {h : Handle} (hl : w.Ledger D) (hh : w.Holds h) (name : String) :
    (w.hold name h).Ledger D := by
  have hb := hl.bind hh name
  unfold hold
  generalize w.held.bind name h = r at hb
  obtain ⟨held, old⟩ := r
  cases old with
  | none => exact hb
  | some o => exact ledger_letGo hb

theorem ledger_release (hl : w.Ledger D) (name : String) : (w.act (.release name)).2.Ledger D := by
  have hu := hl.unbind name
  simp only [act]
  generalize w.held.unbind name = r at hu
  obtain ⟨held, old⟩ := r
  cases old with
  | none => exact hl
  | some o => exact ledger_letGo hu

end Holders

end World

end HandlePool
