import HandlePool.Proofs.Lifecycle
/-!
# A later lookup reuses the cached resource

A shared lookup that answers a handle leaves, in its pool, an open entry under its key, whose
credentials are the lookup's wherever the key's scheme binds handles to credentials
(`Serves`). The entry stays through every step that does not take it out of service
(`Disturbs`): a lookup in its pool at its key with other credentials on such a scheme, which
rotates it; a remove or a close through a handle on its resource, in any pool; closing every
handle of its pool; dropping its pool. Lookups of other keys, exclusive lookups, rotations of
other entries, capacity purges, the workers, and callers taking or letting go of handles all
leave it standing. While it stands, a shared lookup at its key whose principal has
credentials, the entry's ones on such a scheme, is a hit on it: it opens nothing and answers
the entry's resource, open.

The lookup computes the principal's credentials before it looks at the pool, so an equal key
alone is not enough: a proxy whose real user signs in with a token has a key but no
credentials, and its lookup fails (`reuse_needs_credentials`).

* `config_act`: no step changes the configuration.
* `Stands`: an entry is in its pool and its resource is open; `Stands.lookup`, `Serves.act`:
  the steps that keep it.
* `serves_lookupAs`: a lookup that answers leaves an entry serving its key.
* `Serves.lookupAs`: a shared lookup served by an entry is a hit on it.
* `later_lookup_reuses_resource`: over a whole run.
-/

namespace HandlePool

namespace Resources

theorem shut_of_isClosed {rs : Resources} {n : Nat} (h : rs.isClosed n = true) : rs.Shut n := by
  unfold isClosed at h
  split at h
  · rename_i r hr
    exact ⟨r, List.mem_of_find?_eq_some hr, by simpa using List.find?_some hr, h⟩
  · cases h

/-- With serials numbered, a closed resource is one the `isClosed` test reports. -/
theorem isClosed_of_shut {rs : Resources} (hn : rs.Numbered) {n : Nat} (h : rs.Shut n) :
    rs.isClosed n = true := by
  obtain ⟨r, hr, hs, hc⟩ := h
  unfold isClosed
  split
  · rename_i r' hr'
    have hs' : r'.serial = n := by simpa using List.find?_some hr'
    obtain rfl := hn.eq_of_serial hr (List.mem_of_find?_eq_some hr') (hs.trans hs'.symm)
    exact hc
  · rename_i hnone
    exact absurd (by simpa using hs) (List.find?_eq_none.1 hnone r hr)

theorem shut_append {rs : Resources} {r : Resource} {n : Nat} (h : (rs ++ [r]).Shut n) :
    rs.Shut n ∨ r.serial = n := by
  obtain ⟨r', hr', hs, hc⟩ := h
  rcases List.mem_append.1 hr' with hr' | hr'
  · exact Or.inl ⟨r', hr', hs, hc⟩
  · exact Or.inr (List.mem_singleton.1 hr' ▸ hs)

end Resources

namespace Backend

theorem openOn_closed {b b' : Backend} {t : Target} {props : Properties} {r : Resource}
    (h : b.openOn t props = .ok (r, b')) : r.closed = false := by
  unfold openOn at h
  split at h
  · cases h
  · simp only [Except.ok.injEq, Prod.mk.injEq] at h
    obtain ⟨rfl, rfl⟩ := h
    rfl

end Backend

namespace Pool

theorem find?_of_mem {p : Pool} {e : Entry} (hnd : (p.entries.map (·.key)).Nodup)
    (he : e ∈ p.entries) : p.find? e.key = some e := by
  unfold find?
  cases hf : p.entries.find? (·.key == e.key) with
  | none => exact (List.find?_eq_none.1 hf e he (by simp)).elim
  | some e' =>
    have hk : e'.key = e.key := by simpa using List.find?_some hf
    rw [List.inj_on_of_nodup_map hnd (List.mem_of_find?_eq_some hf) he hk]

end Pool

namespace World

open Backend

/-! ## The configuration is fixed -/

section Config

variable (w : World)

theorem config_letGo (h : Handle) : (w.letGo h).config = w.config := by
  obtain ⟨o, b, he⟩ := letGo_shape w h
  rw [he]

theorem config_letGoAll (hs : List Handle) : (w.letGoAll hs).config = w.config := by
  obtain ⟨o, b, he⟩ := letGoAll_shape w hs
  rw [he]

theorem config_hold (name : String) (h : Handle) : (w.hold name h).config = w.config := by
  unfold hold
  cases w.held.bind name h with
  | mk held old =>
    cases old with
    | none => rfl
    | some o => exact config_letGo _ o

theorem config_openHandle (i : Nat) (p : Pool) (key : CacheKey) (t : Target) (creds : TokenSet) :
    (w.openHandle i p key t creds).2.config = w.config := by
  unfold openHandle
  split <;> rfl

theorem config_discardClosed (i : Nat) (p : Pool) (key : CacheKey) :
    (w.discardClosed i p key).2.config = w.config := by
  unfold discardClosed
  split
  · split
    · exact config_letGo _ _
    · rfl
  · rfl

theorem config_lookup (i : Nat) (p : Pool) (t : Target) (pr : Principal) (u : Nat) :
    (w.lookup i p t pr u).2.config = w.config := by
  unfold lookup
  split
  · rfl
  · rfl
  · rename_i key creds _ _
    have h₁ := config_discardClosed w i p key
    generalize w.discardClosed i p key = d at h₁ ⊢
    obtain ⟨p₁, w₁⟩ := d
    dsimp only at h₁ ⊢
    rw [← h₁]
    split
    · split
      · rw [config_openHandle, config_letGo]
        rfl
      · rfl
    · have h₂ : (if w₁.config.maxCacheSize ≤ p₁.size then w₁.purge i p₁ else (p₁, w₁)).2.config =
          w₁.config := by
        split
        · exact config_letGoAll _ _
        · rfl
      generalize (if w₁.config.maxCacheSize ≤ p₁.size then w₁.purge i p₁ else (p₁, w₁)) = d at h₂ ⊢
      obtain ⟨p₂, w₂⟩ := d
      dsimp only at h₂ ⊢
      rw [← h₂]
      split
      · rfl
      · exact config_openHandle _ _ _ _ _ _

theorem config_lookupAs (i : Nat) (p : Pool) (t : Target) (pr : Principal) (ex : Bool)
    (name : Option String) : (w.lookupAs i p t pr ex name).2.config = w.config := by
  have answer : ∀ (w₁ : World) (p₁ : Pool) (u : Nat),
      (w₁.answerLookup i p₁ t pr u name).2.config = w₁.config := by
    intro w₁ p₁ u
    unfold answerLookup
    have h₁ := config_lookup w₁ i p₁ t pr u
    generalize w₁.lookup i p₁ t pr u = l at h₁ ⊢
    obtain ⟨r, w₂⟩ := l
    cases r with
    | error e => exact h₁
    | ok h =>
      cases name with
      | none => exact h₁
      | some n => exact (config_hold w₂ n h).trans h₁
  cases ex with
  | true => rw [lookupAs_true]; exact answer _ _ _
  | false => rw [lookupAs_false]; exact answer _ _ _

theorem config_remove (i : Nat) (p : Pool) (h : Handle) : (w.remove i p h).2.config = w.config := by
  unfold remove
  split
  · exact config_letGo _ _
  · rfl

theorem config_close (i : Nat) (p : Pool) (h : Handle) : (w.close i p h).2.config = w.config := by
  unfold close
  split
  · exact config_letGo _ _
  · rfl

theorem config_closeAll (i : Nat) (p : Pool) : (w.closeAll i p).2.config = w.config :=
  -- each entry in turn: a close, which keeps the configuration, and a let-go
  w.closeEntries_induction (fun _ w' => w'.config = w.config) i p p.entries
    (fun _ _ _ h => h) (fun _ _ w' h => (config_letGo w' _).trans h) rfl

theorem config_dropPool (i : Nat) (p : Pool) : (w.dropPool i p).config = w.config :=
  config_letGoAll _ _

end Config

/-- No step changes the configuration. -/
theorem config_act {w : World} (hl : w.Ledger []) (s : PoolStep) : (w.act s).2.config = w.config := by
  rcases act_cases hl s with hq | ⟨i, p, t, pr, ex, name, -, -, he⟩ |
      ⟨i, p, name, h, -, -, ⟨-, he⟩ | ⟨-, he⟩⟩ | ⟨i, p, -, ⟨-, he⟩ | ⟨-, he⟩⟩ | ⟨identity, -, he⟩
  · exact hq.config
  · rw [he]; exact config_lookupAs w i p t pr ex name
  · rw [he]; exact config_remove w i p h
  · rw [he]; exact config_close w i p h
  · rw [he]; exact config_closeAll w i p
  · rw [he]; exact config_dropPool w i p
  · rw [he]

/-! ## What closes a resource -/

theorem closesOnly_letGo (w : World) (h : Handle) :
    w.backend.ClosesOnly (· = h.serial) (w.letGo h).backend := by
  unfold letGo
  split
  · exact ClosesOnly.refl _ _
  · rw [withOrphans_eq]
    exact Orphans.rel_post_of Backend.cleanup (ClosesOnly (· = h.serial)) (ClosesOnly.refl _)
      ⟨h.registration, h.serial⟩ (w.orphans, w.backend) (closesOnly_cleanup rfl)

theorem closesOnly_evict (w : World) (m : Nat) :
    w.backend.ClosesOnly (· = m) (w.evict m).backend := by
  rw [evict, withGrace_eq]
  exact GraceQueue.rel_enqueue_of Backend.close (ClosesOnly (· = m)) (ClosesOnly.refl _)
    ClosesOnly.trans m w.clock.elapsed (w.grace, w.backend) (closesOnly_close rfl)

/-! ## An entry that stands -/

/-- Pool `i` has the entry `e`, and the entry's resource is open. -/
def Stands (w : World) (i : Nat) (e : Entry) : Prop :=
  w.CachedAt i e ∧ ¬ w.backend.resources.Shut e.handle.serial

section Standing

variable {w : World} {i : Nat} {e : Entry}

theorem Stands.mem (hs : w.Stands i e) {p : Pool} (hp : w.pool? i = some p) : e ∈ p.entries := by
  obtain ⟨p', hp', he⟩ := hs.1
  rw [hp] at hp'
  cases hp'
  exact he

theorem Stands.congr {w' : World} (hs : w.Stands i e) (hp : w'.pools = w.pools)
    (hb : w'.backend.resources.Shut e.handle.serial → w.backend.resources.Shut e.handle.serial) :
    w'.Stands i e :=
  ⟨(cachedAt_congr hp i e).2 hs.1, fun h => hs.2 (hb h)⟩

/-- A step that leaves the pools alone closes only resources no pool has. -/
theorem Stands.quiet {w' : World} (hs : w.Stands i e) (hq : Quiet w w') : w'.Stands i e :=
  hs.congr hq.pools fun h => (hq.backend.2 _ h).resolve_right fun hu => hu i e hs.1 rfl

theorem Stands.setPool (hs : w.Stands i e) {j : Nat} {p q : Pool} (hp : w.pool? j = some p)
    (hq : j = i → e ∈ q.entries) : (w.setPool j q).Stands i e := by
  refine ⟨(cachedAt_setPool hp q i e).2 ?_, hs.2⟩
  by_cases hij : i = j
  · exact Or.inl ⟨hij, hq hij.symm⟩
  · exact Or.inr ⟨hij, hs.1⟩

theorem Stands.letGo (hs : w.Stands i e) {h : Handle} (hn : h.serial ≠ e.handle.serial) :
    (w.letGo h).Stands i e :=
  hs.congr (letGo_pools w h) fun hsh =>
    ((closesOnly_letGo w h).2 _ hsh).resolve_right fun heq => hn heq.symm

theorem Stands.letGoAll (hs : w.Stands i e) {hs' : List Handle}
    (hn : ∀ h ∈ hs', h.serial ≠ e.handle.serial) : (w.letGoAll hs').Stands i e := by
  induction hs' generalizing w with
  | nil => exact hs
  | cons h hs' ih =>
    rw [letGoAll_cons]
    exact ih (hs.letGo (hn h List.mem_cons_self)) fun h' hh => hn h' (List.mem_cons_of_mem _ hh)

theorem Stands.evict (hs : w.Stands i e) {m : Nat} (hn : m ≠ e.handle.serial) :
    (w.evict m).Stands i e :=
  hs.congr (evict_pools w m) fun hsh =>
    ((closesOnly_evict w m).2 _ hsh).resolve_right fun heq => hn heq.symm

theorem Stands.closeResource (hs : w.Stands i e) {m : Nat} (hn : m ≠ e.handle.serial) :
    (w.closeResource m).2.Stands i e :=
  hs.congr rfl fun hsh =>
    ((closesOnly_close (P := (· = m)) rfl w.backend).2 _ hsh).resolve_right fun heq => hn heq.symm

/-- Opening a handle for pool `j` keeps `e`, which is older than anything it opens. -/
theorem Stands.openHandle (hs : w.Stands i e) {j : Nat} {p₀ p : Pool} (hp : w.pool? j = some p₀)
    (hq : j = i → e ∈ p.entries) (hn : e.handle.serial ≤ w.backend.resources.length)
    (key : CacheKey) (t : Target) (creds : TokenSet) : (w.openHandle j p key t creds).2.Stands i e := by
  unfold World.openHandle
  split
  · exact hs.setPool (q := p.count Recorder.creationFailure) hp hq
  · rename_i r b hopen
    obtain ⟨hr, hb⟩ := Backend.openOn_ok hopen
    generalize w.orphans.register = ro
    obtain ⟨reg, o⟩ := ro
    dsimp only
    have hs₁ : ({ w with backend := b, orphans := o }).Stands i e := by
      refine hs.congr rfl fun hsh => ?_
      rw [hb] at hsh
      exact (Resources.shut_append hsh).resolve_right (by omega)
    exact hs₁.setPool hp fun hji => List.mem_append_left _ (hq hji)

/-- Discarding the closed entry under a key keeps `e`, whose resource is open. -/
theorem Stands.discardClosed {D : List Handle} (hl : w.Ledger D) (hs : w.Stands i e) {j : Nat}
    {p : Pool} (hp : w.pool? j = some p) (key : CacheKey) :
    (w.discardClosed j p key).2.Stands i e ∧ (j = i → e ∈ (w.discardClosed j p key).1.entries) := by
  unfold World.discardClosed
  split
  · rename_i e' hf
    split
    · rename_i hclosed
      obtain ⟨he', hk'⟩ := Pool.find?_spec hf
      have hne : e'.handle.serial ≠ e.handle.serial := fun hse =>
        hs.2 (hse ▸ Resources.shut_of_isClosed hclosed)
      -- `e` is not under the key: in its pool the key has only the closed entry
      have hmem : j = i → e ∈ (p.erase key).entries := fun hji => by
        subst hji
        refine List.mem_filter.2 ⟨hs.mem hp, ?_⟩
        simp only [bne_iff_ne, ne_eq]
        intro hek
        exact hne (congrArg (·.handle.serial)
          (List.inj_on_of_nodup_map (hl.keys j p hp) he' (hs.mem hp) (hk'.trans hek.symm)))
      exact ⟨(hs.setPool hp hmem).letGo hne, hmem⟩
    · exact ⟨hs, fun hji => hs.mem (hji ▸ hp)⟩
  · exact ⟨hs, fun hji => hs.mem (hji ▸ hp)⟩

/-- A purge takes out only entries on closed resources. -/
theorem Stands.purge (hs : w.Stands i e) {j : Nat} {p : Pool} (hp : w.pool? j = some p) :
    (w.purge j p).2.Stands i e ∧ (j = i → e ∈ (w.purge j p).1.entries) := by
  have hopen : w.backend.resources.isClosed e.handle.serial = false :=
    Bool.eq_false_iff.2 fun h => hs.2 (Resources.shut_of_isClosed h)
  have hmem : j = i → e ∈ (w.purge j p).1.entries := fun hji => by
    subst hji
    exact List.mem_filter.2 ⟨hs.mem hp, by simp [hopen]⟩
  refine ⟨?_, hmem⟩
  unfold World.purge
  dsimp only
  refine (hs.setPool hp hmem).letGoAll fun h hh => ?_
  obtain ⟨e', he', rfl⟩ := List.mem_map.1 hh
  have hc := (List.mem_filter.1 he').2
  exact fun hse => hs.2 (hse ▸ Resources.shut_of_isClosed hc)

/-- A lookup keeps every standing entry it does not rotate out: `hrot` says that a lookup in
the entry's pool at the entry's key has its credentials where the scheme binds them. -/
theorem Stands.lookup {D : List Handle} (hl : w.Ledger D) (hs : w.Stands i e) {j : Nat} {p : Pool}
    (hp : w.pool? j = some p) (t : Target) (pr : Principal) (u : Nat)
    (hrot : j = i → ∀ c', CacheKey.derive t pr u = .ok e.key → credentialTokens pr = .ok c' →
      w.config.isIdentitySensitive e.key.scheme = true → c' = e.credentials) :
    (w.lookup j p t pr u).2.Stands i e := by
  -- the entry's resource is one the backend has opened
  have hn : e.handle.serial ≤ w.backend.resources.length :=
    (hl.handle e.handle (Or.inr ⟨i, e, hs.1, rfl⟩)).2.2
  unfold World.lookup
  split
  · exact hs
  · exact hs
  · rename_i key creds hk hc
    obtain ⟨hs₁, hmem₁⟩ := hs.discardClosed hl hp key
    obtain ⟨hl₁, hp₁⟩ := ledger_discardClosed hl hp key
    have hcfg := config_discardClosed w j p key
    have hlen := (shrinks_discardClosed hp key).1.opened
    generalize w.discardClosed j p key = d at hs₁ hmem₁ hl₁ hp₁ hcfg hlen ⊢
    obtain ⟨p₁, w₁⟩ := d
    dsimp only at hs₁ hmem₁ hl₁ hp₁ hcfg hlen ⊢
    rw [← hlen] at hn
    split
    · rename_i e' hf
      obtain ⟨he', hk'⟩ := Pool.find?_spec hf
      split
      · rename_i hrotate
        -- the rotated entry is not `e`: rotating `e` would take other credentials
        have hne : e'.handle.serial ≠ e.handle.serial := by
          intro hse
          obtain ⟨rfl, rfl⟩ := hl₁.single j i e' e ⟨p₁, hp₁, he'⟩ hs₁.1 hse
          simp only [Bool.and_eq_true, bne_iff_ne, ne_eq] at hrotate
          rw [← hk'] at hrotate hk
          exact hrotate.2 (hrot rfl creds hk hc (hcfg ▸ hrotate.1)).symm
        have hmem : j = i → e ∈ ((p₁.erase key).count Recorder.rotation).entries := fun hji => by
          subst hji
          refine List.mem_filter.2 ⟨hmem₁ rfl, ?_⟩
          simp only [bne_iff_ne, ne_eq]
          intro hek
          exact hne (congrArg (·.handle.serial)
            (List.inj_on_of_nodup_map (hl₁.keys j p₁ hp₁) he' (hmem₁ rfl) (hk'.trans hek.symm)))
        have hpool : (((w₁.setPool j ((p₁.erase key).count Recorder.rotation)).evict
            e'.handle.serial).letGo e'.handle).pool? j = some ((p₁.erase key).count Recorder.rotation) := by
          rw [pool?, letGo_pools, evict_pools, ← pool?, pool?_setPool w₁ hp₁, if_pos rfl]
        refine (((hs₁.setPool hp₁ hmem).evict hne).letGo hne).openHandle hpool hmem ?_ key t creds
        rw [length_letGo, length_evict]
        exact hn
      · exact hs₁.setPool (q := p₁.count Recorder.hit) hp₁ hmem₁
    · -- a miss, after purging a full pool
      have hpu : (if w₁.config.maxCacheSize ≤ p₁.size then w₁.purge j p₁ else (p₁, w₁)).2.Stands i e ∧
          (if w₁.config.maxCacheSize ≤ p₁.size then w₁.purge j p₁ else (p₁, w₁)).2.pool? j =
            some (if w₁.config.maxCacheSize ≤ p₁.size then w₁.purge j p₁ else (p₁, w₁)).1 ∧
          (j = i → e ∈ (if w₁.config.maxCacheSize ≤ p₁.size then w₁.purge j p₁ else (p₁, w₁)).1.entries) ∧
          (if w₁.config.maxCacheSize ≤ p₁.size then w₁.purge j p₁ else (p₁, w₁)).2.backend.resources.length =
            w₁.backend.resources.length := by
        split
        · exact ⟨(hs₁.purge hp₁).1, (shrinks_purge hp₁).2.1, (hs₁.purge hp₁).2,
            (shrinks_purge hp₁).1.opened⟩
        · exact ⟨hs₁, hp₁, hmem₁, rfl⟩
      generalize (if w₁.config.maxCacheSize ≤ p₁.size then w₁.purge j p₁ else (p₁, w₁)) = d at hpu ⊢
      obtain ⟨p₂, w₂⟩ := d
      obtain ⟨hs₂, hp₂, hmem₂, hlen₂⟩ := hpu
      dsimp only at hs₂ hp₂ hmem₂ hlen₂ ⊢
      split
      · exact hs₂.setPool (q := p₂.count Recorder.capacityRejection) hp₂ hmem₂
      · exact hs₂.openHandle (p := p₂.count Recorder.miss) hp₂ hmem₂ (hlen₂ ▸ hn) key t creds

/-- Answering a lookup only holds the answered handle, which leaves the pools alone. -/
theorem quiet_answerLookup {D : List Handle} (hl : w.Ledger D) {j : Nat} {p : Pool}
    (hp : w.pool? j = some p) (t : Target) (pr : Principal) (u : Nat) (name : Option String) :
    Quiet (w.lookup j p t pr u).2 (w.answerLookup j p t pr u name).2 := by
  have hlk := ledger_lookup hl hp t pr u
  unfold answerLookup
  generalize w.lookup j p t pr u = l at hlk ⊢
  obtain ⟨r, w₁⟩ := l
  cases r with
  | error err => exact Quiet.refl _
  | ok h =>
    cases name with
    | none => exact Quiet.refl _
    | some nm => exact quiet_hold hlk.1 (hlk.2 h rfl) nm

theorem Stands.lookupAs {D : List Handle} (hl : w.Ledger D) (hs : w.Stands i e) {j : Nat}
    {p : Pool} (hp : w.pool? j = some p) (t : Target) (pr : Principal) (ex : Bool)
    (name : Option String)
    (hrot : j = i → ∀ c', CacheKey.derive t pr (if ex then p.nextUnique.toNat else 0) = .ok e.key →
      credentialTokens pr = .ok c' → w.config.isIdentitySensitive e.key.scheme = true →
      c' = e.credentials) :
    (w.lookupAs j p t pr ex name).2.Stands i e := by
  cases ex with
  | true =>
    -- the lookup runs in the pool with its number drawn, whose entries are those of `p`
    rw [lookupAs_true]
    have hq : (w.setPool j p.drawUnique.2).pool? j = some p.drawUnique.2 := by
      rw [pool?_setPool w hp, if_pos rfl]
    have hs₁ := hs.setPool (q := p.drawUnique.2) hp fun hji => (hs.mem (hji ▸ hp) : e ∈ p.entries)
    have hl₁ := hl.setPool_entries (q := p.drawUnique.2) hp rfl
    exact (hs₁.lookup hl₁ hq t pr _ hrot).quiet (quiet_answerLookup hl₁ hq t pr _ name)
  | false =>
    rw [lookupAs_false]
    exact (hs.lookup hl hp t pr 0 hrot).quiet (quiet_answerLookup hl hp t pr 0 name)

/-- A remove through a handle on another resource keeps `e`. -/
theorem Stands.remove (hs : w.Stands i e) {j : Nat} {p : Pool} (hp : w.pool? j = some p)
    {h : Handle} (hn : h.serial ≠ e.handle.serial) : (w.remove j p h).2.Stands i e := by
  unfold World.remove
  split
  · rename_i e' p' ht
    obtain ⟨-, hse, hq⟩ := Pool.take_spec ht
    have hmem : j = i → e ∈ (p'.count Recorder.eviction).entries := fun hji => by
      show e ∈ p'.entries
      rw [hq]
      exact List.mem_filter.2 ⟨hs.mem (hji ▸ hp), by simpa using fun h' => hn h'.symm⟩
    rw [← hse] at hn
    exact ((hs.setPool hp hmem).evict hn).letGo hn
  · exact hs

/-- A close through a handle on another resource keeps `e`. -/
theorem Stands.close (hs : w.Stands i e) {j : Nat} {p : Pool} (hp : w.pool? j = some p)
    {h : Handle} (hn : h.serial ≠ e.handle.serial) : (w.close j p h).2.Stands i e := by
  unfold World.close
  split
  · rename_i e' p' ht
    obtain ⟨-, hse, hq⟩ := Pool.take_spec ht
    have hmem : j = i → e ∈ (p'.count Recorder.eviction).entries := fun hji => by
      show e ∈ p'.entries
      rw [hq]
      exact List.mem_filter.2 ⟨hs.mem (hji ▸ hp), by simpa using fun h' => hn h'.symm⟩
    exact ((hs.setPool hp hmem).letGo (hse ▸ hn)).closeResource hn
  · exact hs.closeResource hn

/-- Closing every handle of another pool keeps `e`: no entry there is on its resource. -/
theorem Stands.closeAll {D : List Handle} (hl : w.Ledger D) (hs : w.Stands i e) {j : Nat}
    {p : Pool} (hp : w.pool? j = some p) (hji : j ≠ i) : (w.closeAll j p).2.Stands i e := by
  have hn : ∀ e' ∈ p.entries, e'.handle.serial ≠ e.handle.serial := fun e' he' hse =>
    hji (hl.single j i e' e ⟨p, hp, he'⟩ hs.1 hse).1
  -- each entry left to drain is on another resource than `e`'s
  refine (w.closeEntries_induction
    (fun es w' => w'.Stands i e ∧ ∀ e' ∈ es, e'.handle.serial ≠ e.handle.serial) j p p.entries
    (fun e' _ _ h => ⟨h.1.closeResource (h.2 e' List.mem_cons_self), h.2⟩)
    (fun e' _ _ h => ⟨h.1.letGo (h.2 e' List.mem_cons_self),
      fun e'' he'' => h.2 e'' (List.mem_cons_of_mem _ he'')⟩)
    ⟨hs.setPool (q := { p with entries := [] }) hp fun h => absurd h hji, hn⟩).1

/-- Dropping another pool keeps `e`. -/
theorem Stands.dropPool {D : List Handle} (hl : w.Ledger D) (hs : w.Stands i e) {j : Nat}
    {p : Pool} (hp : w.pool? j = some p) (hji : j ≠ i) : (w.dropPool j p).Stands i e := by
  have h₀ : ({ w with pools := w.pools.set j none }).Stands i e :=
    ⟨(cachedAt_dropPool j i e).2 ⟨fun h => hji h.symm, hs.1⟩, hs.2⟩
  refine h₀.letGoAll fun h hh => ?_
  obtain ⟨e', he', rfl⟩ := List.mem_map.1 hh
  exact fun hse => hji (hl.single j i e' e ⟨p, hp, he'⟩ hs.1 hse).1

theorem Stands.newPool (hs : w.Stands i e) (identity : Option IdentitySource) :
    ({ w with pools := w.pools ++ [some ({ identity } : Pool)] }).Stands i e := by
  obtain ⟨p, hp, he⟩ := hs.1
  exact ⟨⟨p, pool?_newPool_of hp, he⟩, hs.2⟩

end Standing

/-! ## Lookups at a standing entry's key -/

section Answers

variable {w : World} {i : Nat}

/-- After the discard, the entry under the key, if any, is open. -/
theorem discardClosed_open (p : Pool) (key : CacheKey) {e : Entry}
    (hf : (w.discardClosed i p key).1.find? key = some e) :
    (w.discardClosed i p key).2.backend.resources.isClosed e.handle.serial = false := by
  unfold World.discardClosed at hf ⊢
  rcases hfind : p.find? key with _ | e'
  · simp only [hfind] at hf
    cases hf
  · by_cases hcl : w.backend.resources.isClosed e'.handle.serial = true
    · simp only [hfind, hcl, if_true, Pool.find?_erase] at hf
      cases hf
    · simp only [hfind, hcl, Bool.false_eq_true, if_false] at hf ⊢
      cases hf
      exact Bool.eq_false_iff.2 hcl

/-- A handle opened for pool `j` is on a new, open resource. -/
theorem openHandle_stands (hnum : w.backend.resources.Numbered) {j : Nat} {p₀ p : Pool}
    (hp : w.pool? j = some p₀) {key : CacheKey} {t : Target} {creds : TokenSet} {hd : Handle}
    (h : (w.openHandle j p key t creds).1 = .ok hd) :
    (w.openHandle j p key t creds).2.Stands j ⟨key, hd, creds⟩ := by
  refine ⟨(openHandle_ok hp h).2, ?_⟩
  unfold World.openHandle at h ⊢
  split at h
  · cases h
  · rename_i r b hopen
    obtain ⟨hr, hb⟩ := Backend.openOn_ok hopen
    have hclosed := Backend.openOn_closed hopen
    generalize w.orphans.register = ro at h ⊢
    obtain ⟨reg, o⟩ := ro
    dsimp only at h ⊢
    cases h
    show ¬ b.resources.Shut r.serial
    rw [hb]
    rintro ⟨r', hr', hs, hc⟩
    rcases List.mem_append.1 hr' with hr' | hr'
    · have := (hnum.mem hr').2
      omega
    · rw [List.mem_singleton.1 hr', hclosed] at hc
      cases hc

/-- A lookup at the key of a standing entry, with credentials the entry accepts, is a hit. -/
theorem lookup_hit {D : List Handle} (hl : w.Ledger D) {e : Entry} (hs : w.Stands i e) {p : Pool}
    (hp : w.pool? i = some p) {t : Target} {pr : Principal} {u : Nat} {c' : TokenSet}
    (hk : CacheKey.derive t pr u = .ok e.key) (hc : credentialTokens pr = .ok c')
    (hcc : w.config.isIdentitySensitive e.key.scheme = true → c' = e.credentials) :
    w.lookup i p t pr u = (.ok e.handle, w.setPool i (p.count Recorder.hit)) := by
  have hf : p.find? e.key = some e := Pool.find?_of_mem (hl.keys i p hp) (hs.mem hp)
  have hopen : w.backend.resources.isClosed e.handle.serial = false :=
    Bool.eq_false_iff.2 fun h => hs.2 (Resources.shut_of_isClosed h)
  have hd : w.discardClosed i p e.key = (p, w) := by
    simp only [World.discardClosed, hf, hopen, Bool.false_eq_true, if_false]
  -- no rotation: where the scheme binds handles to credentials, they agree
  have hnot : (w.config.isIdentitySensitive e.key.scheme && e.credentials != c') = false := by
    cases hsens : w.config.isIdentitySensitive e.key.scheme
    · rfl
    · simp [hcc hsens]
  simp only [World.lookup, hk, hc, hd, hf, hnot, Bool.false_eq_true, if_false]

/-- The lease a lookup that found `hd` answers: `hd`'s resource as it stands once the handle is
held. -/
theorem answerLookup_ok {j : Nat} {p : Pool} {t : Target} {pr : Principal} {u : Nat}
    {hd : Handle} {w₁ : World} (h : w.lookup j p t pr u = (.ok hd, w₁)) (name : Option String) :
    (w.answerLookup j p t pr u name).1 =
      .value (.lease hd.serial
        ((w.answerLookup j p t pr u name).2.backend.resources.isClosed hd.serial)
        (((w.answerLookup j p t pr u name).2.backend.resources.find? hd.serial).bind (·.tag))) := by
  unfold answerLookup
  rw [h]

end Answers

/-! ## Serving a key -/

/-- Pool `i` has an open entry under key `k` on the resource `n`, whose credentials are `c`
where the key's scheme binds handles to credentials. -/
def Serves (i : Nat) (k : CacheKey) (c : TokenSet) (n : Nat) (w : World) : Prop :=
  ∃ e, w.Stands i e ∧ e.key = k ∧ e.handle.serial = n ∧
    (w.config.isIdentitySensitive k.scheme = true → e.credentials = c)

/-- The steps that may take the entry serving key `k` of pool `i`, on the resource `n`, out of
service: a lookup in pool `i` at `k` with credentials other than `c` on a scheme that binds
handles to credentials, which rotates it; a remove or a close through a handle on `n`, in any
pool; closing every handle of pool `i`; dropping pool `i`. -/
def Disturbs (i : Nat) (k : CacheKey) (c : TokenSet) (n : Nat) (w : World) (s : PoolStep) : Prop :=
  (∃ t pr ex name p c', w.Asks s i t pr ex name ∧ w.pool? i = some p ∧
    CacheKey.derive t pr (if ex then p.nextUnique.toNat else 0) = .ok k ∧
    credentialTokens pr = .ok c' ∧ w.config.isIdentitySensitive k.scheme = true ∧ c' ≠ c) ∨
  (∃ j name h, (s = .remove j name ∨ s = .close j name) ∧ w.held.lookup name = some h ∧
    h.serial = n) ∨
  s = .closeAllShared i ∨ s = .dropPool i

section Serving

variable {w : World} {i : Nat} {k : CacheKey} {c : TokenSet} {n : Nat}

theorem Serves.quiet {w' : World} (hs : w.Serves i k c n) (hq : Quiet w w') :
    w'.Serves i k c n := by
  obtain ⟨e, hst, hk, hn, hc⟩ := hs
  exact ⟨e, hst.quiet hq, hk, hn, fun h => hc (hq.config ▸ h)⟩

/-- A step that does not disturb the entry serving a key keeps it serving. -/
theorem Serves.act (hl : w.Ledger []) (hs : w.Serves i k c n) (s : PoolStep)
    (hns : ¬ w.Disturbs i k c n s) : (w.act s).2.Serves i k c n := by
  obtain ⟨e, hst, rfl, rfl, hcred⟩ := hs
  have hst' : (w.act s).2.Stands i e := by
    rcases act_cases hl s with hq | ⟨j, p, t, pr, ex, name, hp, hask, he⟩ |
        ⟨j, p, name, h, hp, hh, ⟨rfl, he⟩ | ⟨rfl, he⟩⟩ | ⟨j, p, hp, ⟨rfl, he⟩ | ⟨rfl, he⟩⟩ |
        ⟨identity, -, he⟩
    · exact hst.quiet hq
    · -- a lookup at the entry's key with other credentials would rotate it
      rw [he]
      refine hst.lookupAs hl hp t pr ex name fun hji c' hk hc hsens => ?_
      subst hji
      by_contra hne
      exact hns (Or.inl ⟨t, pr, ex, name, p, c', hask, hp, hk, hc, hsens,
        fun hcc => hne (hcc.trans (hcred hsens).symm)⟩)
    · rw [he]
      exact hst.remove hp fun hn => hns (Or.inr (Or.inl ⟨j, name, h, Or.inl rfl, hh, hn⟩))
    · rw [he]
      exact hst.close hp fun hn => hns (Or.inr (Or.inl ⟨j, name, h, Or.inr rfl, hh, hn⟩))
    · rw [he]
      exact hst.closeAll hl hp fun hji => hns (Or.inr (Or.inr (Or.inl (hji ▸ rfl))))
    · rw [he]
      exact hst.dropPool hl hp fun hji => hns (Or.inr (Or.inr (Or.inr (hji ▸ rfl))))
    · rw [he]
      exact hst.newPool identity
  exact ⟨e, hst', rfl, rfl, fun h => hcred (config_act hl s ▸ h)⟩

theorem Serves.move (hl : w.Ledger []) (hs : w.Serves i k c n) {w' : World}
    (hm : Move (fun w s => ¬ w.Disturbs i k c n s) w w') : w'.Serves i k c n := by
  rcases hm.act_or_worker with ⟨s, hns, rfl⟩ | hw
  · exact hs.act hl s hns
  · exact hs.quiet (hw.quiet hl)

/-- A run that does not disturb the entry serving a key keeps it serving. -/
theorem Serves.moves (hl : w.Ledger []) (hs : w.Serves i k c n) {w' : World}
    (hr : Relation.ReflTransGen (Move fun w s => ¬ w.Disturbs i k c n s) w w') :
    w'.Serves i k c n := by
  induction hr with
  | refl => exact hs
  | tail hr hm ih => exact ih.move (ledger_moves hl hr) hm

/-- A lookup that answers a handle leaves its pool serving the lookup's key, with the lookup's
credentials, on the handle's resource. -/
theorem lookup_serves {D : List Handle} (hl : w.Ledger D) {p : Pool} (hp : w.pool? i = some p)
    {t : Target} {pr : Principal} {u : Nat} {key : CacheKey} {creds : TokenSet} {hd : Handle}
    (hk : CacheKey.derive t pr u = .ok key) (hc : credentialTokens pr = .ok creds)
    (h : (w.lookup i p t pr u).1 = .ok hd) :
    (w.lookup i p t pr u).2.Serves i key creds hd.serial := by
  simp only [World.lookup, hk, hc] at h ⊢
  obtain ⟨hl₁, hp₁⟩ := ledger_discardClosed hl hp key
  have hopen := fun {e : Entry} => discardClosed_open (w := w) (i := i) p key (e := e)
  generalize w.discardClosed i p key = d at hl₁ hp₁ hopen h ⊢
  obtain ⟨p₁, w₁⟩ := d
  dsimp only at hl₁ hp₁ hopen h ⊢
  split at h
  · rename_i e hf
    split at h
    · -- a rotation opens a new handle with the lookup's credentials
      rename_i hrot
      rw [if_pos hrot]
      have ht := (hl₁.takesOut_erase hp₁ hf).count Recorder.rotation
      have hpool : (((w₁.setPool i ((p₁.erase key).count Recorder.rotation)).evict
          e.handle.serial).letGo e.handle).pool? i = some ((p₁.erase key).count Recorder.rotation) := by
        rw [pool?, letGo_pools, evict_pools, ← pool?, pool?_setPool w₁ hp₁, if_pos rfl]
      exact ⟨_, openHandle_stands (hl₁.evictOut hp₁ ht).numbered hpool h, rfl, rfl, fun _ => rfl⟩
    · -- a hit answers the open entry under the key
      rename_i hnot
      rw [if_neg hnot]
      cases h
      obtain ⟨he, hek⟩ := Pool.find?_spec hf
      refine ⟨e, ⟨(cachedAt_setPool hp₁ _ i e).2 (Or.inl ⟨rfl, he⟩), fun hsh => ?_⟩, hek, rfl,
        fun hsens => ?_⟩
      · have := Resources.isClosed_of_shut hl₁.numbered hsh
        rw [hopen hf] at this
        cases this
      · simp only [Bool.and_eq_true, bne_iff_ne, ne_eq, not_and, not_not] at hnot
        exact hnot hsens
  · -- a miss opens a new handle, unless the pool is full
    rename_i hf
    have hpu : (if w₁.config.maxCacheSize ≤ p₁.size then w₁.purge i p₁ else (p₁, w₁)).2.Ledger D ∧
        (if w₁.config.maxCacheSize ≤ p₁.size then w₁.purge i p₁ else (p₁, w₁)).2.pool? i =
          some (if w₁.config.maxCacheSize ≤ p₁.size then w₁.purge i p₁ else (p₁, w₁)).1 := by
      split
      · exact ⟨(ledger_purge hl₁ hp₁).1, (ledger_purge hl₁ hp₁).2.1⟩
      · exact ⟨hl₁, hp₁⟩
    generalize (if w₁.config.maxCacheSize ≤ p₁.size then w₁.purge i p₁ else (p₁, w₁)) = d at hpu h ⊢
    obtain ⟨p₂, w₂⟩ := d
    obtain ⟨hl₂, hp₂⟩ := hpu
    dsimp only at hl₂ hp₂ h ⊢
    split at h
    · cases h
    · rename_i hroom
      rw [if_neg hroom]
      exact ⟨_, openHandle_stands hl₂.numbered hp₂ h, rfl, rfl, fun _ => rfl⟩

/-- A shared lookup that answers a lease leaves its pool serving the lookup's key, with the
lookup's credentials, on the lease's resource. -/
theorem serves_lookupAs {D : List Handle} (hl : w.Ledger D) {p : Pool} (hp : w.pool? i = some p)
    {t : Target} {pr : Principal} {name : Option String} {cl : Bool} {tag : Option String}
    (hk : CacheKey.derive t pr 0 = .ok k) (hc : credentialTokens pr = .ok c)
    (h : (w.lookupAs i p t pr false name).1 = .value (.lease n cl tag)) :
    (w.lookupAs i p t pr false name).2.Serves i k c n := by
  rw [lookupAs_false] at h ⊢
  obtain ⟨hd, hok, rfl, -⟩ := answerLookup_lease h
  exact (lookup_serves hl hp hk hc hok).quiet (quiet_answerLookup hl hp t pr 0 name)

/-- A shared lookup at a key that an entry serves, whose principal has credentials (the
entry's ones where the scheme binds handles to credentials), is a hit on the entry: it opens
nothing and answers the entry's resource, open. -/
theorem Serves.lookupAs {D : List Handle} (hl : w.Ledger D) (hs : w.Serves i k c n) {p : Pool}
    (hp : w.pool? i = some p) {t : Target} {pr : Principal} (hk : CacheKey.derive t pr 0 = .ok k)
    (hc : (w.config.isIdentitySensitive k.scheme = false ∧ ∃ c', credentialTokens pr = .ok c') ∨
      credentialTokens pr = .ok c) (name : Option String) :
    ∃ tag, (w.lookupAs i p t pr false name).1 = .value (.lease n false tag) ∧
      (w.lookupAs i p t pr false name).2.backend.resources.length = w.backend.resources.length ∧
      (w.lookupAs i p t pr false name).2.pool? i = some (p.count Recorder.hit) := by
  obtain ⟨e, hst, rfl, rfl, hcred⟩ := hs
  obtain ⟨c', hc', hcc⟩ : ∃ c', credentialTokens pr = .ok c' ∧
      (w.config.isIdentitySensitive e.key.scheme = true → c' = e.credentials) := by
    rcases hc with ⟨hns, c', hc'⟩ | hc'
    · exact ⟨c', hc', fun h => absurd (hns.symm.trans h) Bool.false_ne_true⟩
    · exact ⟨c, hc', fun h => (hcred h).symm⟩
  have hlk := lookup_hit hl hst hp hk hc' hcc
  have hq := quiet_answerLookup hl hp t pr 0 name
  rw [hlk] at hq
  have hst₂ := (hst.setPool (q := p.count Recorder.hit) hp fun _ =>
    (hst.mem hp : e ∈ p.entries)).quiet hq
  have hopen : (w.answerLookup i p t pr 0 name).2.backend.resources.isClosed e.handle.serial =
      false := Bool.eq_false_iff.2 fun h => hst₂.2 (Resources.shut_of_isClosed h)
  change ∃ tag, (w.answerLookup i p t pr 0 name).1 = _ ∧
    (w.answerLookup i p t pr 0 name).2.backend.resources.length = _ ∧
    (w.answerLookup i p t pr 0 name).2.pool? i = _
  refine ⟨_, (answerLookup_ok hlk name).trans (by rw [hopen]), hq.backend.1, ?_⟩
  rw [pool?, hq.pools, ← pool?, pool?_setPool w hp, if_pos rfl]

end Serving

/-! ## Reuse over a run -/

/-- A shared lookup that answered a lease on the resource `n` for key `k` and credentials `c`
is followed by any run that does not disturb its entry; then a shared lookup in the same pool
at the same key, whose principal has credentials (`c` itself where the scheme binds handles to
credentials), is a hit: it answers the lease on `n`, open, opens no resource, and counts a
hit. -/
theorem later_lookup_reuses_resource {w₀ w₁ w₂ : World} (hw : w₀.Reachable) {i : Nat}
    {p₀ p₂ : Pool} {t t' : Target} {pr pr' : Principal} {name name' : Option String}
    {k : CacheKey} {c : TokenSet} {n : Nat} {cl : Bool} {tag : Option String}
    (hp₀ : w₀.pool? i = some p₀) (hk : CacheKey.derive t pr 0 = .ok k)
    (hc : credentialTokens pr = .ok c)
    (h₁ : w₀.lookupAs i p₀ t pr false name = (.value (.lease n cl tag), w₁))
    (hrun : Relation.ReflTransGen (Move fun w s => ¬ w.Disturbs i k c n s) w₁ w₂)
    (hp₂ : w₂.pool? i = some p₂) (hk' : CacheKey.derive t' pr' 0 = .ok k)
    (hc' : (w₂.config.isIdentitySensitive k.scheme = false ∧ ∃ c', credentialTokens pr' = .ok c') ∨
      credentialTokens pr' = .ok c) :
    ∃ tag', (w₂.lookupAs i p₂ t' pr' false name').1 = .value (.lease n false tag') ∧
      (w₂.lookupAs i p₂ t' pr' false name').2.backend.resources.length =
        w₂.backend.resources.length ∧
      (w₂.lookupAs i p₂ t' pr' false name').2.pool? i = some (p₂.count Recorder.hit) := by
  have hl₀ := ledger_of_reachable hw
  have hl₁ : w₁.Ledger [] := by
    have := ledger_lookupAs hl₀ hp₀ t pr false name
    rwa [h₁] at this
  have hserve : w₁.Serves i k c n := by
    have := serves_lookupAs hl₀ hp₀ hk hc (congrArg Prod.fst h₁)
    rwa [h₁] at this
  exact (hserve.moves hl₁ hrun).lookupAs (ledger_moves hl₁ hrun) hp₂ hk' hc' name'

theorem later_lookup_reuses_resource_after_tick :
    let t : Target :=
      ⟨{ scheme := "hdfs", host := some (.domain "nn1"), path := .segments [] }, "hdfs", "nn1"⟩
    let alice := Principal.direct "alice" .kerberos .empty
    let k : CacheKey := ⟨"hdfs", "nn1", 0, ⟨"alice", none⟩⟩
    let w₀ := World.create {} .manual none
    let w₁ := (w₀.lookupAs 0 { identity := none } t alice false (some "a")).2
    let p₂ : Pool :=
      { identity := none, entries := [⟨k, ⟨1, 1⟩, .empty⟩], counters := { misses := 1, creations := 1 } }
    w₀.Reachable ∧ w₀.pool? 0 = some { identity := none } ∧ CacheKey.derive t alice 0 = .ok k ∧
    credentialTokens alice = .ok .empty ∧
    w₀.lookupAs 0 { identity := none } t alice false (some "a") =
      (.value (.lease 1 false none), w₁) ∧
    Relation.ReflTransGen (Move fun w s => ¬ w.Disturbs 0 k .empty 1 s) w₁ w₁.tick ∧
    w₁.tick.pool? 0 = some p₂ ∧
    (∃ tag', (w₁.tick.lookupAs 0 p₂ t alice false (some "b")).1 = .value (.lease 1 false tag') ∧
      (w₁.tick.lookupAs 0 p₂ t alice false (some "b")).2.backend.resources.length =
        w₁.tick.backend.resources.length ∧
      (w₁.tick.lookupAs 0 p₂ t alice false (some "b")).2.pool? 0 = some (p₂.count Recorder.hit)) :=
  ⟨Reachable.create {} .manual none .switched, rfl, rfl, rfl, Prod.ext rfl rfl, .single Move.tick, rfl,
    later_lookup_reuses_resource (Reachable.create {} .manual none .switched) (by rfl) (by rfl) (by rfl)
      (Prod.ext (by rfl) rfl) (.single Move.tick) (by rfl) (by rfl) (Or.inr (by rfl))⟩

/-- An equal key on a scheme that does not bind handles to credentials is not enough for a
later lookup to reuse a resource: the lookup computes the principal's credentials first, and a
proxy whose real user signs in with a token has none, so the second lookup fails. -/
theorem reuse_needs_credentials :
    (∀ t, CacheKey.derive t (.proxy "alice" .empty (.direct "svc" .token .empty)) 0 =
      CacheKey.derive t (.proxy "alice" .empty (.direct "svc" .kerberos .empty)) 0) ∧
    (World.create {} .manual none).config.isIdentitySensitive "s3a" = false ∧
    ((World.create {} .manual none).act
      (.get 0 "s3a://bucket" (.proxy "alice" .empty (.direct "svc" .kerberos .empty)) false none)).1 =
      .value (.lease 1 false none) ∧
    (((World.create {} .manual none).act
      (.get 0 "s3a://bucket" (.proxy "alice" .empty (.direct "svc" .kerberos .empty)) false none)).2.act
      (.get 0 "s3a://bucket" (.proxy "alice" .empty (.direct "svc" .token .empty)) false none)).1 =
      .failed (.unsupportedAuthMethod "TOKEN") :=
  ⟨fun _ => rfl, by decide, rfl, rfl⟩

end World

end HandlePool
