import HandlePool.Proofs.Exclusive
/-!
# What a failed lookup leaves

A lookup fails at one of three depths, and each failure leaves its own residue.

* Before it has a key and credentials: the pool has no identity source, the source names no
  principal, or the principal has no key or no credentials. Nothing has changed then, except
  that an exclusive lookup has drawn its unique number (`lookupAs_unresolved`). These errors are
  configuration errors or unsupported authentication methods (`Error.OfPrincipal`).
* At the capacity check: see `pool_capacity`.
* When the backend refuses to open a resource. The error names the target's display and
  carries the backend's reason, and the pool is left as `CreationFailed` says: no entry under
  the key, no entry it did not have, one more creation failure, no resource opened and no
  handle registered, the other pools as they were. If the key had an open entry, the lookup was
  a rotation and handed that entry's resource to the grace queue (`lookup_rotation_failed`);
  otherwise it was a miss and the grace queue is untouched (`lookup_miss_failed`).

`failed_lookup_residue` gathers all of this for the steps of a session in a reachable world.
The grace queue keeps a rotated-out resource at its back only while it runs: after it has shut
down, the resource is closed at once or abandoned, so a failed rotation then leaves the queue
empty (`failed_rotation_after_shutdown_skips_queue`).
-/

namespace HandlePool

/-! ## Errors of resolving a principal -/

/-- A configuration error or an unsupported authentication method: the errors a lookup meets
while it resolves its principal, key and credentials. -/
def Error.OfPrincipal : Error → Prop
  | .configuration _ => True
  | .unsupportedAuthMethod _ => True
  | _ => False

theorem realUserOf_error {pr : Principal} {e : Error} (h : realUserOf pr = .error e) :
    e.OfPrincipal := by
  unfold realUserOf at h
  split at h
  · cases h
  · cases h
    trivial

theorem Identity.of_error {pr : Principal} {e : Error} (h : Identity.of pr = .error e) :
    e.OfPrincipal := by
  unfold Identity.of at h
  split at h
  · cases h
  · cases h
  · -- a proxy fails only for want of a real user
    cases hr : realUserOf pr with
    | error e' =>
      rw [hr] at h
      cases h
      exact realUserOf_error hr
    | ok r =>
      rw [hr] at h
      cases h
  · cases h
    trivial

theorem CacheKey.derive_error {t : Target} {pr : Principal} {u : Nat} {e : Error}
    (h : CacheKey.derive t pr u = .error e) : e.OfPrincipal := by
  unfold CacheKey.derive at h
  cases hi : Identity.of pr with
  | error e' =>
    rw [hi] at h
    cases h
    exact Identity.of_error hi
  | ok i =>
    rw [hi] at h
    cases h

theorem credentialTokens_error {pr : Principal} {e : Error} (h : credentialTokens pr = .error e) :
    e.OfPrincipal := by
  induction pr with
  | direct u m c =>
    -- a proxy method without a real user, or a method without credentials of its own
    cases m <;> simp only [credentialTokens, reduceCtorEq, Except.error.injEq] at h <;> subst h <;>
      trivial
  | proxy u c r ih => exact ih h

theorem IdentitySource.current_error {src : IdentitySource} {sc : Scope} {e : Error}
    (h : src.current sc = .error e) : e.OfPrincipal := by
  unfold IdentitySource.current at h
  split at h
  · cases h
  · split at h
    · cases h
    · cases h
    · cases h
      trivial

/-! ## The backend's answer to an opening

During a lookup only closes change the backend, and a close changes only its resources: the
factory answers an opening as it did before the lookup began. -/

/-- The backend refuses to open a resource exactly when its factory refuses, for the reason the
factory gives. -/
theorem Backend.openOn_error_iff {b : Backend} {t : Target} {props : Properties} {r : String} :
    b.openOn t props = .error r ↔ b.opening t props = .error r := by
  unfold Backend.openOn
  split <;> rename_i h <;> simp [h]

namespace World

section Opening

variable (w : World)

theorem opening_letGo (h : Handle) : (w.letGo h).backend.opening = w.backend.opening := by
  unfold letGo
  split
  · rfl
  · rw [withOrphans_eq]
    exact Orphans.rel_post Backend.cleanup (fun b b' => b'.opening = b.opening) (fun _ => rfl)
      (fun _ _ => rfl) _ _

theorem opening_letGoAll (hs : List Handle) :
    (w.letGoAll hs).backend.opening = w.backend.opening := by
  induction hs generalizing w with
  | nil => rfl
  | cons h hs ih => rw [letGoAll_cons, ih, opening_letGo]

theorem opening_discardClosed (i : Nat) (p : Pool) (key : CacheKey) :
    (w.discardClosed i p key).2.backend.opening = w.backend.opening := by
  unfold discardClosed
  split
  · split
    · exact opening_letGo _ _
    · rfl
  · rfl

theorem opening_purge (i : Nat) (p : Pool) :
    (w.purge i p).2.backend.opening = w.backend.opening :=
  opening_letGoAll _ _

theorem opening_evict (n : Nat) : (w.evict n).backend.opening = w.backend.opening := by
  rw [evict, withGrace_eq]
  exact GraceQueue.rel_enqueue Backend.close (fun b b' => b'.opening = b.opening) (fun _ => rfl)
    (fun h₁ h₂ => h₂.trans h₁) (fun _ _ => rfl) _ _ _

/-- Handing a resource to the grace queue leaves the tracker alone. -/
theorem evict_parts (n : Nat) : (w.evict n).orphans = w.orphans ∧
    (w.evict n).grace = (GraceQueue.enqueue Backend.close n w.clock.elapsed (w.grace, w.backend)).1 := by
  rw [evict, withGrace_eq]
  exact ⟨rfl, rfl⟩

end Opening

/-! ## A refused opening -/

/-- What a lookup at key `k` with credentials `c` in pool `i`, whose state was `p`, leaves when
the backend refuses to open: pool `i` has no entry under `k`, no entry that `p` lacked and one
more creation failure; the other pools are as they were; no resource was opened and no handle
registered; and the grace queue was handed the resource of the open entry under `k`, if there
was one, which the lookup rotated out, and is untouched otherwise. -/
structure CreationFailed (i : Nat) (k : CacheKey) (c : TokenSet) (p : Pool) (w w' : World) :
    Prop where
  pool : ∃ q, w'.pool? i = some q ∧ q.find? k = none ∧ (∀ e ∈ q.entries, e ∈ p.entries) ∧
    q.counters.creationFailures = p.counters.creationFailures + 1
  other : ∀ j, j ≠ i → w'.pool? j = w.pool? j
  opened : w'.backend.resources.length = w.backend.resources.length
  nextId : w'.orphans.nextId = w.orphans.nextId
  rotated : ∀ e ∈ p.entries, e.key = k → ¬ w.backend.resources.Shut e.handle.serial →
    w.config.isIdentitySensitive k.scheme = true ∧ e.credentials ≠ c ∧
      w'.grace = (GraceQueue.enqueue Backend.close e.handle.serial w.clock.elapsed
        (w.grace, w.backend)).1
  missed : (∀ e ∈ p.entries, e.key = k → w.backend.resources.Shut e.handle.serial) →
    w'.grace = w.grace

variable {w : World} {i : Nat} {p : Pool}

/-- `v` is `w` after the entry `e` left pool `i`, whose state is now `q`, and its resource was
handed to the grace queue at the clock's reading: the other pools, the resources, the tracker's
next number, the factory's answers to an opening and the configuration are as in `w`. -/
structure RotatedOut (i : Nat) (q : Pool) (e : Entry) (w v : World) : Prop where
  pool : ∀ j, v.pool? j = if j = i then some q else w.pool? j
  length : v.backend.resources.length = w.backend.resources.length
  nextId : v.orphans.nextId = w.orphans.nextId
  grace : v.grace =
    (GraceQueue.enqueue Backend.close e.handle.serial w.clock.elapsed (w.grace, w.backend)).1
  opening : v.backend.opening = w.backend.opening
  config : v.config = w.config

/-- Setting the pool, handing the entry's resource to the grace queue and letting go of its
handle is what a rotation does before it opens. -/
theorem rotatedOut_letGo (hp : w.pool? i = some p) (q : Pool) (e : Entry) :
    RotatedOut i q e w (((w.setPool i q).evict e.handle.serial).letGo e.handle) where
  pool j := by rw [pool?, letGo_pools, evict_pools, ← pool?, pool?_setPool w hp]
  length := by
    rw [length_letGo, length_evict]
    rfl
  nextId := by
    rw [nextId_letGo, (evict_parts _ _).1]
    rfl
  grace := by
    rw [letGo_grace, (evict_parts _ _).2]
    rfl
  opening := by
    rw [opening_letGo, opening_evict]
    rfl
  config := by
    rw [config_letGo]
    rfl

/-- Opening fails only when the backend refuses; the error names the target and carries the
backend's reason, and only the pool's creation failures change. -/
theorem openHandle_error {key : CacheKey} {t : Target} {creds : TokenSet} {err : Error}
    (h : (w.openHandle i p key t creds).1 = .error err) :
    ∃ r, w.backend.openOn t w.config.backend = .error r ∧ err = .backendCreateFailed t.display r ∧
      (w.openHandle i p key t creds).2 = w.setPool i (p.count Recorder.creationFailure) := by
  rcases hopen : w.backend.openOn t w.config.backend with r | ⟨res, b⟩
  · have hres : w.openHandle i p key t creds =
        (.error (.backendCreateFailed t.display r), w.setPool i (p.count Recorder.creationFailure)) := by
      simp only [openHandle, hopen]
    rw [hres] at h ⊢
    cases h
    exact ⟨r, rfl, rfl, rfl⟩
  · simp only [openHandle, hopen] at h
    cases h

/-- A lookup at a key with an open entry fails only when it rotates the entry out and the
backend then refuses to open. -/
theorem lookup_rotation_failed {D : List Handle} (hl : w.Ledger D) (hp : w.pool? i = some p)
    {t : Target} {pr : Principal} {u : Nat} {k : CacheKey} {c : TokenSet}
    (hk : CacheKey.derive t pr u = .ok k) (hc : credentialTokens pr = .ok c) {e : Entry}
    (he : e ∈ p.entries) (hek : e.key = k) (hopen : ¬ w.backend.resources.Shut e.handle.serial)
    {err : Error} (hf : (w.lookup i p t pr u).1 = .error err) :
    ∃ r, w.backend.openOn t w.config.backend = .error r ∧ err = .backendCreateFailed t.display r ∧
      CreationFailed i k c p w (w.lookup i p t pr u).2 := by
  have hfind : p.find? k = some e := hek ▸ Pool.find?_of_mem (hl.keys i p hp) he
  have hcl : w.backend.resources.isClosed e.handle.serial = false :=
    Bool.eq_false_iff.2 fun h => hopen (Resources.shut_of_isClosed h)
  -- the discard keeps the open entry, so the lookup finds it
  have hdis : w.discardClosed i p k = (p, w) := by
    simp only [discardClosed, hfind, hcl, Bool.false_eq_true, if_false]
  simp only [World.lookup, hk, hc, hdis, hfind] at hf ⊢
  split at hf
  · rename_i hrot
    rw [if_pos hrot]
    simp only [Bool.and_eq_true, bne_iff_ne, ne_eq] at hrot
    -- the world in which the lookup opens, with the entry rotated out and its resource handed over
    have hro := rotatedOut_letGo hp ((p.erase k).count Recorder.rotation) e
    generalize ((w.setPool i ((p.erase k).count Recorder.rotation)).evict e.handle.serial).letGo
      e.handle = v at hro hf ⊢
    obtain ⟨r, hr, rfl, hres⟩ := openHandle_error hf
    rw [hres]
    have hq := pool?_setPool v ((hro.pool i).trans (if_pos rfl))
      (((p.erase k).count Recorder.rotation).count Recorder.creationFailure)
    refine ⟨r, ?_, rfl, ⟨_, (hq i).trans (if_pos rfl), Pool.find?_erase p k,
      fun e' he' => (List.mem_filter.1 he').1, rfl⟩, fun j hj => ?_, hro.length, hro.nextId, ?_, ?_⟩
    · -- the backend refused in the world the lookup started from
      rw [Backend.openOn_error_iff, ← hro.opening, ← hro.config]
      exact Backend.openOn_error_iff.1 hr
    · rw [hq j, if_neg hj, hro.pool j, if_neg hj]
    · intro e' he' hek' _
      -- the open entry under the key is the one rotated out
      obtain rfl := List.inj_on_of_nodup_map (hl.keys i p hp) he' he (hek'.trans hek.symm)
      exact ⟨hrot.1, hrot.2, hro.grace⟩
    · exact fun hno => absurd (hno e he hek) hopen
  · cases hf

/-- A lookup at a key without an open entry that fails for another reason than capacity: the
discard and the purge only tidied the pool, and the backend refused to open. -/
theorem lookup_miss_failed {D : List Handle} (hl : w.Ledger D) (hp : w.pool? i = some p)
    {t : Target} {pr : Principal} {u : Nat} {k : CacheKey} {c : TokenSet}
    (hk : CacheKey.derive t pr u = .ok k) (hc : credentialTokens pr = .ok c)
    (hno : ∀ e ∈ p.entries, e.key = k → w.backend.resources.Shut e.handle.serial) {d r : String}
    (hf : (w.lookup i p t pr u).1 = .error (.backendCreateFailed d r)) :
    w.backend.openOn t w.config.backend = .error r ∧ d = t.display ∧
      CreationFailed i k c p w (w.lookup i p t pr u).2 := by
  obtain ⟨htd, hnone, -, hshape⟩ := discardClosed_tidied hl hp hno
  have hsub := (shrinks_discardClosed hp k).2.2
  have hsw := opening_discardClosed w i p k
  simp only [World.lookup, hk, hc] at hf ⊢
  generalize w.discardClosed i p k = d at htd hnone hshape hsub hsw hf ⊢
  obtain ⟨p₁, w₁⟩ := d
  dsimp only at htd hnone hshape hsub hsw hf ⊢
  rw [hnone] at hf ⊢
  dsimp only at hf ⊢
  have hp₁ : w₁.pool? i = some p₁ := by rw [htd.pool i, if_pos rfl]
  -- a full pool is purged first, which only tidies it further
  have hpu : Tidied i (if w₁.config.maxCacheSize ≤ p₁.size then w₁.purge i p₁ else (p₁, w₁)).1 w
        (if w₁.config.maxCacheSize ≤ p₁.size then w₁.purge i p₁ else (p₁, w₁)).2 ∧
      (∀ e ∈ (if w₁.config.maxCacheSize ≤ p₁.size then w₁.purge i p₁ else (p₁, w₁)).1.entries,
        e ∈ p₁.entries) ∧
      (if w₁.config.maxCacheSize ≤ p₁.size then w₁.purge i p₁ else (p₁, w₁)).1.counters = p₁.counters ∧
      (if w₁.config.maxCacheSize ≤ p₁.size then w₁.purge i p₁ else (p₁, w₁)).2.backend.opening =
        w₁.backend.opening := by
    split
    · obtain ⟨htd₂, hshape₂⟩ := purge_tidied hp₁
      exact ⟨htd.trans htd₂, (shrinks_purge hp₁).2.2, by rw [hshape₂], opening_purge w₁ i p₁⟩
    · exact ⟨htd, fun _ h => h, rfl, rfl⟩
  generalize (if w₁.config.maxCacheSize ≤ p₁.size then w₁.purge i p₁ else (p₁, w₁)) = d at hpu hf ⊢
  obtain ⟨p₂, w₂⟩ := d
  obtain ⟨htd₂, hsub₂, hcnt₂, hsw₂⟩ := hpu
  dsimp only at htd₂ hsub₂ hcnt₂ hsw₂ hf ⊢
  split at hf
  · cases hf
  · rename_i hroom
    rw [if_neg hroom]
    obtain ⟨r', hr, herr, hres⟩ := openHandle_error hf
    cases herr
    rw [hres]
    have hq := pool?_setPool w₂ ((htd₂.pool i).trans (if_pos rfl))
      ((p₂.count Recorder.miss).count Recorder.creationFailure)
    have hcnt₁ : p₁.counters = p.counters := by rw [hshape]
    refine ⟨?_, rfl, ⟨_, (hq i).trans (if_pos rfl), ?_, fun e he => hsub e (hsub₂ e he), ?_⟩,
      fun j hj => ?_, ?_, htd₂.nextId, fun e he hek hopen => absurd (hno e he hek) hopen,
      fun _ => htd₂.grace⟩
    · -- the backend refused in the world the lookup started from
      rw [Backend.openOn_error_iff, ← hsw, ← hsw₂, ← htd₂.config]
      exact Backend.openOn_error_iff.1 hr
    · show p₂.entries.find? (·.key == k) = none
      exact List.find?_eq_none.2 fun e he => List.find?_eq_none.1 hnone e (hsub₂ e he)
    · show p₂.counters.creationFailures + 1 = p.counters.creationFailures + 1
      rw [hcnt₂, hcnt₁]
    · rw [hq j, if_neg hj, htd₂.pool j, if_neg hj]
    · show w₂.backend.resources.length = w.backend.resources.length
      rw [htd₂.resources]

/-- A lookup whose principal has a key and credentials, refused by the backend. -/
theorem lookup_creation_failed {D : List Handle} (hl : w.Ledger D) (hp : w.pool? i = some p)
    {t : Target} {pr : Principal} {u : Nat} {k : CacheKey} {c : TokenSet}
    (hk : CacheKey.derive t pr u = .ok k) (hc : credentialTokens pr = .ok c) {d r : String}
    (hf : (w.lookup i p t pr u).1 = .error (.backendCreateFailed d r)) :
    d = t.display ∧ w.backend.openOn t w.config.backend = .error r ∧
      CreationFailed i k c p w (w.lookup i p t pr u).2 := by
  by_cases hopen : ∃ e ∈ p.entries, e.key = k ∧ ¬ w.backend.resources.Shut e.handle.serial
  · obtain ⟨e, he, hek, hop⟩ := hopen
    obtain ⟨r', hr, herr, hcf⟩ := lookup_rotation_failed hl hp hk hc he hek hop hf
    cases herr
    exact ⟨rfl, hr, hcf⟩
  · have hno : ∀ e ∈ p.entries, e.key = k → w.backend.resources.Shut e.handle.serial :=
      fun e he hek => Classical.byContradiction fun hop => hopen ⟨e, he, hek, hop⟩
    obtain ⟨hr, hd, hcf⟩ := lookup_miss_failed hl hp hk hc hno hf
    exact ⟨hd, hr, hcf⟩

/-- Drawing the unique number first changes nothing that a failed creation is measured by. -/
theorem CreationFailed.of_draw {k : CacheKey} {c : TokenSet} (hp : w.pool? i = some p)
    {w' : World} (h : CreationFailed i k c p.drawUnique.2 (w.setPool i p.drawUnique.2) w') :
    CreationFailed i k c p w w' where
  pool := h.pool
  other j hj := (h.other j hj).trans (by rw [pool?_setPool w hp, if_neg hj])
  opened := h.opened
  nextId := h.nextId
  rotated := h.rotated
  missed := h.missed

/-- A session's lookup, shared or exclusive, that the backend refuses. -/
theorem lookupAs_creation_failed {D : List Handle} (hl : w.Ledger D) (hp : w.pool? i = some p)
    {t : Target} {pr : Principal} {ex : Bool} {name : Option String} {k : CacheKey} {c : TokenSet}
    (hk : CacheKey.derive t pr (if ex then p.nextUnique.toNat else 0) = .ok k)
    (hc : credentialTokens pr = .ok c) {d r : String}
    (hf : (w.lookupAs i p t pr ex name).1 = .failed (.backendCreateFailed d r)) :
    d = t.display ∧ w.backend.openOn t w.config.backend = .error r ∧
      CreationFailed i k c p w (w.lookupAs i p t pr ex name).2 := by
  cases ex with
  | true =>
    -- the lookup runs in the pool with its number drawn, which has the entries of `p`
    rw [lookupAs_true] at hf ⊢
    have hf' := answerLookup_failed.1 hf
    rw [answerLookup_of_error hf']
    have hl₁ := hl.setPool_entries (q := p.drawUnique.2) hp rfl
    have hp₁ : (w.setPool i p.drawUnique.2).pool? i = some p.drawUnique.2 := by
      rw [pool?_setPool w hp, if_pos rfl]
    obtain ⟨hd, hr, hcf⟩ := lookup_creation_failed hl₁ hp₁ hk hc hf'
    exact ⟨hd, hr, hcf.of_draw hp⟩
  | false =>
    rw [lookupAs_false] at hf ⊢
    have hf' := answerLookup_failed.1 hf
    rw [answerLookup_of_error hf']
    exact lookup_creation_failed hl hp hk hc hf'


/-! ## Failures before the key -/

/-- A lookup whose principal has no key, or a key but no credentials, ends before it looks. -/
theorem lookup_unresolved {t : Target} {pr : Principal} {u : Nat} {e : Error}
    (hres : CacheKey.derive t pr u = .error e ∨
      (∃ k, CacheKey.derive t pr u = .ok k) ∧ credentialTokens pr = .error e) :
    w.lookup i p t pr u = (.error e, w) := by
  rcases hres with hk | ⟨⟨k, hk⟩, hc⟩
  · simp only [lookup, hk]
  · simp only [lookup, hk, hc]

theorem lookupAs_unresolved {t : Target} {pr : Principal} {ex : Bool} {name : Option String}
    {e : Error} (hres : CacheKey.derive t pr (if ex then p.nextUnique.toNat else 0) = .error e ∨
      (∃ k, CacheKey.derive t pr (if ex then p.nextUnique.toNat else 0) = .ok k) ∧
        credentialTokens pr = .error e) :
    w.lookupAs i p t pr ex name = (.failed e, if ex then w.setPool i p.drawUnique.2 else w) := by
  cases ex with
  | true =>
    rw [if_pos rfl] at hres
    simp only [lookupAs_true, answerLookup, lookup_unresolved hres, if_true]
  | false =>
    rw [if_neg Bool.false_ne_true] at hres
    simp only [lookupAs_false, answerLookup, lookup_unresolved hres, Bool.false_eq_true, if_false]

/-! ## Failed lookups in a session -/

/-- **Failed lookups.** In every reachable world:

* a lookup as the current user in a pool without an identity source, or whose source names no
  principal, changes nothing;
* a lookup whose principal has no key, or a key but no credentials, changes nothing but the
  unique number that an exclusive lookup draws; these errors, like those of an identity source,
  are configuration errors or unsupported authentication methods;
* a lookup that the backend refuses fails with the target's display and the backend's reason,
  and leaves what `CreationFailed` says: no entry under its key, no new entry, resource or
  registration, one more creation failure, the other pools as they were, and the resource of the
  open entry it rotated out, if there was one, handed to the grace queue, whose back it joins
  while the queue runs. Every entry standing at another key still stands. -/
theorem failed_lookup_residue {w : World} (hw : w.Reachable) :
    (∀ i p uri t ex name, w.pool? i = some p → Target.parse uri = .ok t → p.identity = none →
      w.act (.getCurrent i uri ex name) = (.failed noIdentitySource, w)) ∧
    (∀ i p uri t ex name src e, w.pool? i = some p → Target.parse uri = .ok t →
      p.identity = some src → src.current w.scope = .error e →
      e.OfPrincipal ∧ w.act (.getCurrent i uri ex name) = (.failed e, w)) ∧
    (∀ s i p t pr ex name e, w.pool? i = some p → w.Asks s i t pr ex name →
      (CacheKey.derive t pr (if ex then p.nextUnique.toNat else 0) = .error e ∨
        (∃ k, CacheKey.derive t pr (if ex then p.nextUnique.toNat else 0) = .ok k) ∧
          credentialTokens pr = .error e) →
      e.OfPrincipal ∧ w.act s = (.failed e, if ex then w.setPool i p.drawUnique.2 else w)) ∧
    (∀ s i p t pr ex name k c d r, w.pool? i = some p → w.Asks s i t pr ex name →
      CacheKey.derive t pr (if ex then p.nextUnique.toNat else 0) = .ok k →
      credentialTokens pr = .ok c → (w.act s).1 = .failed (.backendCreateFailed d r) →
      d = t.display ∧ w.backend.openOn t w.config.backend = .error r ∧
        CreationFailed i k c p w (w.act s).2 ∧
        (∀ e, w.Stands i e → e.key ≠ k → (w.act s).2.Stands i e) ∧
        ∀ e ∈ p.entries, e.key = k → ¬ w.backend.resources.Shut e.handle.serial →
          w.grace.stopped = false →
          (w.act s).2.grace.queue = w.grace.queue ++ [⟨e.handle.serial, w.clock.elapsed⟩]) := by
  have hl := ledger_of_reachable hw
  refine ⟨fun i p uri t ex name hp ht hid => ?_, fun i p uri t ex name src e hp ht hid hsrc => ?_,
    fun s i p t pr ex name e hp ha hres => ?_, fun s i p t pr ex name k c d r hp ha hk hc hf => ?_⟩
  · simp only [act, onPool, hp, ht, hid]
  · exact ⟨IdentitySource.current_error hsrc, by simp only [act, onPool, hp, ht, hid, hsrc]⟩
  · refine ⟨?_, (act_of_asks hp ha).trans (lookupAs_unresolved hres)⟩
    rcases hres with hk | ⟨-, hc⟩
    · exact CacheKey.derive_error hk
    · exact credentialTokens_error hc
  · rw [act_of_asks hp ha] at hf ⊢
    obtain ⟨hd, hr, hcf⟩ := lookupAs_creation_failed hl hp hk hc hf
    refine ⟨hd, hr, hcf, fun e hs hne => ?_, fun e he hek hopen hrun => ?_⟩
    · -- the lookup's key is not the entry's, so the lookup cannot rotate the entry out
      exact hs.lookupAs hl hp t pr ex name fun _ c' hk' _ _ =>
        absurd (Except.ok.inj (hk.symm.trans hk')).symm hne
    · obtain ⟨-, -, hgr⟩ := hcf.rotated e he hek hopen
      rw [hgr]
      exact GraceQueue.queue_enqueue Backend.close _ _ w.grace w.backend hrun

/-- Failed lookups after a first lookup. -/
theorem failed_lookup_residue_after_get :
    ((World.create {} .manual none).act
      (.get 0 "hdfs://nn1" (.direct "a" .simple .empty) false none)).2.Reachable ∧
    let w := ((World.create {} .manual none).act
      (.get 0 "hdfs://nn1" (.direct "a" .simple .empty) false none)).2
    (∀ i p uri t ex name, w.pool? i = some p → Target.parse uri = .ok t → p.identity = none →
      w.act (.getCurrent i uri ex name) = (.failed noIdentitySource, w)) ∧
    (∀ i p uri t ex name src e, w.pool? i = some p → Target.parse uri = .ok t →
      p.identity = some src → src.current w.scope = .error e →
      e.OfPrincipal ∧ w.act (.getCurrent i uri ex name) = (.failed e, w)) ∧
    (∀ s i p t pr ex name e, w.pool? i = some p → w.Asks s i t pr ex name →
      (CacheKey.derive t pr (if ex then p.nextUnique.toNat else 0) = .error e ∨
        (∃ k, CacheKey.derive t pr (if ex then p.nextUnique.toNat else 0) = .ok k) ∧
          credentialTokens pr = .error e) →
      e.OfPrincipal ∧ w.act s = (.failed e, if ex then w.setPool i p.drawUnique.2 else w)) ∧
    (∀ s i p t pr ex name k c d r, w.pool? i = some p → w.Asks s i t pr ex name →
      CacheKey.derive t pr (if ex then p.nextUnique.toNat else 0) = .ok k →
      credentialTokens pr = .ok c → (w.act s).1 = .failed (.backendCreateFailed d r) →
      d = t.display ∧ w.backend.openOn t w.config.backend = .error r ∧
        CreationFailed i k c p w (w.act s).2 ∧
        (∀ e, w.Stands i e → e.key ≠ k → (w.act s).2.Stands i e) ∧
        ∀ e ∈ p.entries, e.key = k → ¬ w.backend.resources.Shut e.handle.serial →
          w.grace.stopped = false →
          (w.act s).2.grace.queue = w.grace.queue ++ [⟨e.handle.serial, w.clock.elapsed⟩]) := by
  have hw := (Reachable.create {} .manual none .switched).act
    (.get 0 "hdfs://nn1" (.direct "a" .simple .empty) false none)
  exact ⟨hw, failed_lookup_residue hw⟩

/-- After the grace queue has shut down, a rotation whose new resource the backend refuses does
not leave the rotated-out resource waiting: the queue stays empty, and the resource is closed at
once. -/
theorem failed_rotation_after_shutdown_skips_queue :
    let t : Target :=
      ⟨{ scheme := "hdfs", host := some (.domain "nn"), path := .segments [] }, "hdfs", "nn"⟩
    let k : CacheKey := ⟨"hdfs", "nn", 0, ⟨"hive", none⟩⟩
    let p : Pool :=
      { identity := none, entries := [⟨k, ⟨1, 1⟩, .single ⟨"tgt", [97]⟩⟩],
        counters := { misses := 1, creations := 1 } }
    let w := ((((World.create {} .manual none).lookupAs 0 { identity := none } t
      (.direct "hive" .kerberos (.single ⟨"tgt", [97]⟩)) false none).2.act .shutdown).2.act
        (.setSwitches (some true) none)).2
    let l := w.lookupAs 0 p t (.direct "hive" .kerberos (.single ⟨"tgt", [98]⟩)) false none
    w.pool? 0 = some p ∧ w.grace.stopped = true ∧ w.backend.resources.isClosed 1 = false ∧
      CacheKey.derive t (.direct "hive" .kerberos (.single ⟨"tgt", [98]⟩)) 0 = .ok k ∧
      l.1 = .failed (.backendCreateFailed t.display "connection refused by nn") ∧
      (l.2.pool? 0).map (·.counters.rotations) = some 1 ∧
      l.2.grace.queue = [] ∧ l.2.backend.resources.isClosed 1 = true :=
  ⟨rfl, rfl, rfl, rfl, rfl, rfl, rfl, rfl⟩

end World

end HandlePool
