import HandlePool.Proofs.FailedLookup
/-!
# The three cases of a lookup

A lookup whose principal has a key `k` and credentials `c` does one of three things, decided by
what its pool holds under `k` when it starts:

* an open entry opened with credentials the lookup accepts (any credentials, on a scheme that
  does not bind handles to them) is a hit: its handle is answered, one hit is counted, and
  nothing else changes;
* an open entry opened with other credentials, on a scheme that binds handles to them, is
  rotated out: the entry leaves the pool, its resource is handed to the grace queue, no capacity
  check is made, and a replacement is opened under `k`;
* otherwise an entry under `k` on a closed resource is discarded, the capacity rule applies, and
  a new handle is opened under `k`.

Opening (`Opened`) asks the backend for exactly one resource, registers the new handle with the
orphan tracker and stores it under `k` with credentials `c`. In every case a handle that the
lookup answers is open and is the one its pool holds under `k` afterwards.

Handing a resource to the grace queue closes it only once the queue has shut down. While the
queue and the tracker run, a rotated-out resource waits at the back of the queue and stays open;
after shutdown it is closed at once (`rotation_after_shutdown_closes_at_once`).

* `lookup_rotation`, `lookup_miss`: the last two cases, whatever the backend answers.
* `shared_lookup_hits_rotates_or_opens`: the three cases of a shared lookup in a reachable world.
-/

namespace HandlePool

theorem Resources.isClosed_append_of_ne (rs : Resources) {r : Resource} {n : Nat}
    (h : r.serial ≠ n) : isClosed (rs ++ [r]) n = rs.isClosed n := by
  unfold isClosed find?
  rw [List.find?_append]
  cases List.find? (·.serial == n) rs with
  | some r' => rfl
  | none => simp [h]

namespace Pool

@[simp] theorem find?_count (p : Pool) (f : Recorder → Recorder) (k : CacheKey) :
    (p.count f).find? k = p.find? k := rfl

/-- An entry added under a key the pool holds nothing under is the one found under it. -/
theorem find?_insert_of_none {p : Pool} {k : CacheKey} (h : p.find? k = none) {e : Entry}
    (he : e.key = k) : (p.insert e).find? k = some e := by
  show (p.entries ++ [e]).find? (·.key == k) = some e
  rw [List.find?_append, show p.entries.find? (·.key == k) = none from h]
  simp [he]

/-- A pool whose entries are those of `q`, which holds nothing under `k`, followed by at most
one entry under `k`, holds that entry under `k`. -/
theorem find?_of_entries {q q' : Pool} {k : CacheKey} (hq : q.find? k = none) {c : TokenSet}
    {o : Option Handle} (h : q'.entries = q.entries ++ (o.map (⟨k, ·, c⟩)).toList) :
    q'.find? k = o.map (⟨k, ·, c⟩) := by
  show q'.entries.find? (·.key == k) = _
  rw [h, List.find?_append, show q.entries.find? (·.key == k) = none from hq, Option.none_or]
  cases o <;> simp

end Pool

namespace World

variable {D : List Handle} {w : World} {i : Nat} {p : Pool}

/-! ## Opening -/

theorem openHandle_grace (i : Nat) (q : Pool) (key : CacheKey) (t : Target) (creds : TokenSet) :
    (w.openHandle i q key t creds).2.grace = w.grace := by
  unfold openHandle
  split
  · rfl
  · rfl

/-- Opening leaves every resource that was there before as it was. -/
theorem isClosed_openHandle (i : Nat) (q : Pool) (key : CacheKey) (t : Target) (creds : TokenSet)
    {n : Nat} (hn : n ≤ w.backend.resources.length) :
    (w.openHandle i q key t creds).2.backend.resources.isClosed n =
      w.backend.resources.isClosed n := by
  unfold openHandle
  split
  · rfl
  · rename_i r b hopen
    obtain ⟨hr, hb⟩ := Backend.openOn_ok hopen
    show b.resources.isClosed n = _
    rw [hb, Resources.isClosed_append_of_ne _ (by omega)]

/-- What a lookup that opened the handle `h` for key `k` and credentials `c` in pool `i` leaves,
measured from the world `w` it started in: the backend opened exactly one resource, `h`'s, and it
is open; `h` is registered with the orphan tracker under its next number; and pool `i` holds `h`
under `k` with credentials `c`. -/
structure Opened (i : Nat) (k : CacheKey) (c : TokenSet) (h : Handle) (w w' : World) : Prop where
  once : w'.backend.resources.length = w.backend.resources.length + 1
  serial : h.serial = w.backend.resources.length + 1
  isOpen : w'.backend.resources.isClosed h.serial = false
  registered : h.registration = w.orphans.nextId ∧ h.registration ∈ w'.orphans.registry ∧
    w'.orphans.nextId = w.orphans.nextId + 1
  stored : ∃ q, w'.pool? i = some q ∧ q.find? k = some ⟨k, h, c⟩

/-- A handle that opening answers is on the resource the backend opened, registered under the
tracker's next number, and its entry is added at the end of the pool. -/
theorem openHandle_eq_ok {q : Pool} {key : CacheKey} {t : Target} {c : TokenSet} {h : Handle}
    (ho : (w.openHandle i q key t c).1 = .ok h) :
    ∃ r b, w.backend.openOn t w.config.backend = .ok (r, b) ∧ h = ⟨r.serial, w.orphans.nextId⟩ ∧
      (w.openHandle i q key t c).2 = ({ w with backend := b, orphans := w.orphans.register.2 }).setPool
        i ((q.insert ⟨key, h, c⟩).count Recorder.creation) := by
  unfold openHandle at ho ⊢
  split at ho
  · cases ho
  · rename_i r b hopen
    simp only [Orphans.register] at ho ⊢
    cases ho
    exact ⟨r, b, hopen, rfl, rfl⟩

/-- Opening into a pool with nothing under `key`, in a world `v` with as many resources as `w`
and the same next registration number, does what `Opened` says. -/
theorem openHandle_opened {v : World} {q₀ q : Pool} (hnum : v.backend.resources.Numbered)
    (hp : v.pool? i = some q₀) {key : CacheKey} (hq : q.find? key = none)
    (hlen : v.backend.resources.length = w.backend.resources.length)
    (hnext : v.orphans.nextId = w.orphans.nextId) {t : Target} {c : TokenSet} {h : Handle}
    (ho : (v.openHandle i q key t c).1 = .ok h) : Opened i key c h w (v.openHandle i q key t c).2 := by
  have hst := openHandle_stands hnum hp ho
  have hpool := openHandle_pool hp ho
  obtain ⟨r, b, hopen, rfl, hres⟩ := openHandle_eq_ok ho
  obtain ⟨hr, hb⟩ := Backend.openOn_ok hopen
  refine ⟨?_, by rw [hr, hlen], Bool.eq_false_iff.2 fun hc => hst.2 (Resources.shut_of_isClosed hc),
    ⟨hnext, ?_, ?_⟩, ⟨_, hpool, by rw [Pool.find?_count, Pool.find?_insert_of_none hq rfl]⟩⟩
  all_goals rw [hres]
  · show b.resources.length = _
    rw [hb, List.length_append, hlen]
    rfl
  · show v.orphans.nextId ∈ v.orphans.registry.insert v.orphans.nextId
    exact List.mem_insert_self
  · show v.orphans.nextId + 1 = _
    rw [hnext]

/-- Opening adds the entry it opened at the end of the pool, or nothing if the backend
refused. -/
theorem openHandle_entries {v : World} {q₀ : Pool} (hp : v.pool? i = some q₀) (q : Pool)
    (key : CacheKey) (t : Target) (c : TokenSet) :
    ∃ q', (v.openHandle i q key t c).2.pool? i = some q' ∧
      q'.entries = q.entries ++ ((v.openHandle i q key t c).1.toOption.map (⟨key, ·, c⟩)).toList := by
  rcases ho : (v.openHandle i q key t c).1 with err | h
  · obtain ⟨-, -, -, hres⟩ := openHandle_error ho
    exact ⟨q.count Recorder.creationFailure, by rw [hres, pool?_setPool v hp, if_pos rfl],
      (List.append_nil _).symm⟩
  · exact ⟨_, openHandle_pool hp ho, rfl⟩

/-! ## Rotating an entry out -/

section Rotation

variable {t : Target} {pr : Principal} {u : Nat} {k : CacheKey} {c : TokenSet} {e : Entry}

/-- A lookup that finds an open entry under its key, opened with other credentials on a scheme
that binds handles to them, opens a replacement in the world where the entry was taken out of
the pool, its resource handed to the grace queue, and its handle let go. -/
theorem lookup_rotation_eq (hk : CacheKey.derive t pr u = .ok k)
    (hc : credentialTokens pr = .ok c) (hf : p.find? k = some e)
    (hopen : w.backend.resources.isClosed e.handle.serial = false)
    (hsens : w.config.isIdentitySensitive k.scheme = true) (hne : e.credentials ≠ c) :
    w.lookup i p t pr u =
      (((w.setPool i ((p.erase k).count Recorder.rotation)).evict e.handle.serial).letGo
        e.handle).openHandle i ((p.erase k).count Recorder.rotation) k t c := by
  have hdis : w.discardClosed i p k = (p, w) := by
    simp only [discardClosed, hf, hopen, Bool.false_eq_true, if_false]
  have hrot : (w.config.isIdentitySensitive k.scheme && e.credentials != c) = true := by
    simp [hsens, hne]
  simp only [World.lookup, hk, hc, hdis, hf, hrot, if_true]

/-- Handing a resource to a running grace queue and letting go of its handle while the tracker
runs close nothing. -/
theorem backend_evict_letGo (hg : w.grace.stopped = false) (ho : w.orphans.stopped = false)
    (n : Nat) (h : Handle) : ((w.evict n).letGo h).backend = w.backend := by
  have hev : (w.evict n).backend = w.backend := by
    simp [evict, withGrace, GraceQueue.enqueue, hg]
  have hev' : (w.evict n).orphans = w.orphans := (evict_parts w n).1
  unfold letGo
  split
  · exact hev
  · simp [withOrphans, Orphans.post, hev', ho, hev]

/-- **Rotation.** A lookup that finds an open entry `e` under its key `k`, opened with
credentials other than the lookup's `c` on a scheme that binds handles to them:

* is never refused for capacity;
* hands `e`'s resource to the grace queue, stamped with the clock's reading; while the queue and
  the tracker run, the resource joins the back of the queue and stays open;
* leaves in its pool the entries not under `k`, in order, followed by the replacement if the
  backend opened one, with `Opened` measured from the world it started in. -/
theorem lookup_rotation (hl : w.Ledger D) (hp : w.pool? i = some p)
    (hk : CacheKey.derive t pr u = .ok k) (hc : credentialTokens pr = .ok c)
    (hf : p.find? k = some e) (hopen : w.backend.resources.isClosed e.handle.serial = false)
    (hsens : w.config.isIdentitySensitive k.scheme = true) (hne : e.credentials ≠ c) :
    (∀ m, (w.lookup i p t pr u).1 ≠ .error (.cacheFull m)) ∧
    (w.lookup i p t pr u).2.grace =
      (GraceQueue.enqueue Backend.close e.handle.serial w.clock.elapsed (w.grace, w.backend)).1 ∧
    (w.grace.stopped = false → w.orphans.stopped = false →
      (w.lookup i p t pr u).2.grace.queue = w.grace.queue ++ [⟨e.handle.serial, w.clock.elapsed⟩] ∧
      (w.lookup i p t pr u).2.backend.resources.isClosed e.handle.serial = false) ∧
    (∃ q, (w.lookup i p t pr u).2.pool? i = some q ∧
      q.entries = (p.erase k).entries ++ ((w.lookup i p t pr u).1.toOption.map (⟨k, ·, c⟩)).toList) ∧
    ∀ h, (w.lookup i p t pr u).1 = .ok h → Opened i k c h w (w.lookup i p t pr u).2 := by
  obtain ⟨he, hek⟩ := Pool.find?_spec hf
  have hle : e.handle.serial ≤ w.backend.resources.length :=
    (hl.handle e.handle (Or.inr ⟨i, e, ⟨p, hp, he⟩, rfl⟩)).2.2
  rw [lookup_rotation_eq hk hc hf hopen hsens hne]
  -- the world in which the replacement is opened
  have hl₂ := hl.evictOut hp ((hl.takesOut_erase hp hf).count Recorder.rotation)
  have hro := rotatedOut_letGo hp ((p.erase k).count Recorder.rotation) e
  have hbk := fun hg ho => backend_evict_letGo (w := w.setPool i ((p.erase k).count Recorder.rotation))
    hg ho e.handle.serial e.handle
  have hnone : ((p.erase k).count Recorder.rotation).find? k = none := by
    rw [Pool.find?_count, Pool.find?_erase]
  generalize ((w.setPool i ((p.erase k).count Recorder.rotation)).evict e.handle.serial).letGo
    e.handle = v at hl₂ hro hbk
  have hp₂ := (hro.pool i).trans (if_pos rfl)
  refine ⟨fun m => openHandle_not_full i _ k t c m, by rw [openHandle_grace, hro.grace], ?_,
    openHandle_entries hp₂ _ k t c,
    fun h ho => openHandle_opened hl₂.numbered hp₂ hnone hro.length hro.nextId ho⟩
  intro hg ho
  refine ⟨by rw [openHandle_grace, hro.grace]; exact GraceQueue.queue_enqueue _ _ _ _ _ hg, ?_⟩
  -- neither the hand-over nor the let-go closed the resource, and opening adds a new one
  rw [isClosed_openHandle i _ k t c (hro.length ▸ hle), hbk hg ho]
  exact hopen

end Rotation

/-! ## Opening under a key without an open entry -/

section Miss

variable {t : Target} {pr : Principal} {u : Nat} {k : CacheKey} {c : TokenSet}

/-- A lookup at a key without an open entry first tidies its pool: it discards the entry under
the key and, if the pool is full, every entry on a closed resource. Then it is refused for
capacity, or it counts a miss and opens a new handle. -/
theorem lookup_miss_cases (hl : w.Ledger D) (hp : w.pool? i = some p)
    (hk : CacheKey.derive t pr u = .ok k) (hc : credentialTokens pr = .ok c)
    (hno : ∀ e ∈ p.entries, e.key = k → w.backend.resources.Shut e.handle.serial) :
    ∃ q v, Tidied i q w v ∧ q.find? k = none ∧
      (w.lookup i p t pr u =
          (.error (.cacheFull w.config.maxCacheSize), v.setPool i (q.count Recorder.capacityRejection)) ∨
        w.lookup i p t pr u = v.openHandle i (q.count Recorder.miss) k t c) := by
  obtain ⟨htd, hnone, -, -⟩ := discardClosed_tidied hl hp hno
  simp only [World.lookup, hk, hc]
  generalize w.discardClosed i p k = d at htd hnone
  obtain ⟨p₁, w₁⟩ := d
  dsimp only at htd hnone ⊢
  rw [hnone]
  dsimp only
  have hp₁ : w₁.pool? i = some p₁ := by rw [htd.pool i, if_pos rfl]
  -- a full pool is purged first, which keeps only open entries
  have hpu : Tidied i (if w₁.config.maxCacheSize ≤ p₁.size then w₁.purge i p₁ else (p₁, w₁)).1 w
        (if w₁.config.maxCacheSize ≤ p₁.size then w₁.purge i p₁ else (p₁, w₁)).2 ∧
      (if w₁.config.maxCacheSize ≤ p₁.size then w₁.purge i p₁ else (p₁, w₁)).1.find? k = none := by
    split
    · obtain ⟨htd₂, hshape₂⟩ := purge_tidied hp₁
      refine ⟨htd.trans htd₂, Pool.find?_none_of_sublist ?_ hnone⟩
      rw [hshape₂]
      exact List.filter_sublist
    · exact ⟨htd, hnone⟩
  generalize (if w₁.config.maxCacheSize ≤ p₁.size then w₁.purge i p₁ else (p₁, w₁)) = d at hpu ⊢
  obtain ⟨p₂, w₂⟩ := d
  obtain ⟨htd₂, hnone₂⟩ := hpu
  dsimp only at htd₂ hnone₂ ⊢
  refine ⟨p₂, w₂, htd₂, hnone₂, ?_⟩
  split
  · exact Or.inl (by rw [htd₂.config])
  · exact Or.inr rfl

/-- **Opening under a key without an open entry.** A lookup at a key under which its pool holds
only entries on closed resources, if any:

* leaves the grace queue alone;
* is refused for capacity exactly when the open entries fill the pool;
* leaves under the key only the entry it opened, if it opened one, with `Opened` measured from
  the world it started in. -/
theorem lookup_miss (hl : w.Ledger D) (hp : w.pool? i = some p)
    (hk : CacheKey.derive t pr u = .ok k) (hc : credentialTokens pr = .ok c)
    (hno : ∀ e ∈ p.entries, e.key = k → w.backend.resources.Shut e.handle.serial) :
    (w.lookup i p t pr u).2.grace = w.grace ∧
    ((∃ m, (w.lookup i p t pr u).1 = .error (.cacheFull m)) ↔
      w.config.maxCacheSize ≤ (w.openEntries p).length) ∧
    (∃ q, (w.lookup i p t pr u).2.pool? i = some q ∧
      q.find? k = (w.lookup i p t pr u).1.toOption.map (⟨k, ·, c⟩)) ∧
    ∀ h, (w.lookup i p t pr u).1 = .ok h → Opened i k c h w (w.lookup i p t pr u).2 := by
  have hcap := (lookup_refusal hl hp hk hc hno).1
  obtain ⟨q, v, htd, hnone, hres | hres⟩ := lookup_miss_cases hl hp hk hc hno
  all_goals
    have hpv : v.pool? i = some q := by rw [htd.pool i, if_pos rfl]
    rw [hres] at hcap ⊢
  · -- refused: only the pool changed
    refine ⟨htd.grace, hcap, ⟨q.count Recorder.capacityRejection, ?_, hnone⟩, fun h hh => ?_⟩
    · rw [pool?_setPool v hpv, if_pos rfl]
    · cases hh
  · refine ⟨(openHandle_grace i _ k t c).trans htd.grace, hcap, ?_, fun h ho => ?_⟩
    · obtain ⟨q', hq', hen⟩ := openHandle_entries hpv (q.count Recorder.miss) k t c
      exact ⟨q', hq', Pool.find?_of_entries hnone hen⟩
    · exact openHandle_opened (q := q.count Recorder.miss) (htd.resources ▸ hl.numbered) hpv hnone
        (by rw [htd.resources]) htd.nextId ho

end Miss

/-- A handle that a lookup answers is open, and is the handle of the entry its pool holds under
the lookup's key. -/
theorem lookup_ok_stored (hl : w.Ledger D) (hp : w.pool? i = some p) {t : Target}
    {pr : Principal} {u : Nat} {k : CacheKey} {c : TokenSet} (hk : CacheKey.derive t pr u = .ok k)
    (hc : credentialTokens pr = .ok c) {h : Handle} (ho : (w.lookup i p t pr u).1 = .ok h) :
    (w.lookup i p t pr u).2.backend.resources.isClosed h.serial = false ∧
      ∃ q e, (w.lookup i p t pr u).2.pool? i = some q ∧ q.find? k = some e ∧ e.handle = h := by
  obtain ⟨hl', hholds⟩ := ledger_lookup hl hp t pr u
  obtain ⟨e, ⟨⟨q, hq, he⟩, hsh⟩, rfl, hser, -⟩ := lookup_serves hl hp hk hc ho
  -- held handles are registered under their serial, so the entry's handle is the answer
  have heh : e.handle = h := by
    have h₁ := (hl'.handle h (hholds h ho)).1
    have h₂ := (hl'.handle e.handle (Or.inr ⟨i, e, ⟨q, hq, he⟩, rfl⟩)).1
    cases hh : e.handle
    cases h
    simp_all
  refine ⟨?_, q, e, hq, Pool.find?_of_mem (hl'.keys i q hq) he, heh⟩
  rw [← hser]
  exact Bool.eq_false_iff.2 fun hcl => hsh (Resources.shut_of_isClosed hcl)

/-! ## A shared lookup -/

/-- **A shared lookup, case by case.** In a reachable world, a shared lookup in a live pool `i`
(state `p`) by a principal with key `k` and credentials `c`:

* finding an open entry `e` under `k`, on a scheme that does not bind handles to credentials or
  with credentials `c`, answers `e`'s handle and changes nothing but one more hit;
* finding an open entry `e` under `k` with other credentials, on a scheme that binds handles to
  them, does what `lookup_rotation` says: no capacity check, `e`'s resource handed to the grace
  queue (at its back and still open while the queue and the tracker run), the other entries
  kept and a replacement added if the backend opens one;
* otherwise does what `lookup_miss` says: the grace queue untouched, a refusal exactly when the
  open entries fill the pool, and under `k` only the entry it opened, if any;

and every handle it answers is open and is the one its pool holds under `k` afterwards. -/
theorem shared_lookup_hits_rotates_or_opens {w : World} (hw : w.Reachable) {i : Nat} {p : Pool}
    (hp : w.pool? i = some p) {t : Target} {pr : Principal} {k : CacheKey} {c : TokenSet}
    (hk : CacheKey.derive t pr 0 = .ok k) (hc : credentialTokens pr = .ok c) :
    (∀ e, p.find? k = some e → w.backend.resources.isClosed e.handle.serial = false →
      (w.config.isIdentitySensitive k.scheme = false ∨ e.credentials = c) →
      w.lookup i p t pr 0 = (.ok e.handle, w.setPool i (p.count Recorder.hit))) ∧
    (∀ e, p.find? k = some e → w.backend.resources.isClosed e.handle.serial = false →
      w.config.isIdentitySensitive k.scheme = true → e.credentials ≠ c →
      (∀ m, (w.lookup i p t pr 0).1 ≠ .error (.cacheFull m)) ∧
      (w.lookup i p t pr 0).2.grace =
        (GraceQueue.enqueue Backend.close e.handle.serial w.clock.elapsed (w.grace, w.backend)).1 ∧
      (w.grace.stopped = false → w.orphans.stopped = false →
        (w.lookup i p t pr 0).2.grace.queue = w.grace.queue ++ [⟨e.handle.serial, w.clock.elapsed⟩] ∧
        (w.lookup i p t pr 0).2.backend.resources.isClosed e.handle.serial = false) ∧
      (∃ q, (w.lookup i p t pr 0).2.pool? i = some q ∧
        q.entries = (p.erase k).entries ++ ((w.lookup i p t pr 0).1.toOption.map (⟨k, ·, c⟩)).toList) ∧
      ∀ h, (w.lookup i p t pr 0).1 = .ok h → Opened i k c h w (w.lookup i p t pr 0).2) ∧
    ((∀ e, p.find? k = some e → w.backend.resources.isClosed e.handle.serial = true) →
      (w.lookup i p t pr 0).2.grace = w.grace ∧
      ((∃ m, (w.lookup i p t pr 0).1 = .error (.cacheFull m)) ↔
        w.config.maxCacheSize ≤ (w.openEntries p).length) ∧
      (∃ q, (w.lookup i p t pr 0).2.pool? i = some q ∧
        q.find? k = (w.lookup i p t pr 0).1.toOption.map (⟨k, ·, c⟩)) ∧
      ∀ h, (w.lookup i p t pr 0).1 = .ok h → Opened i k c h w (w.lookup i p t pr 0).2) ∧
    ∀ h, (w.lookup i p t pr 0).1 = .ok h →
      (w.lookup i p t pr 0).2.backend.resources.isClosed h.serial = false ∧
      ∃ q e, (w.lookup i p t pr 0).2.pool? i = some q ∧ q.find? k = some e ∧ e.handle = h := by
  have hl := ledger_of_reachable hw
  refine ⟨fun e hf hopen hacc => ?_, fun e hf hopen hsens hne => lookup_rotation hl hp hk hc hf hopen
    hsens hne, fun hcl => lookup_miss hl hp hk hc fun e he hek => ?_,
    fun h ho => lookup_ok_stored hl hp hk hc ho⟩
  · -- a hit: the entry stands, and the lookup's credentials are those it was opened with
    obtain ⟨he, rfl⟩ := Pool.find?_spec hf
    refine lookup_hit hl ⟨⟨p, hp, he⟩, fun hsh => ?_⟩ hp hk hc fun hsens => ?_
    · rw [Resources.isClosed_of_shut hl.numbered hsh] at hopen
      cases hopen
    · rcases hacc with hns | hcc
      · rw [hns] at hsens
        cases hsens
      · exact hcc.symm
  · -- the only entry under the key is the one found, on a closed resource
    have hf : p.find? k = some e := hek ▸ Pool.find?_of_mem (hl.keys i p hp) he
    exact Resources.shut_of_isClosed (hcl e hf)

/-- Three shared lookups under one key: the first, in a new world, opens resource 1; a second with
the same credentials hits it; one with other credentials rotates it out to the grace queue, still
open, and opens resource 2 in its place. -/
theorem shared_lookup_hits_rotates_or_opens_three_ways :
    let t : Target :=
      ⟨{ scheme := "hdfs", host := some (.domain "nn"), path := .segments [] }, "hdfs", "nn"⟩
    let k : CacheKey := ⟨"hdfs", "nn", 0, ⟨"hive", none⟩⟩
    let pr : Principal := .direct "hive" .kerberos (.single ⟨"tgt", [97]⟩)
    let pr' : Principal := .direct "hive" .kerberos (.single ⟨"tgt", [98]⟩)
    let w := World.create {} .manual none
    let w₁ := (w.act (.get 0 "hdfs://nn" pr false none)).2
    let p₁ : Pool :=
      { identity := none, entries := [⟨k, ⟨1, 1⟩, .single ⟨"tgt", [97]⟩⟩],
        counters := { misses := 1, creations := 1 } }
    (w.lookup 0 {} t pr 0).1 = .ok ⟨1, 1⟩ ∧
      Opened 0 k (.single ⟨"tgt", [97]⟩) ⟨1, 1⟩ w (w.lookup 0 {} t pr 0).2 ∧
    w₁.pool? 0 = some p₁ ∧
      w₁.lookup 0 p₁ t pr 0 = (.ok ⟨1, 1⟩, w₁.setPool 0 (p₁.count Recorder.hit)) ∧
    (w₁.lookup 0 p₁ t pr' 0).2.grace.queue = [⟨1, 0⟩] ∧
      (w₁.lookup 0 p₁ t pr' 0).2.backend.resources.isClosed 1 = false ∧
      (w₁.lookup 0 p₁ t pr' 0).1 = .ok ⟨2, 2⟩ ∧
      Opened 0 k (.single ⟨"tgt", [98]⟩) ⟨2, 2⟩ w₁ (w₁.lookup 0 p₁ t pr' 0).2 := by
  intro t k pr pr' w w₁ p₁
  have hw : w.Reachable := .create {} .manual none .switched
  have hw₁ : w₁.Reachable := hw.act _
  have hp : w.pool? 0 = some {} := rfl
  have hp₁ : w₁.pool? 0 = some p₁ := by decide +kernel
  have hk : CacheKey.derive t pr 0 = .ok k := rfl
  have hk' : CacheKey.derive t pr' 0 = .ok k := rfl
  have hc : credentialTokens pr = .ok (.single ⟨"tgt", [97]⟩) := rfl
  have hc' : credentialTokens pr' = .ok (.single ⟨"tgt", [98]⟩) := rfl
  have hf : p₁.find? k = some ⟨k, ⟨1, 1⟩, .single ⟨"tgt", [97]⟩⟩ := rfl
  have hopen : w₁.backend.resources.isClosed 1 = false := by decide +kernel
  have hok : (w.lookup 0 {} t pr 0).1 = .ok ⟨1, 1⟩ := rfl
  have hok' : (w₁.lookup 0 p₁ t pr' 0).1 = .ok ⟨2, 2⟩ := by decide +kernel
  -- the first lookup misses, the second hits, the third rotates
  have hfirst := shared_lookup_hits_rotates_or_opens hw hp hk hc
  have hsecond := shared_lookup_hits_rotates_or_opens hw₁ hp₁ hk hc
  have hrot := (shared_lookup_hits_rotates_or_opens hw₁ hp₁ hk' hc').2.1 _ hf hopen
    (by decide +kernel) (by decide)
  obtain ⟨hq, hstill⟩ := hrot.2.2.1 rfl rfl
  refine ⟨hok, (hfirst.2.2.1 fun e he => nomatch he).2.2.2 _ hok, hp₁,
    hsecond.1 _ hf hopen (Or.inr rfl), ?_, hstill, hok', hrot.2.2.2.2 _ hok'⟩
  rw [hq]
  rfl

/-- After shutdown, a rotation closes the rotated-out resource at once: the lookup answers a new
handle, while the grace queue stays empty and the old resource is closed. -/
theorem rotation_after_shutdown_closes_at_once :
    let t : Target :=
      ⟨{ scheme := "hdfs", host := some (.domain "nn"), path := .segments [] }, "hdfs", "nn"⟩
    let k : CacheKey := ⟨"hdfs", "nn", 0, ⟨"hive", none⟩⟩
    let p : Pool :=
      { identity := none, entries := [⟨k, ⟨1, 1⟩, .single ⟨"tgt", [97]⟩⟩],
        counters := { misses := 1, creations := 1 } }
    let w := (((World.create {} .manual none).lookupAs 0 { identity := none } t
      (.direct "hive" .kerberos (.single ⟨"tgt", [97]⟩)) false none).2.act .shutdown).2
    let l := w.lookup 0 p t (.direct "hive" .kerberos (.single ⟨"tgt", [98]⟩)) 0
    w.pool? 0 = some p ∧ w.grace.stopped = true ∧ w.backend.resources.isClosed 1 = false ∧
      w.config.isIdentitySensitive k.scheme = true ∧
      CacheKey.derive t (.direct "hive" .kerberos (.single ⟨"tgt", [98]⟩)) 0 = .ok k ∧
      l.1 = .ok ⟨2, 2⟩ ∧ l.2.grace.queue = [] ∧ l.2.backend.resources.isClosed 1 = true :=
  ⟨rfl, rfl, rfl, rfl, rfl, rfl, rfl, rfl⟩

end World

end HandlePool
