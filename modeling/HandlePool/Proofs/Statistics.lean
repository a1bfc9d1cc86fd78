import HandlePool.Proofs.FailedLookup
/-!
# Statistics that balance

Each pool keeps statistics: hits, misses, creations, creation failures, rotations, evictions and
refusals for capacity. They are bumped at scattered places of a lookup, a remove and a close, on
success and on failure alike; here they are checked against a tally of what the pool was asked
and what it answered (`Tally`), kept beside a run (`Tallied`).

* `lookup_counted`: a lookup whose principal has a key and credentials is a hit, a refusal for
  capacity, or a miss or a rotation followed by an opening that registers its handle or fails
  (`Counted`); `remove_counted` and `close_counted` count an eviction exactly when an entry was
  taken out.
* `counters_act`: every other step leaves the pool's statistics, or adds the pool with nothing
  counted; `length_act`: no step takes a pool out of the list, so a pool is added only once.
* `statistics_balance`: every run of a new world is tallied, and along it the statistics of each
  live pool agree with the tally (`Balanced`).
-/

namespace HandlePool

/-! ## Tallies -/

/-- What one pool has been asked and has answered since it was added, step by step. -/
structure Tally where
  /-- Lookups whose principal had a key and credentials. -/
  lookups : Nat := 0
  /-- Handles the pool registered with the tracker. -/
  registrations : Nat := 0
  /-- Removes that answered true. -/
  removals : Nat := 0
  /-- Closes that found an entry on the handle's resource. -/
  closings : Nat := 0
deriving DecidableEq, Repr

namespace Tally

/-- One more lookup with a key and credentials, which registered `n` handles. -/
def look (T : Tally) (n : Nat) : Tally :=
  { T with lookups := T.lookups + 1, registrations := T.registrations + n }

/-- One more remove, which answered `found`. -/
def remove (T : Tally) (found : Bool) : Tally := { T with removals := T.removals + found.toNat }

/-- One more close, which found an entry or not. -/
def close (T : Tally) (found : Bool) : Tally := { T with closings := T.closings + found.toNat }

end Tally

/-- The statistics of a pool agree with its tally, in the 64-bit words the counters are, that
is modulo `2 ^ 64`: every miss and every rotation went on to an opening that succeeded or failed;
every lookup with a key and credentials is a hit, a miss, a rotation or a refusal for capacity;
every creation registered a handle; and every eviction is a rotation, a remove that answered true
or a close that found an entry. -/
structure Balanced (c : Recorder) (T : Tally) : Prop where
  opened : c.misses + c.rotations = c.creations + c.creationFailures
  looked : c.hits + c.misses + c.rotations + c.capacityRejections = UInt64.ofNat T.lookups
  registered : c.creations = UInt64.ofNat T.registrations
  evicted : c.evictions = c.rotations + UInt64.ofNat T.removals + UInt64.ofNat T.closings

/-- How one lookup with a key and credentials moves its pool's counters from `c`, and how many
handles it registers: a hit; a refusal for capacity; or a miss or a rotation, followed by an
opening that registers its handle or fails. -/
inductive Counted (c : Recorder) : Recorder → Nat → Prop
  | hit : Counted c c.hit 0
  | refused : Counted c c.capacityRejection 0
  | created {c₁ : Recorder} : c₁ = c.miss ∨ c₁ = c.rotation → Counted c c₁.creation 1
  | failed {c₁ : Recorder} : c₁ = c.miss ∨ c₁ = c.rotation → Counted c c₁.creationFailure 0

theorem balanced_zero : Balanced {} {} := ⟨rfl, rfl, rfl, rfl⟩

theorem Counted.le_one {c c' : Recorder} {n : Nat} (h : Counted c c' n) : n ≤ 1 := by
  cases h <;> decide

/-- A miss or a rotation followed by an opening, whichever way the opening went. -/
theorem Counted.of_opened {c c₁ c₂ : Recorder} {n : Nat} (h₁ : c₁ = c.miss ∨ c₁ = c.rotation)
    (h₂ : c₂ = c₁.creation ∧ n = 1 ∨ c₂ = c₁.creationFailure ∧ n = 0) : Counted c c₂ n := by
  rcases h₂ with ⟨rfl, rfl⟩ | ⟨rfl, rfl⟩
  · exact .created h₁
  · exact .failed h₁

theorem Balanced.counted {c c' : Recorder} {T : Tally} {n : Nat} (hb : Balanced c T)
    (h : Counted c c' n) : Balanced c' (T.look n) := by
  obtain ⟨ho, hlk, hr, he⟩ := hb
  -- each outcome adds one to exactly one of the four kinds of lookup, and a miss or a rotation
  -- is matched by one creation or one failure
  cases h with
  | hit =>
    refine ⟨?_, ?_, ?_, ?_⟩ <;> simp only [Recorder.hit, Tally.look, UInt64.ofNat_add] <;> grind
  | refused =>
    refine ⟨?_, ?_, ?_, ?_⟩ <;>
      simp only [Recorder.capacityRejection, Tally.look, UInt64.ofNat_add] <;> grind
  | created h₁ =>
    rcases h₁ with rfl | rfl <;> refine ⟨?_, ?_, ?_, ?_⟩ <;>
      simp only [Recorder.creation, Recorder.miss, Recorder.rotation, Tally.look,
        UInt64.ofNat_add] <;> grind
  | failed h₁ =>
    rcases h₁ with rfl | rfl <;> refine ⟨?_, ?_, ?_, ?_⟩ <;>
      simp only [Recorder.creationFailure, Recorder.miss, Recorder.rotation, Tally.look,
        UInt64.ofNat_add] <;> grind

theorem Balanced.remove {c : Recorder} {T : Tally} (hb : Balanced c T) (found : Bool) :
    Balanced (if found then c.eviction else c) (T.remove found) := by
  obtain ⟨ho, hlk, hr, he⟩ := hb
  cases found with
  | true =>
    refine ⟨ho, hlk, hr, ?_⟩
    simp only [if_true, Recorder.eviction, Tally.remove, Bool.toNat_true, UInt64.ofNat_add]
    grind
  | false => exact ⟨ho, hlk, hr, by simpa only [Bool.false_eq_true, if_false, Tally.remove,
      Bool.toNat_false, Nat.add_zero] using he⟩

theorem Balanced.close {c : Recorder} {T : Tally} (hb : Balanced c T) (found : Bool) :
    Balanced (if found then c.eviction else c) (T.close found) := by
  obtain ⟨ho, hlk, hr, he⟩ := hb
  cases found with
  | true =>
    refine ⟨ho, hlk, hr, ?_⟩
    simp only [if_true, Recorder.eviction, Tally.close, Bool.toNat_true, UInt64.ofNat_add]
    grind
  | false => exact ⟨ho, hlk, hr, by simpa only [Bool.false_eq_true, if_false, Tally.close,
      Bool.toNat_false, Nat.add_zero] using he⟩

namespace Pool

theorem take_counters {p : Pool} {s : Nat} {e : Entry} {p' : Pool} (h : p.take s = (some e, p')) :
    p'.counters = p.counters := by
  unfold take at h
  split at h
  · cases h
    rfl
  · cases h

end Pool

namespace World

variable {w : World} {i : Nat} {p : Pool}

/-! ## The list of pools only grows -/

theorem lt_length_of_pool? (hp : w.pool? i = some p) : i < w.pools.length := by
  unfold pool? at hp
  cases h : w.pools[i]? with
  | none => rw [h] at hp; cases hp
  | some _ => exact (List.getElem?_eq_some_iff.1 h).1

theorem length_setPool (i : Nat) (q : Pool) : (w.setPool i q).pools.length = w.pools.length :=
  List.length_set

theorem length_openHandle (i : Nat) (q : Pool) (key : CacheKey) (t : Target) (creds : TokenSet) :
    (w.openHandle i q key t creds).2.pools.length = w.pools.length := by
  unfold openHandle
  split
  · exact length_setPool i _
  · exact List.length_set

theorem length_discardClosed (i : Nat) (p : Pool) (key : CacheKey) :
    (w.discardClosed i p key).2.pools.length = w.pools.length := by
  unfold discardClosed
  split
  · split
    · rw [letGo_pools]
      exact length_setPool i _
    · rfl
  · rfl

theorem length_lookup (i : Nat) (p : Pool) (t : Target) (pr : Principal) (u : Nat) :
    (w.lookup i p t pr u).2.pools.length = w.pools.length := by
  unfold lookup
  split
  · rfl
  · rfl
  · rename_i key creds _ _
    have h₁ := length_discardClosed (w := w) i p key
    generalize w.discardClosed i p key = d at h₁
    obtain ⟨p₁, w₁⟩ := d
    dsimp only at h₁ ⊢
    rw [← h₁]
    split
    · split
      · rw [length_openHandle, letGo_pools, evict_pools]
        exact length_setPool i _
      · exact length_setPool i _
    · -- the purge, if any, only sets the pool
      have hpu : (if w₁.config.maxCacheSize ≤ p₁.size then w₁.purge i p₁ else (p₁, w₁)).2.pools.length =
          w₁.pools.length := by
        split
        · rw [purge, letGoAll_pools]
          exact length_setPool i _
        · rfl
      generalize (if w₁.config.maxCacheSize ≤ p₁.size then w₁.purge i p₁ else (p₁, w₁)) = d at hpu
      obtain ⟨p₂, w₂⟩ := d
      dsimp only at hpu ⊢
      rw [← hpu]
      split
      · exact length_setPool i _
      · exact length_openHandle i _ key t creds

theorem length_lookupAs (i : Nat) (p : Pool) (t : Target) (pr : Principal) (ex : Bool)
    (name : Option String) : (w.lookupAs i p t pr ex name).2.pools.length = w.pools.length := by
  cases ex with
  | true =>
    rw [lookupAs_true, answerLookup_pools, length_lookup]
    exact length_setPool i _
  | false => rw [lookupAs_false, answerLookup_pools, length_lookup]

/-- No step takes a pool out of the list: a dropped pool leaves its place empty. -/
theorem length_act (hl : w.Ledger []) (s : PoolStep) :
    w.pools.length ≤ (w.act s).2.pools.length := by
  rcases act_cases hl s with hq | ⟨j, p, t, pr, ex, name, -, -, he⟩ |
      ⟨j, p, name, h, -, -, ⟨-, he⟩ | ⟨-, he⟩⟩ | ⟨j, p, -, ⟨-, he⟩ | ⟨-, he⟩⟩ | ⟨identity, -, he⟩
  · exact Nat.le_of_eq (by rw [hq.pools])
  · exact Nat.le_of_eq (by rw [he, length_lookupAs])
  · rw [he]
    unfold remove
    split
    · exact Nat.le_of_eq (by rw [letGo_pools, evict_pools, length_setPool])
    · exact Nat.le_refl _
  · rw [he]
    unfold close
    split
    · exact Nat.le_of_eq (by
        show _ = ((w.setPool j _).letGo _).pools.length
        rw [letGo_pools, length_setPool])
    · exact Nat.le_refl _
  · exact Nat.le_of_eq (by rw [he, closeAll_pools, length_setPool])
  · rw [he, dropPool, letGoAll_pools]
    exact Nat.le_of_eq List.length_set.symm
  · rw [he, List.length_append]
    exact Nat.le_add_right _ _

/-! ## What one step counts -/

/-- Opening counts a creation and registers one handle, or counts a failure and registers
none. -/
theorem openHandle_counted (hp : w.pool? i = some p) (q : Pool) (key : CacheKey) (t : Target)
    (creds : TokenSet) :
    ∃ q' n, (w.openHandle i q key t creds).2.pool? i = some q' ∧
      (w.openHandle i q key t creds).2.orphans.nextId = w.orphans.nextId + UInt64.ofNat n ∧
      (q'.counters = q.counters.creation ∧ n = 1 ∨ q'.counters = q.counters.creationFailure ∧ n = 0) := by
  unfold openHandle
  split
  · exact ⟨_, 0, by rw [pool?_setPool w hp, if_pos rfl], (UInt64.add_zero _).symm,
      Or.inr ⟨rfl, rfl⟩⟩
  · rename_i r b _
    simp only [Orphans.register]
    have hp₁ : ({ w with backend := b, orphans := { w.orphans with
        registry := w.orphans.registry.insert w.orphans.nextId, nextId := w.orphans.nextId + 1 } }).pool? i =
        some p := hp
    exact ⟨_, 1, by rw [pool?_setPool _ hp₁, if_pos rfl], rfl, Or.inl ⟨rfl, rfl⟩⟩

theorem discardClosed_counters (key : CacheKey) :
    (w.discardClosed i p key).1.counters = p.counters ∧
      (w.discardClosed i p key).2.orphans.nextId = w.orphans.nextId := by
  unfold discardClosed
  split
  · split
    · exact ⟨rfl, nextId_letGo _ _⟩
    · exact ⟨rfl, rfl⟩
  · exact ⟨rfl, rfl⟩

/-- A lookup whose principal has a key and credentials moves its pool's counters as `Counted`
says, and registers the handles it counts. -/
theorem lookup_counted (hp : w.pool? i = some p) {t : Target} {pr : Principal} {u : Nat}
    {k : CacheKey} {c : TokenSet} (hk : CacheKey.derive t pr u = .ok k)
    (hc : credentialTokens pr = .ok c) :
    ∃ q n, (w.lookup i p t pr u).2.pool? i = some q ∧
      (w.lookup i p t pr u).2.orphans.nextId = w.orphans.nextId + UInt64.ofNat n ∧
      Counted p.counters q.counters n := by
  have hp₁ := (shrinks_discardClosed hp k).2.1
  obtain ⟨hcnt₁, hnext₁⟩ := discardClosed_counters (w := w) (i := i) (p := p) k
  simp only [World.lookup, hk, hc]
  generalize w.discardClosed i p k = d at hp₁ hcnt₁ hnext₁
  obtain ⟨p₁, w₁⟩ := d
  dsimp only at hp₁ hcnt₁ hnext₁ ⊢
  split
  · rename_i e hf
    split
    · -- a rotation, then an opening in the pool without the rotated entry
      have hp₂ : (((w₁.setPool i ((p₁.erase k).count Recorder.rotation)).evict
          e.handle.serial).letGo e.handle).pool? i = some ((p₁.erase k).count Recorder.rotation) := by
        rw [pool?, letGo_pools, evict_pools, ← pool?, pool?_setPool w₁ hp₁, if_pos rfl]
      have hrot : ((p₁.erase k).count Recorder.rotation).counters = p.counters.rotation := by
        rw [← hcnt₁]
        rfl
      obtain ⟨q, n, hq, hn, hcase⟩ := openHandle_counted hp₂ _ k t c
      refine ⟨q, n, hq, ?_, ?_⟩
      · rw [hn, nextId_letGo, (evict_parts _ _).1, ← hnext₁]
        rfl
      · exact .of_opened (.inr hrot) hcase
    · -- a hit
      refine ⟨p₁.count Recorder.hit, 0, by rw [pool?_setPool w₁ hp₁, if_pos rfl],
        hnext₁.trans (UInt64.add_zero _).symm, ?_⟩
      show Counted p.counters p₁.counters.hit 0
      rw [hcnt₁]
      exact .hit
  · -- a miss, after a purge if the pool is full
    have hpu : (if w₁.config.maxCacheSize ≤ p₁.size then w₁.purge i p₁ else (p₁, w₁)).2.pool? i =
          some (if w₁.config.maxCacheSize ≤ p₁.size then w₁.purge i p₁ else (p₁, w₁)).1 ∧
        (if w₁.config.maxCacheSize ≤ p₁.size then w₁.purge i p₁ else (p₁, w₁)).1.counters =
          p₁.counters ∧
        (if w₁.config.maxCacheSize ≤ p₁.size then w₁.purge i p₁ else (p₁, w₁)).2.orphans.nextId =
          w₁.orphans.nextId := by
      split
      · exact ⟨(shrinks_purge hp₁).2.1, rfl, (purge_tidied hp₁).1.nextId⟩
      · exact ⟨hp₁, rfl, rfl⟩
    generalize (if w₁.config.maxCacheSize ≤ p₁.size then w₁.purge i p₁ else (p₁, w₁)) = d at hpu
    obtain ⟨p₂, w₂⟩ := d
    obtain ⟨hp₂, hcnt₂, hnext₂⟩ := hpu
    dsimp only at hp₂ hcnt₂ hnext₂ ⊢
    split
    · -- refused for capacity
      refine ⟨p₂.count Recorder.capacityRejection, 0, by rw [pool?_setPool w₂ hp₂, if_pos rfl],
        (hnext₂.trans hnext₁).trans (UInt64.add_zero _).symm, ?_⟩
      show Counted p.counters p₂.counters.capacityRejection 0
      rw [hcnt₂, hcnt₁]
      exact .refused
    · have hmiss : (p₂.count Recorder.miss).counters = p.counters.miss := by
        rw [← hcnt₁, ← hcnt₂]
        rfl
      obtain ⟨q, n, hq, hn, hcase⟩ := openHandle_counted hp₂ (p₂.count Recorder.miss) k t c
      exact ⟨q, n, hq, by rw [hn, hnext₂, hnext₁], .of_opened (.inl hmiss) hcase⟩

theorem nextId_answerLookup (j : Nat) (p : Pool) (t : Target) (pr : Principal) (u : Nat)
    (name : Option String) :
    (w.answerLookup j p t pr u name).2.orphans.nextId = (w.lookup j p t pr u).2.orphans.nextId := by
  unfold answerLookup
  generalize w.lookup j p t pr u = l
  obtain ⟨r, w₁⟩ := l
  cases r with
  | error e => rfl
  | ok hd =>
    cases name with
    | none => rfl
    | some nm =>
      -- holding the handle lets go of what the name held, which registers nothing
      show (w₁.hold nm hd).orphans.nextId = w₁.orphans.nextId
      unfold hold
      cases w₁.held.bind nm hd with
      | mk held old =>
        cases old with
        | none => rfl
        | some o => exact nextId_letGo _ o

/-- A session's lookup with a key and credentials counts as its lookup does. -/
theorem lookupAs_counted (hp : w.pool? i = some p) {t : Target} {pr : Principal} {ex : Bool}
    (name : Option String) {k : CacheKey} {c : TokenSet}
    (hk : CacheKey.derive t pr (if ex then p.nextUnique.toNat else 0) = .ok k)
    (hc : credentialTokens pr = .ok c) :
    ∃ q n, (w.lookupAs i p t pr ex name).2.pool? i = some q ∧
      (w.lookupAs i p t pr ex name).2.orphans.nextId = w.orphans.nextId + UInt64.ofNat n ∧
      Counted p.counters q.counters n := by
  -- the lookup runs in pool `i` as drawn, whose counters are those of `p`
  have answer : ∀ {w₀ : World} {p₀ : Pool} (u : Nat), w₀.pool? i = some p₀ →
      p₀.counters = p.counters → w₀.orphans.nextId = w.orphans.nextId →
      CacheKey.derive t pr u = .ok k →
      ∃ q n, (w₀.answerLookup i p₀ t pr u name).2.pool? i = some q ∧
        (w₀.answerLookup i p₀ t pr u name).2.orphans.nextId = w.orphans.nextId + UInt64.ofNat n ∧
        Counted p.counters q.counters n := by
    intro w₀ p₀ u hp₀ hcnt hnext hku
    obtain ⟨q, n, hq, hn, hcq⟩ := lookup_counted hp₀ hku hc
    refine ⟨q, n, ?_, by rw [nextId_answerLookup, hn, hnext], hcnt ▸ hcq⟩
    unfold pool?
    rw [answerLookup_pools, ← pool?]
    exact hq
  cases ex with
  | true =>
    rw [if_pos rfl] at hk
    rw [lookupAs_true]
    exact answer _ (by rw [pool?_setPool w hp, if_pos rfl]) rfl rfl hk
  | false =>
    rw [if_neg Bool.false_ne_true] at hk
    rw [lookupAs_false]
    exact answer 0 hp rfl rfl hk

/-- A remove that answers true counts an eviction; one that answers false changes nothing. -/
theorem remove_counted (hp : w.pool? i = some p) (h : Handle) :
    ∃ q, (w.remove i p h).2.pool? i = some q ∧
      q.counters = if (w.remove i p h).1 then p.counters.eviction else p.counters := by
  unfold remove
  split
  · rename_i e p' ht
    refine ⟨p'.count Recorder.eviction, ?_, ?_⟩
    · rw [pool?, letGo_pools, evict_pools, ← pool?, pool?_setPool w hp, if_pos rfl]
    · show p'.counters.eviction = p.counters.eviction
      rw [Pool.take_counters ht]
  · exact ⟨p, hp, rfl⟩

/-- A close that finds an entry on the handle's resource counts an eviction. -/
theorem close_counted (hp : w.pool? i = some p) (h : Handle) :
    ∃ q, (w.close i p h).2.pool? i = some q ∧
      q.counters = if (p.take h.serial).1.isSome then p.counters.eviction else p.counters := by
  unfold close
  split
  · rename_i e p' ht
    refine ⟨p'.count Recorder.eviction, ?_, ?_⟩
    · show ((w.setPool i (p'.count Recorder.eviction)).letGo e.handle).pool? i = _
      rw [pool?, letGo_pools, ← pool?, pool?_setPool w hp, if_pos rfl]
    · rw [ht]
      show p'.counters.eviction = p.counters.eviction
      rw [Pool.take_counters ht]
  · rename_i ht
    refine ⟨p, hp, ?_⟩
    rw [ht]
    rfl

/-- A remove through a held handle answers whether it found an entry. -/
theorem act_remove {name : String} {h : Handle} (hp : w.pool? i = some p)
    (hh : w.held.lookup name = some h) :
    w.act (.remove i name) = (.value (.flag (w.remove i p h).1), (w.remove i p h).2) := by
  simp only [act, onPool, onHandle, hp, hh]

theorem act_close {name : String} {h : Handle} (hp : w.pool? i = some p)
    (hh : w.held.lookup name = some h) :
    w.act (.close i name) = (closeOutcome (w.close i p h).1, (w.close i p h).2) := by
  simp only [act, onPool, onHandle, hp, hh]

/-- A lookup in pool `i` that fails before it has a key and credentials leaves the pool's
statistics. -/
theorem counters_unresolved (hp : w.pool? i = some p) {ex : Bool} {q' : Pool}
    (hq' : (if ex then w.setPool i p.drawUnique.2 else w).pool? i = some q') :
    q'.counters = p.counters := by
  cases ex with
  | true =>
    rw [if_pos rfl, pool?_setPool w hp, if_pos rfl] at hq'
    cases hq'
    rfl
  | false =>
    rw [if_neg Bool.false_ne_true, hp] at hq'
    cases hq'
    rfl

/-! ## Tallied runs -/

/-- The step reaches pool `i`'s statistics: a lookup in the pool whose principal has a key and
credentials, or a remove or a close in the pool through a held handle. -/
def Counts (w : World) (i : Nat) (s : PoolStep) : Prop :=
  (∃ p t pr ex name k c, w.pool? i = some p ∧ w.Asks s i t pr ex name ∧
    CacheKey.derive t pr (if ex then p.nextUnique.toNat else 0) = .ok k ∧
    credentialTokens pr = .ok c) ∨
  ∃ p name h, w.pool? i = some p ∧ w.held.lookup name = some h ∧
    (s = .remove i name ∨ s = .close i name)

/-- A run from `w` in which pool `i` was asked and answered what `T` counts: each lookup with a
key and credentials and the handles it registered, each remove and whether it answered true,
each close and whether it found an entry. Every other move leaves the tally as it is. -/
inductive Tallied (i : Nat) (w : World) : Tally → World → Prop
  | refl : Tallied i w {} w
  | move {T : Tally} {w₁ w₂ : World} :
      Tallied i w T w₁ → Move (fun w s => ¬ w.Counts i s) w₁ w₂ → Tallied i w T w₂
  | lookup {T : Tally} {w₁ : World} (s : PoolStep) {p : Pool} {t : Target} {pr : Principal}
      {ex : Bool} {name : Option String} {k : CacheKey} {c : TokenSet} :
      Tallied i w T w₁ → w₁.pool? i = some p → w₁.Asks s i t pr ex name →
      CacheKey.derive t pr (if ex then p.nextUnique.toNat else 0) = .ok k →
      credentialTokens pr = .ok c →
      Tallied i w (T.look ((w₁.act s).2.orphans.nextId - w₁.orphans.nextId).toNat) (w₁.act s).2
  | remove {T : Tally} {w₁ : World} (name : String) {p : Pool} {h : Handle} :
      Tallied i w T w₁ → w₁.pool? i = some p → w₁.held.lookup name = some h →
      Tallied i w (T.remove (w₁.remove i p h).1) (w₁.act (.remove i name)).2
  | close {T : Tally} {w₁ : World} (name : String) {p : Pool} {h : Handle} :
      Tallied i w T w₁ → w₁.pool? i = some p → w₁.held.lookup name = some h →
      Tallied i w (T.close (p.take h.serial).1.isSome) (w₁.act (.close i name)).2

/-- A step confined to pool `j` leaves the statistics of every other pool. -/
theorem Footprint.counters_other {j : Nat} {fresh : Entry → Prop} {w' : World} {q' : Pool}
    (hf : Footprint j p fresh w w') (hji : j ≠ i) (hq' : w'.pool? i = some q') :
    ∃ q, w.pool? i = some q ∧ q'.counters = q.counters := by
  rw [hf.other i (Ne.symm hji)] at hq'
  exact ⟨q', hq', rfl⟩

/-- A step that does not reach pool `i`'s statistics leaves them, or adds pool `i` with none
counted. -/
theorem counters_act (hl : w.Ledger []) (s : PoolStep) (hs : ¬ w.Counts i s) {q' : Pool}
    (hq' : (w.act s).2.pool? i = some q') :
    (∃ q, w.pool? i = some q ∧ q'.counters = q.counters) ∨ (q'.counters = {} ∧ w.pools.length ≤ i) := by
  rcases act_cases hl s with hq | ⟨j, p, t, pr, ex, name, hp, hask, he⟩ |
      ⟨j, p, name, h, hp, hh, ⟨rfl, he⟩ | ⟨rfl, he⟩⟩ | ⟨j, p, hp, ⟨-, he⟩ | ⟨-, he⟩⟩ | ⟨identity, -, he⟩
  · unfold pool? at hq'
    rw [hq.pools, ← pool?] at hq'
    exact Or.inl ⟨q', hq', rfl⟩
  · rw [he] at hq'
    by_cases hji : j = i
    · subst hji
      -- the lookup is not counted, so it fails before it has a key and credentials
      refine Or.inl ⟨p, hp, ?_⟩
      rcases hk : CacheKey.derive t pr (if ex then p.nextUnique.toNat else 0) with e | k
      · rw [lookupAs_unresolved (Or.inl hk)] at hq'
        exact counters_unresolved hp hq'
      rcases hc : credentialTokens pr with e | c
      · rw [lookupAs_unresolved (Or.inr ⟨⟨k, hk⟩, hc⟩)] at hq'
        exact counters_unresolved hp hq'
      · exact absurd (Or.inl ⟨p, t, pr, ex, name, k, c, hp, hask, hk, hc⟩) hs
    · exact Or.inl ((footprint_lookupAs hp t pr ex name).counters_other hji hq')
  · by_cases hji : j = i
    · subst hji
      exact absurd (Or.inr ⟨p, name, h, hp, hh, Or.inl rfl⟩) hs
    · rw [he] at hq'
      exact Or.inl ((footprint_remove hp h : Footprint j p (fun _ => False) w _).counters_other hji hq')
  · by_cases hji : j = i
    · subst hji
      exact absurd (Or.inr ⟨p, name, h, hp, hh, Or.inr rfl⟩) hs
    · rw [he] at hq'
      exact Or.inl ((footprint_close hp h : Footprint j p (fun _ => False) w _).counters_other hji hq')
  · -- a bulk close empties its pool and keeps its statistics
    rw [he] at hq'
    unfold pool? at hq'
    rw [closeAll_pools, ← pool?, pool?_setPool w hp] at hq'
    by_cases hji : i = j
    · rw [if_pos hji] at hq'
      cases hq'
      exact Or.inl ⟨p, hji ▸ hp, rfl⟩
    · rw [if_neg hji] at hq'
      exact Or.inl ⟨q', hq', rfl⟩
  · rw [he, dropPool, pool?, letGoAll_pools, ← pool?, pool?_dropPool] at hq'
    by_cases hji : i = j
    · rw [if_pos hji] at hq'
      cases hq'
    · rw [if_neg hji] at hq'
      exact Or.inl ⟨q', hq', rfl⟩
  · -- a new pool goes at the end of the list, with nothing counted
    rw [he] at hq'
    by_cases hi : w.pools.length ≤ i
    · rcases pool?_newPool hq' with hq | rfl
      · exact Or.inl ⟨q', hq, rfl⟩
      · exact Or.inr ⟨rfl, hi⟩
    · unfold pool? at hq' ⊢
      rw [List.getElem?_append_left (by omega)] at hq'
      exact Or.inl ⟨q', hq', rfl⟩

/-- Pool `i`'s statistics agree with the tally `T`, and nothing is tallied before the pool is
added. -/
def TallyHolds (i : Nat) (T : Tally) (w : World) : Prop :=
  (∀ p, w.pool? i = some p → Balanced p.counters T) ∧ (w.pools.length ≤ i → T = {})

/-- A live pool whose statistics agree with `T` is all the agreement asks: being live, the pool
is in the list. -/
theorem tallyHolds_of_pool {T : Tally} (hp : w.pool? i = some p) (hb : Balanced p.counters T) :
    w.TallyHolds i T := by
  refine ⟨fun q hq => ?_, fun hlen => absurd hlen (Nat.not_le.2 (lt_length_of_pool? hp))⟩
  rw [hp] at hq
  cases hq
  exact hb

theorem tallyHolds_create (config : Config) (kind : ClockKind) (identity : Option IdentitySource)
    (answers : Answers) : (World.create config kind identity answers).TallyHolds i {} := by
  refine ⟨fun p hp => ?_, fun _ => rfl⟩
  unfold pool? World.create at hp
  cases i with
  | zero =>
    simp only [List.getElem?_cons_zero, Option.join_some, Option.some.injEq] at hp
    rw [← hp]
    exact balanced_zero
  | succ i => simp at hp

/-- A move that does not reach pool `i`'s statistics keeps them in agreement with the tally. -/
theorem TallyHolds.move {T : Tally} {w' : World} (hl : w.Ledger []) (ht : w.TallyHolds i T)
    (hm : Move (fun w s => ¬ w.Counts i s) w w') : w'.TallyHolds i T := by
  rcases hm.act_or_worker with ⟨s, hs, rfl⟩ | hw
  · refine ⟨fun q' hq' => ?_, fun hlen => ht.2 (Nat.le_trans (length_act hl s) hlen)⟩
    rcases counters_act hl s hs hq' with ⟨q, hq, hcnt⟩ | ⟨hcnt, hlen⟩
    · rw [hcnt]
      exact ht.1 q hq
    · -- the pool was added by this step, before which nothing was tallied
      rw [hcnt, ht.2 hlen]
      exact balanced_zero
  · have hp := (hw.quiet hl).pools
    refine ⟨fun q' hq' => ht.1 q' ?_, fun hlen => ht.2 (hp ▸ hlen)⟩
    unfold pool? at hq' ⊢
    rwa [hp] at hq'

theorem TallyHolds.lookup {T : Tally} (ht : w.TallyHolds i T) {s : PoolStep}
    {p : Pool} {t : Target} {pr : Principal} {ex : Bool} {name : Option String} {k : CacheKey}
    {c : TokenSet} (hp : w.pool? i = some p) (ha : w.Asks s i t pr ex name)
    (hk : CacheKey.derive t pr (if ex then p.nextUnique.toNat else 0) = .ok k)
    (hc : credentialTokens pr = .ok c) :
    (w.act s).2.TallyHolds i (T.look ((w.act s).2.orphans.nextId - w.orphans.nextId).toNat) := by
  rw [act_of_asks hp ha]
  obtain ⟨q, n, hq, hn, hcq⟩ := lookupAs_counted hp name hk hc
  -- a lookup registers at most one handle, so the counter moves by that much without wrapping
  have hlt : n < 2 ^ 64 := Nat.lt_of_le_of_lt hcq.le_one (by decide)
  rw [hn, UInt64.add_comm, UInt64.add_sub_cancel, UInt64.toNat_ofNat', Nat.mod_eq_of_lt hlt]
  exact tallyHolds_of_pool hq ((ht.1 p hp).counted hcq)

theorem TallyHolds.remove {T : Tally} (ht : w.TallyHolds i T) {name : String}
    {p : Pool} {h : Handle} (hp : w.pool? i = some p) (hh : w.held.lookup name = some h) :
    (w.act (.remove i name)).2.TallyHolds i (T.remove (w.remove i p h).1) := by
  rw [act_remove hp hh]
  obtain ⟨q, hq, hcnt⟩ := remove_counted hp h
  refine tallyHolds_of_pool hq ?_
  rw [hcnt]
  exact (ht.1 p hp).remove _

theorem TallyHolds.close {T : Tally} (ht : w.TallyHolds i T) {name : String}
    {p : Pool} {h : Handle} (hp : w.pool? i = some p) (hh : w.held.lookup name = some h) :
    (w.act (.close i name)).2.TallyHolds i (T.close (p.take h.serial).1.isSome) := by
  rw [act_close hp hh]
  obtain ⟨q, hq, hcnt⟩ := close_counted hp h
  refine tallyHolds_of_pool hq ?_
  rw [hcnt]
  exact (ht.1 p hp).close _

/-- Along a tallied run from a new world the ledger holds and the statistics agree. -/
theorem Tallied.holds {config : Config} {kind : ClockKind} {identity : Option IdentitySource}
    {answers : Answers} {T : Tally} (h : Tallied i (World.create config kind identity answers) T w) :
    w.Ledger [] ∧ w.TallyHolds i T := by
  induction h with
  | refl =>
    exact ⟨ledger_create config kind identity answers, tallyHolds_create config kind identity answers⟩
  | move _ hm ih => exact ⟨ledger_move ih.1 hm, ih.2.move ih.1 hm⟩
  | lookup s _ hp ha hk hc ih => exact ⟨ledger_act ih.1 s, ih.2.lookup hp ha hk hc⟩
  | remove name _ hp hh ih => exact ⟨ledger_act ih.1 _, ih.2.remove hp hh⟩
  | close name _ hp hh ih => exact ⟨ledger_act ih.1 _, ih.2.close hp hh⟩

/-- Every run is tallied: each step is counted or leaves the tally. -/
theorem tallied_of_moves {w₀ w' : World} (hr : Relation.ReflTransGen (Move fun _ _ => True) w₀ w') :
    ∃ T, Tallied i w₀ T w' := by
  induction hr with
  | refl => exact ⟨{}, .refl⟩
  | @tail w₁ w₂ _ hm ih =>
    obtain ⟨T, hT⟩ := ih
    rcases hm.act_or_worker with ⟨s, -, rfl⟩ | hw
    · -- a step is counted, as a lookup, a remove or a close in pool `i`, or leaves the tally
      by_cases hs : w₁.Counts i s
      · rcases hs with ⟨p, t, pr, ex, name, k, c, hp, ha, hk, hc⟩ | ⟨p, name, h, hp, hh, rfl | rfl⟩
        · exact ⟨_, hT.lookup s hp ha hk hc⟩
        · exact ⟨_, hT.remove name hp hh⟩
        · exact ⟨_, hT.close name hp hh⟩
      · exact ⟨T, hT.move (.act s hs)⟩
    · exact ⟨T, hT.move (hw.mono fun _ _ h => h.elim)⟩

/-! ## The statistics balance -/

/-- **The statistics balance.** Every run of a new world is tallied, and along every tallied run
each live pool's statistics agree with what the pool was asked and answered, as 64-bit counters
that wrap, so modulo `2 ^ 64`: its misses and rotations are its openings, successful or failed;
its hits, misses, rotations and refusals for capacity are its lookups whose principal had a key
and credentials; its creations are the handles it registered with the tracker; and its
evictions are its rotations, its removes that answered true and its closes that found an
entry. -/
theorem statistics_balance (config : Config) (kind : ClockKind) (identity : Option IdentitySource)
    (answers : Answers) (i : Nat) :
    (∀ w, Relation.ReflTransGen (Move fun _ _ => True) (World.create config kind identity answers) w →
      ∃ T, Tallied i (World.create config kind identity answers) T w) ∧
    ∀ T w, Tallied i (World.create config kind identity answers) T w → ∀ p, w.pool? i = some p →
      p.counters.misses + p.counters.rotations = p.counters.creations + p.counters.creationFailures ∧
      p.counters.hits + p.counters.misses + p.counters.rotations + p.counters.capacityRejections =
        UInt64.ofNat T.lookups ∧
      p.counters.creations = UInt64.ofNat T.registrations ∧
      p.counters.evictions =
        p.counters.rotations + UInt64.ofNat T.removals + UInt64.ofNat T.closings := by
  refine ⟨fun w hr => tallied_of_moves hr, fun T w h p hp => ?_⟩
  obtain ⟨ho, hlk, hr, he⟩ := (h.holds.2.1 p hp)
  exact ⟨ho, hlk, hr, he⟩

/-- The statistics after a first lookup, which opened a handle. -/
theorem statistics_balance_after_get :
    let w := ((World.create {} .manual none).act
      (.get 0 "hdfs://nn1" (.direct "a" .simple .empty) false none)).2
    ∃ T : Tally, T.lookups = 1 ∧ Tallied 0 (World.create {} .manual none) T w ∧
      ∀ p, w.pool? 0 = some p →
        p.counters.misses + p.counters.rotations = p.counters.creations + p.counters.creationFailures ∧
        p.counters.hits + p.counters.misses + p.counters.rotations + p.counters.capacityRejections =
          UInt64.ofNat T.lookups ∧
        p.counters.creations = UInt64.ofNat T.registrations ∧
        p.counters.evictions =
          p.counters.rotations + UInt64.ofNat T.removals + UInt64.ofNat T.closings := by
  obtain ⟨t, ht⟩ : ∃ t, Target.parse "hdfs://nn1" = .ok t := ⟨_, rfl⟩
  have hrun := Tallied.lookup (i := 0) (w := World.create {} .manual none)
    (.get 0 "hdfs://nn1" (.direct "a" .simple .empty) false none) .refl rfl (.get ht) rfl rfl
  exact ⟨_, rfl, hrun, (statistics_balance {} .manual none .switched 0).2 _ _ hrun⟩

end World

end HandlePool
