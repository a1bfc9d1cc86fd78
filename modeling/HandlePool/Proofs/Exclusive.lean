import Mathlib.Logic.Function.Iterate
import HandlePool.Proofs.Capacity
/-!
# Exclusive handles

An exclusive lookup draws its unique number from its pool's counter, and the key it derives
carries that number where the key of a shared lookup carries 0. The counter starts at 1 and
every draw adds one to it, wrapping like a 64-bit word, so it reads 0 only after 2^64 - 1 draws;
`Pool.drawn` is the number of draws so far.

As long as no exclusive lookup finds the counter at 0, every entry of the pool carries a number
the pool has drawn already (`UniquesDrawn`, kept by every such step: `UniquesDrawn.act`). The
next exclusive lookup draws a number that no entry carries, so it is a miss and opens a
resource of its own (`lookupAs_fresh`); no later lookup derives its key again, so no later
lookup answers its resource (`exclusive_handles_never_shared`). Once the counter reads 0, the
exclusive key is the shared key and an exclusive lookup is a hit on the shared entry
(`Serves.lookupAs_wrapped`). Lookups that fail for want of a key still draw, so 2^64 - 1 of them
get there from a new pool (`exclusive_lookup_after_wrap`).

The runs that never draw at 0 are those with at most 2^64 - 1 exclusive lookups in the pool
(`DrawRun.never_at_zero`): no step but an exclusive lookup moves the counter (`counter_act`).

* `Footprint`: what a lookup, a remove, a close, a bulk close or a drop does to the pools: one
  pool keeps its counter and gains only entries under keys the lookup derives.
* `UniquesDrawn`: the invariant, over every run that never draws at 0 (`UniquesDrawn.moves`).
-/

namespace HandlePool

theorem CacheKey.unique_of_derive {t : Target} {pr : Principal} {u : Nat} {k : CacheKey}
    (h : CacheKey.derive t pr u = .ok k) : k.unique = u := by
  unfold CacheKey.derive at h
  cases hi : Identity.of pr with
  | error e => simp [hi, bind, Except.bind] at h
  | ok id =>
    simp only [hi, bind, Except.bind, pure, Except.pure, Except.ok.injEq] at h
    rw [← h]

namespace Pool

/-- How many unique numbers the pool has drawn, modulo 2^64: the counter starts at 1. -/
def drawn (p : Pool) : Nat := (p.nextUnique - 1).toNat

/-- A counter that has not wrapped reads one more than the number of draws. -/
theorem toNat_nextUnique {p : Pool} (h : p.nextUnique ≠ 0) :
    p.nextUnique.toNat = p.drawn + 1 := by
  have h₀ : p.nextUnique.toNat ≠ 0 := fun h' => h (UInt64.toNat_inj.1 (by simpa using h'))
  unfold drawn
  rw [UInt64.toNat_sub_of_le]
  · simp only [UInt64.toNat_one]
    omega
  · exact UInt64.le_iff_toNat_le.2 (by simp only [UInt64.toNat_one]; omega)

theorem drawn_drawUnique {p : Pool} (h : p.nextUnique ≠ 0) :
    p.drawUnique.2.drawn = p.drawn + 1 := by
  have hsub : p.nextUnique + 1 - 1 = p.nextUnique := by grind
  show (p.nextUnique + 1 - 1).toNat = p.drawn + 1
  rw [hsub]
  exact toNat_nextUnique h

theorem mem_of_take {p : Pool} {s : Nat} {e : Entry} {p' : Pool} (ht : p.take s = (some e, p'))
    {e' : Entry} (he' : e' ∈ p'.entries) : e' ∈ p.entries := by
  rw [(take_spec ht).2.2] at he'
  exact (List.mem_filter.1 he').1

theorem take_nextUnique {p : Pool} {s : Nat} {e : Entry} {p' : Pool} (h : p.take s = (some e, p')) :
    p'.nextUnique = p.nextUnique := by
  unfold take at h
  split at h
  · cases h
    rfl
  · cases h

end Pool

namespace World

/-! ## Footprints on the pools -/

theorem answerLookup_pools (w : World) (i : Nat) (p : Pool) (t : Target) (pr : Principal)
    (u : Nat) (name : Option String) :
    (w.answerLookup i p t pr u name).2.pools = (w.lookup i p t pr u).2.pools := by
  unfold answerLookup
  generalize w.lookup i p t pr u = l
  obtain ⟨r, w₁⟩ := l
  cases r with
  | error e => rfl
  | ok hd =>
    cases name with
    | none => rfl
    | some nm => exact (hold_parts w₁ nm hd).1

/-- Pool `i` of `w'`, where it is live, keeps the counter of `p` and holds entries of `p` and
entries that `fresh` admits; the other pools are those of `w`. -/
structure Footprint (i : Nat) (p : Pool) (fresh : Entry → Prop) (w w' : World) : Prop where
  other : ∀ j, j ≠ i → w'.pool? j = w.pool? j
  pool : ∀ q, w'.pool? i = some q →
    q.nextUnique = p.nextUnique ∧ ∀ e ∈ q.entries, e ∈ p.entries ∨ fresh e

section Footprints

variable {w w' : World} {i : Nat} {p : Pool} {fresh : Entry → Prop}

theorem Footprint.of_pools (hp : w.pool? i = some p) (h : w'.pools = w.pools) :
    Footprint i p fresh w w' where
  other j _ := by unfold pool?; rw [h]
  pool q hq := by
    unfold pool? at hq
    rw [h, ← pool?, hp] at hq
    cases hq
    exact ⟨rfl, fun e he => Or.inl he⟩

theorem Footprint.pools_eq {w₂ : World} (hf : Footprint i p fresh w w')
    (h : w₂.pools = w'.pools) :
    Footprint i p fresh w w₂ where
  other j hj := by unfold pool?; rw [h, ← pool?]; exact hf.other j hj
  pool q hq := by
    unfold pool? at hq
    rw [h, ← pool?] at hq
    exact hf.pool q hq

theorem Footprint.trans {w₂ : World} {q : Pool} (h₁ : Footprint i p fresh w w')
    (hq : w'.pool? i = some q) (h₂ : Footprint i q fresh w' w₂) : Footprint i p fresh w w₂ where
  other j hj := (h₂.other j hj).trans (h₁.other j hj)
  pool q₂ hq₂ := by
    obtain ⟨hn₁, he₁⟩ := h₁.pool q hq
    obtain ⟨hn₂, he₂⟩ := h₂.pool q₂ hq₂
    refine ⟨hn₂.trans hn₁, fun e he => ?_⟩
    rcases he₂ e he with he | he
    · exact he₁ e he
    · exact Or.inr he

theorem footprint_setPool {p₀ q : Pool} (hp : w.pool? i = some p₀)
    (hn : q.nextUnique = p.nextUnique) (he : ∀ e ∈ q.entries, e ∈ p.entries ∨ fresh e) :
    Footprint i p fresh w (w.setPool i q) where
  other j hj := by rw [pool?_setPool w hp, if_neg hj]
  pool q' hq' := by
    rw [pool?_setPool w hp, if_pos rfl] at hq'
    cases hq'
    exact ⟨hn, he⟩

/-- A handle opened into pool `i` is added under the key the lookup derived. -/
theorem footprint_openHandle {p₀ q : Pool} (hp : w.pool? i = some p₀)
    (hn : q.nextUnique = p.nextUnique) (he : ∀ e ∈ q.entries, e ∈ p.entries ∨ fresh e)
    {key : CacheKey} (t : Target) {creds : TokenSet} (hk : ∀ h, fresh ⟨key, h, creds⟩) :
    Footprint i p fresh w (w.openHandle i q key t creds).2 := by
  unfold World.openHandle
  split
  · exact footprint_setPool hp hn he
  · rename_i r b _
    generalize w.orphans.register = ro
    obtain ⟨reg, o⟩ := ro
    refine (footprint_setPool (q := (q.insert ⟨key, ⟨r.serial, reg⟩, creds⟩).count Recorder.creation)
      hp hn fun e hmem => ?_).pools_eq rfl
    rcases List.mem_append.1 (show e ∈ q.entries ++ [⟨key, ⟨r.serial, reg⟩, creds⟩] from hmem) with
      hq | hnew
    · exact he e hq
    · rw [List.mem_singleton.1 hnew]
      exact Or.inr (hk _)

theorem footprint_discardClosed (hp : w.pool? i = some p) (key : CacheKey) :
    Footprint i p fresh w (w.discardClosed i p key).2 := by
  unfold World.discardClosed
  split
  · split
    · exact (footprint_setPool (p := p) (q := p.erase key) hp rfl fun e he =>
        Or.inl (List.mem_filter.1 he).1).pools_eq (letGo_pools _ _)
    · exact Footprint.of_pools hp rfl
  · exact Footprint.of_pools hp rfl

theorem footprint_purge (hp : w.pool? i = some p) : Footprint i p fresh w (w.purge i p).2 := by
  unfold World.purge
  dsimp only
  exact (footprint_setPool (p := p) (q := { p with entries := w.openEntries p }) hp rfl fun e he =>
    Or.inl (List.mem_filter.1 he).1).pools_eq (letGoAll_pools _ _)

/-- A lookup keeps the counter of its pool and adds only entries under the key it derives. -/
theorem footprint_lookup (hp : w.pool? i = some p) (t : Target) (pr : Principal) (u : Nat) :
    Footprint i p (fun e => CacheKey.derive t pr u = .ok e.key) w (w.lookup i p t pr u).2 := by
  generalize hfd : (fun e : Entry => CacheKey.derive t pr u = .ok e.key) = f
  rcases hk : CacheKey.derive t pr u with err | key
  · simp only [World.lookup, hk]
    exact Footprint.of_pools hp rfl
  rcases hc : credentialTokens pr with err | creds
  · simp only [World.lookup, hk, hc]
    exact Footprint.of_pools hp rfl
  have hnew : ∀ h, f ⟨key, h, creds⟩ := fun _ => by rw [← hfd]; exact hk
  simp only [World.lookup, hk, hc]
  have hf₁ : Footprint i p f w (w.discardClosed i p key).2 := footprint_discardClosed hp key
  have hp₁ := (shrinks_discardClosed hp key).2.1
  generalize w.discardClosed i p key = d at hf₁ hp₁ ⊢
  obtain ⟨p₁, w₁⟩ := d
  dsimp only at hf₁ hp₁ ⊢
  -- the rest changes pool `i` as the discard left it
  refine hf₁.trans hp₁ ?_
  split
  · rename_i e hf
    split
    · -- a rotation takes the entry out, then opens a handle under the key
      have hpool : (((w₁.setPool i ((p₁.erase key).count Recorder.rotation)).evict
          e.handle.serial).letGo e.handle).pool? i = some ((p₁.erase key).count Recorder.rotation) := by
        rw [pool?, letGo_pools, evict_pools, ← pool?, pool?_setPool w₁ hp₁, if_pos rfl]
      have hout : Footprint i p₁ f w₁ (((w₁.setPool i ((p₁.erase key).count Recorder.rotation)).evict
          e.handle.serial).letGo e.handle) :=
        (footprint_setPool (p := p₁) (q := (p₁.erase key).count Recorder.rotation) hp₁ rfl
          fun e he => Or.inl (List.mem_filter.1 he).1).pools_eq (by rw [letGo_pools, evict_pools])
      exact hout.trans hpool (footprint_openHandle hpool rfl (fun e he => Or.inl he) t hnew)
    · exact footprint_setPool (p := p₁) (q := p₁.count Recorder.hit) hp₁ rfl fun e he => Or.inl he
  · have hpu : Footprint i p₁ f w₁
          (if w₁.config.maxCacheSize ≤ p₁.size then w₁.purge i p₁ else (p₁, w₁)).2 ∧
        (if w₁.config.maxCacheSize ≤ p₁.size then w₁.purge i p₁ else (p₁, w₁)).2.pool? i =
          some (if w₁.config.maxCacheSize ≤ p₁.size then w₁.purge i p₁ else (p₁, w₁)).1 := by
      split
      · exact ⟨footprint_purge hp₁, (shrinks_purge hp₁).2.1⟩
      · exact ⟨Footprint.of_pools hp₁ rfl, hp₁⟩
    generalize (if w₁.config.maxCacheSize ≤ p₁.size then w₁.purge i p₁ else (p₁, w₁)) = d at hpu ⊢
    obtain ⟨p₂, w₂⟩ := d
    obtain ⟨hf₂, hp₂⟩ := hpu
    dsimp only at hf₂ hp₂ ⊢
    refine hf₂.trans hp₂ ?_
    split
    · exact footprint_setPool (p := p₂) (q := p₂.count Recorder.capacityRejection) hp₂ rfl
        fun e he => Or.inl he
    · exact footprint_openHandle (p := p₂) (q := p₂.count Recorder.miss) hp₂ rfl
        (fun e he => Or.inl he) t hnew

/-- A lookup drawing a unique number keeps the drawn counter; one that does not, the pool's. -/
theorem footprint_lookupAs (hp : w.pool? i = some p) (t : Target) (pr : Principal) (ex : Bool)
    (name : Option String) :
    Footprint i (if ex then p.drawUnique.2 else p)
      (fun e => CacheKey.derive t pr (if ex then p.nextUnique.toNat else 0) = .ok e.key) w
      (w.lookupAs i p t pr ex name).2 := by
  cases ex with
  | true =>
    -- the draw only moves the counter on; the lookup runs in the pool as drawn
    have hq : (w.setPool i p.drawUnique.2).pool? i = some p.drawUnique.2 := by
      rw [pool?_setPool w hp, if_pos rfl]
    rw [lookupAs_true]
    exact (footprint_setPool (p := p.drawUnique.2) hp rfl fun e he => Or.inl he).trans hq
      ((footprint_lookup hq t pr _).pools_eq (answerLookup_pools _ _ _ _ _ _ _))
  | false =>
    rw [lookupAs_false]
    exact (footprint_lookup hp t pr 0).pools_eq (answerLookup_pools _ _ _ _ _ _ _)

theorem footprint_remove (hp : w.pool? i = some p) (h : Handle) :
    Footprint i p fresh w (w.remove i p h).2 := by
  unfold World.remove
  split
  · rename_i e p' ht
    have hn : p'.nextUnique = p.nextUnique := Pool.take_nextUnique ht
    exact (footprint_setPool (p := p) (q := p'.count Recorder.eviction) hp hn
      fun _ he' => Or.inl (Pool.mem_of_take ht he')).pools_eq (by rw [letGo_pools, evict_pools])
  · exact Footprint.of_pools hp rfl

theorem footprint_close (hp : w.pool? i = some p) (h : Handle) :
    Footprint i p fresh w (w.close i p h).2 := by
  unfold World.close
  split
  · rename_i e p' ht
    have hn : p'.nextUnique = p.nextUnique := Pool.take_nextUnique ht
    exact (footprint_setPool (p := p) (q := p'.count Recorder.eviction) hp hn
      fun _ he' => Or.inl (Pool.mem_of_take ht he')).pools_eq (letGo_pools _ _)
  · exact Footprint.of_pools hp rfl

theorem footprint_closeAll (hp : w.pool? i = some p) : Footprint i p fresh w (w.closeAll i p).2 :=
  (footprint_setPool (p := p) (q := { p with entries := [] }) hp rfl fun _ he =>
    absurd he List.not_mem_nil).pools_eq (closeAll_pools w i p)

theorem footprint_dropPool (i : Nat) (p : Pool) : Footprint i p fresh w (w.dropPool i p) := by
  unfold World.dropPool
  refine ⟨fun j hj => ?_, fun q hq => ?_⟩
  · rw [pool?, letGoAll_pools, ← pool?, pool?_dropPool w i j, if_neg hj]
  · rw [pool?, letGoAll_pools, ← pool?, pool?_dropPool w i i, if_pos rfl] at hq
    cases hq

end Footprints

/-! ## Uniques drawn -/

/-- Every entry of pool `i` carries a unique number the pool has drawn already, or 0. -/
def UniquesDrawn (w : World) (i : Nat) : Prop :=
  ∀ p, w.pool? i = some p → ∀ e ∈ p.entries, e.key.unique ≤ p.drawn

/-- The step is an exclusive lookup in pool `i` while the pool's counter reads 0. -/
def DrawsAtZero (w : World) (i : Nat) (s : PoolStep) : Prop :=
  ∃ p t pr name, w.pool? i = some p ∧ p.nextUnique = 0 ∧ w.Asks s i t pr true name

section Drawing

variable {w w' : World} {i : Nat}

theorem UniquesDrawn.congr (hu : w.UniquesDrawn i) (h : w'.pools = w.pools) :
    w'.UniquesDrawn i := by
  intro p hp
  unfold pool? at hp
  rw [h, ← pool?] at hp
  exact hu p hp

theorem UniquesDrawn.footprint {j : Nat} {p : Pool} {fresh : Entry → Prop} (hu : w.UniquesDrawn i)
    (hf : Footprint j p fresh w w') (hp : j = i → ∀ e ∈ p.entries, e.key.unique ≤ p.drawn)
    (hfresh : j = i → ∀ e, fresh e → e.key.unique ≤ p.drawn) : w'.UniquesDrawn i := by
  intro q hq e he
  by_cases hji : j = i
  · subst hji
    obtain ⟨hn, hsub⟩ := hf.pool q hq
    have hd : q.drawn = p.drawn := by unfold Pool.drawn; rw [hn]
    rw [hd]
    rcases hsub e he with he | he
    · exact hp rfl e he
    · exact hfresh rfl e he
  · rw [hf.other i (Ne.symm hji)] at hq
    exact hu q hq e he

/-- A step that only takes entries out of a pool keeps the invariant. -/
theorem UniquesDrawn.shrink (hu : w.UniquesDrawn i) {j : Nat} {p : Pool} (hp : w.pool? j = some p)
    (hf : Footprint j p (fun _ => False) w w') : w'.UniquesDrawn i :=
  hu.footprint hf (fun hji => hu p (hji ▸ hp)) fun _ _ hfalse => hfalse.elim

/-- A lookup keeps the invariant, unless it draws at 0 in pool `i`. -/
theorem UniquesDrawn.lookupAs (hu : w.UniquesDrawn i) {j : Nat} {p : Pool} (hp : w.pool? j = some p)
    {ex : Bool} (hz : j = i → ex = true → p.nextUnique ≠ 0) (t : Target) (pr : Principal)
    (name : Option String) : (w.lookupAs j p t pr ex name).2.UniquesDrawn i := by
  refine hu.footprint (footprint_lookupAs hp t pr ex name) (fun hji e he => ?_) (fun hji e hk => ?_)
  · cases ex with
    | true =>
      -- the draw counts one more and leaves the entries as they were
      rw [if_pos rfl, Pool.drawn_drawUnique (hz hji rfl)]
      exact Nat.le_succ_of_le (hu p (hji ▸ hp) e he)
    | false => exact hu p (hji ▸ hp) e he
  · rw [CacheKey.unique_of_derive hk]
    cases ex with
    | true =>
      apply Nat.le_of_eq
      rw [if_pos rfl, if_pos rfl, Pool.drawn_drawUnique (hz hji rfl), Pool.toNat_nextUnique (hz hji rfl)]
    | false => exact Nat.zero_le _

theorem UniquesDrawn.act (hl : w.Ledger []) (hu : w.UniquesDrawn i) (s : PoolStep)
    (hs : ¬ w.DrawsAtZero i s) : (w.act s).2.UniquesDrawn i := by
  rcases act_cases hl s with hq | ⟨j, p, t, pr, ex, name, hp, hask, he⟩ |
      ⟨j, p, name, h, hp, -, ⟨-, he⟩ | ⟨-, he⟩⟩ | ⟨j, p, hp, ⟨-, he⟩ | ⟨-, he⟩⟩ | ⟨identity, -, he⟩
  · exact hu.congr hq.pools
  · rw [he]
    refine hu.lookupAs hp (fun hji hex hz => hs ?_) t pr name
    subst hji hex
    exact ⟨p, t, pr, name, hp, hz, hask⟩
  · rw [he]; exact hu.shrink hp (footprint_remove hp h)
  · rw [he]; exact hu.shrink hp (footprint_close hp h)
  · rw [he]; exact hu.shrink hp (footprint_closeAll hp)
  · rw [he]; exact hu.shrink hp (footprint_dropPool j p)
  · -- a new pool has no entries
    rw [he]
    intro q hq e hmem
    rcases pool?_newPool hq with hq | rfl
    · exact hu q hq e hmem
    · cases hmem

/-- Along a run that never draws at 0 in pool `i`, its entries carry drawn numbers. -/
theorem UniquesDrawn.moves (hl : w.Ledger []) (hu : w.UniquesDrawn i)
    (hr : Relation.ReflTransGen (Move fun w s => ¬ w.DrawsAtZero i s) w w') : w'.UniquesDrawn i := by
  induction hr with
  | refl => exact hu
  | tail hr hm ih =>
    have hl' := ledger_moves hl hr
    rcases hm.act_or_worker with ⟨s, hs, rfl⟩ | hw
    · exact ih.act hl' s hs
    · exact ih.congr (hw.quiet hl').pools

theorem uniquesDrawn_create (config : Config) (kind : ClockKind) (identity : Option IdentitySource)
    (answers : Answers) (i : Nat) : (World.create config kind identity answers).UniquesDrawn i := by
  intro p hp e he
  unfold pool? World.create at hp
  cases i with
  | zero =>
    simp only [List.getElem?_cons_zero, Option.join_some, Option.some.injEq] at hp
    rw [← hp] at he
    cases he
  | succ i => simp at hp

/-! ## Fresh resources -/

theorem openHandle_pool {p₀ q : Pool} (hp : w.pool? i = some p₀) {key : CacheKey} {t : Target}
    {creds : TokenSet} {hd : Handle} (h : (w.openHandle i q key t creds).1 = .ok hd) :
    (w.openHandle i q key t creds).2.pool? i =
      some ((q.insert ⟨key, hd, creds⟩).count Recorder.creation) := by
  unfold World.openHandle at h ⊢
  split at h
  · cases h
  · rename_i r b _
    generalize w.orphans.register = ro at h ⊢
    obtain ⟨reg, o⟩ := ro
    dsimp only at h ⊢
    cases h
    have hp₁ : ({ w with backend := b, orphans := o }).pool? i = some p₀ := hp
    rw [pool?_setPool _ hp₁, if_pos rfl]

/-- A lookup at a key that no entry of its pool has, which answers a handle, is a miss: the
handle is on a resource it has just opened, its entry is under the key, and the pool counts a
miss and a creation. -/
theorem lookup_fresh {p : Pool} (hp : w.pool? i = some p) {t : Target} {pr : Principal} {u : Nat}
    {k : CacheKey} (hk : CacheKey.derive t pr u = .ok k) (hno : ∀ e ∈ p.entries, e.key ≠ k)
    {hd : Handle} (h : (w.lookup i p t pr u).1 = .ok hd) :
    w.backend.resources.length < hd.serial ∧ ∃ q c, (w.lookup i p t pr u).2.pool? i = some q ∧
      ⟨k, hd, c⟩ ∈ q.entries ∧ q.counters = Recorder.creation (Recorder.miss p.counters) := by
  have hf : p.find? k = none := List.find?_eq_none.2 fun e he hek => hno e he (by simpa using hek)
  have hd₀ : w.discardClosed i p k = (p, w) := by simp only [World.discardClosed, hf]
  rcases hc : credentialTokens pr with err | c
  · simp only [World.lookup, hk, hc] at h
    cases h
  simp only [World.lookup, hk, hc, hd₀, hf] at h ⊢
  -- a full pool is purged first, which keeps its counters
  have hpu : (if w.config.maxCacheSize ≤ p.size then w.purge i p else (p, w)).2.pool? i =
        some (if w.config.maxCacheSize ≤ p.size then w.purge i p else (p, w)).1 ∧
      (if w.config.maxCacheSize ≤ p.size then w.purge i p else (p, w)).1.counters = p.counters ∧
      (if w.config.maxCacheSize ≤ p.size then w.purge i p else (p, w)).2.backend.resources.length =
        w.backend.resources.length := by
    split
    · exact ⟨(shrinks_purge hp).2.1, rfl, (shrinks_purge hp).1.opened⟩
    · exact ⟨hp, rfl, rfl⟩
  generalize (if w.config.maxCacheSize ≤ p.size then w.purge i p else (p, w)) = d at hpu h ⊢
  obtain ⟨p₂, w₂⟩ := d
  obtain ⟨hp₂, hc₂, hlen⟩ := hpu
  dsimp only at hp₂ hc₂ hlen h ⊢
  split at h
  · cases h
  · rename_i hroom
    rw [if_neg hroom]
    obtain ⟨hl, -⟩ := openHandle_ok hp₂ h
    refine ⟨hlen ▸ hl, _, c, openHandle_pool hp₂ h, ?_, ?_⟩
    · exact List.mem_append_right _ (List.mem_singleton_self _)
    · show Recorder.creation (Recorder.miss p₂.counters) = _
      rw [hc₂]

/-- An exclusive lookup in a pool whose entries carry drawn numbers, while its counter has not
wrapped, that answers a lease is a miss: the lease is on a resource it has just opened, whose
entry carries the number it drew, and the pool counts a miss and a creation. -/
theorem lookupAs_fresh (hu : w.UniquesDrawn i) {p : Pool} (hp : w.pool? i = some p)
    (hz : p.nextUnique ≠ 0) {t : Target} {pr : Principal} {name : Option String} {n : Nat}
    {cl : Bool} {tag : Option String}
    (h : (w.lookupAs i p t pr true name).1 = .value (.lease n cl tag)) :
    w.backend.resources.length < n ∧ ∃ q e, (w.lookupAs i p t pr true name).2.pool? i = some q ∧
      e ∈ q.entries ∧ e.handle.serial = n ∧ e.key.unique = p.nextUnique.toNat ∧
      q.counters = Recorder.creation (Recorder.miss p.counters) := by
  rw [lookupAs_true] at h ⊢
  have hq : (w.setPool i p.drawUnique.2).pool? i = some p.drawUnique.2 := by
    rw [pool?_setPool w hp, if_pos rfl]
  obtain ⟨hd, hok, hs, hpools⟩ := answerLookup_lease h
  rcases hk : CacheKey.derive t pr p.nextUnique.toNat with err | k
  · simp only [World.lookup, hk] at hok
    cases hok
  -- the number drawn is above every number the entries carry
  have hno : ∀ e ∈ p.drawUnique.2.entries, e.key ≠ k := by
    intro e he hek
    have hle := hu p hp e he
    rw [hek, CacheKey.unique_of_derive hk, Pool.toNat_nextUnique hz] at hle
    omega
  obtain ⟨hlt, q, c, hq', hmem, hcount⟩ := lookup_fresh hq hk hno hok
  refine ⟨hs ▸ hlt, q, ⟨k, hd, c⟩, ?_, hmem, hs, CacheKey.unique_of_derive hk, hcount⟩
  rw [pool?, hpools, ← pool?]
  exact hq'

/-- An entry of pool `i` whose key carries a drawn number is never answered again along a run
that does not draw at 0 in pool `i`: a later lookup, in any pool, that finds an entry on its
resource finds this entry, whose key a shared lookup does not derive and an exclusive one in
pool `i` has drawn past. -/
theorem lease_not_repeated {w₂ : World} (hl : w.Ledger []) (hu : w.UniquesDrawn i) {q₀ : Pool}
    {e : Entry} (hq₀ : w.pool? i = some q₀) (he : e ∈ q₀.entries) (hu₀ : e.key.unique ≠ 0)
    (hr : Relation.ReflTransGen (Move fun w s => ¬ w.DrawsAtZero i s) w w₂) {j : Nat} {q : Pool}
    {t : Target} {pr : Principal} {ex : Bool} {name : Option String} {n : Nat} {cl : Bool}
    {tag : Option String} (hq : w₂.pool? j = some q) (hz : j = i → ex = true → q.nextUnique ≠ 0)
    (h : (w₂.lookupAs j q t pr ex name).1 = .value (.lease n cl tag)) : n ≠ e.handle.serial := by
  have hway := oneWay_moves hl hr
  have hce : w.CachedAt i e := ⟨q₀, hq₀, he⟩
  have hiss : w.Issued e.handle.serial := (hl.handle e.handle (Or.inr ⟨i, e, hce, rfl⟩)).2
  intro hn
  rcases lookupAs_lease_keyed hq h with ⟨e', he', hk, hs⟩ | ⟨hlt, -⟩
  · -- an entry on the resource in the later world is the same entry, in the same pool
    obtain ⟨hji, hee⟩ := hl.single j i e' e
      (hway.cached j e' ⟨q, hq, he'⟩ ((hs.trans hn) ▸ hiss)) hce (hs.trans hn)
    subst hji hee
    have hle := hu.moves hl hr q hq e' he'
    rw [CacheKey.unique_of_derive hk] at hu₀ hle
    cases ex with
    | true =>
      rw [if_pos rfl, Pool.toNat_nextUnique (hz rfl rfl)] at hle
      omega
    | false => exact hu₀ rfl
  · -- or on one opened after the run
    have := hiss.2
    have := hway.opened
    omega

/-- Once the counter of pool `i` reads 0, an exclusive lookup derives the shared key: served by
an open entry, it is a hit on that entry. -/
theorem Serves.lookupAs_wrapped {D : List Handle} (hl : w.Ledger D) {k : CacheKey} {c : TokenSet}
    {n : Nat} (hs : w.Serves i k c n) {p : Pool} (hp : w.pool? i = some p) (hz : p.nextUnique = 0)
    {t : Target} {pr : Principal} (hk : CacheKey.derive t pr 0 = .ok k)
    (hc : (w.config.isIdentitySensitive k.scheme = false ∧ ∃ c', credentialTokens pr = .ok c') ∨
      credentialTokens pr = .ok c) (name : Option String) :
    ∃ tag, (w.lookupAs i p t pr true name).1 = .value (.lease n false tag) ∧
      (w.lookupAs i p t pr true name).2.pool? i = some (p.drawUnique.2.count Recorder.hit) := by
  -- the exclusive lookup is the shared one, in the pool with its counter moved on
  have hdraw : w.lookupAs i p t pr true name =
      (w.setPool i p.drawUnique.2).lookupAs i p.drawUnique.2 t pr false name := by
    rw [lookupAs_true, lookupAs_false, hz, UInt64.toNat_zero]
  have hq : (w.setPool i p.drawUnique.2).pool? i = some p.drawUnique.2 := by
    rw [pool?_setPool w hp, if_pos rfl]
  obtain ⟨e, hst, hek, hen, hcred⟩ := hs
  have hs₁ : (w.setPool i p.drawUnique.2).Serves i k c n :=
    ⟨e, hst.setPool hp fun _ => (hst.mem hp : e ∈ p.entries), hek, hen, hcred⟩
  have hl₁ := hl.setPool_entries (q := p.drawUnique.2) hp rfl
  obtain ⟨tag, hlease, -, hpool⟩ := hs₁.lookupAs hl₁ hq hk hc name
  rw [hdraw]
  exact ⟨tag, hlease, hpool⟩

end Drawing

/-! ## Counting the draws -/

/-- From 1, the counter reads 0 after 2^64 - 1 draws and not before. -/
theorem one_add_ofNat_ne_zero {d : Nat} (hd : d < UInt64.size - 1) :
    (1 : UInt64) + UInt64.ofNat d ≠ 0 := by
  intro h
  have h' := congrArg UInt64.toNat h
  have hsize : UInt64.size = 2 ^ 64 := rfl
  rw [hsize] at hd
  simp only [UInt64.toNat_add, UInt64.toNat_ofNat', UInt64.toNat_one, UInt64.toNat_zero] at h'
  omega

/-- The step is an exclusive lookup in pool `i`, which draws a number from its counter. -/
def Draws (w : World) (i : Nat) (s : PoolStep) : Prop :=
  ∃ p t pr name, w.pool? i = some p ∧ w.Asks s i t pr true name

/-- A run from `w` to `w'` of which `m` steps are exclusive lookups in pool `i`. -/
inductive DrawRun (i : Nat) (w : World) : Nat → World → Prop
  | refl : DrawRun i w 0 w
  | move {m : Nat} {w₁ w₂ : World} :
      DrawRun i w m w₁ → Move (fun w s => ¬ w.Draws i s) w₁ w₂ → DrawRun i w m w₂
  | draw {m : Nat} {w₁ : World} (s : PoolStep) :
      DrawRun i w m w₁ → w₁.Draws i s → DrawRun i w (m + 1) (w₁.act s).2

section Counting

variable {w w' : World} {i : Nat}

/-- The step a lookup is asked by runs that lookup. -/
theorem act_of_asks {s : PoolStep} {t : Target} {pr : Principal} {ex : Bool}
    {name : Option String} {p : Pool} (hp : w.pool? i = some p) (ha : w.Asks s i t pr ex name) :
    w.act s = w.lookupAs i p t pr ex name := by
  cases ha with
  | get ht => simp only [act, onPool, hp, ht]
  | getCurrent ht hp' hsrc hpr =>
    rw [hp] at hp'
    cases hp'
    simp only [act, onPool, hp, ht, hsrc, hpr]

theorem Footprint.counter {j : Nat} {p : Pool} {f : Entry → Prop} (hf : Footprint j p f w w')
    (hp : w.pool? j = some p) {q' : Pool} (hq' : w'.pool? i = some q') :
    ∃ q, w.pool? i = some q ∧ q'.nextUnique = q.nextUnique := by
  by_cases hji : j = i
  · subst hji
    exact ⟨p, hp, (hf.pool q' hq').1⟩
  · rw [hf.other i (Ne.symm hji)] at hq'
    exact ⟨q', hq', rfl⟩

/-- A step that is not an exclusive lookup in pool `i` leaves its counter, or adds the pool
with a counter at 1. -/
theorem counter_act (hl : w.Ledger []) (s : PoolStep) (hs : ¬ w.Draws i s) {q' : Pool}
    (hq' : (w.act s).2.pool? i = some q') :
    (∃ q, w.pool? i = some q ∧ q'.nextUnique = q.nextUnique) ∨ q'.nextUnique = 1 := by
  rcases act_cases hl s with hq | ⟨j, p, t, pr, ex, name, hp, hask, he⟩ |
      ⟨j, p, name, h, hp, -, ⟨-, he⟩ | ⟨-, he⟩⟩ | ⟨j, p, hp, ⟨-, he⟩ | ⟨-, he⟩⟩ | ⟨identity, -, he⟩
  · unfold pool? at hq'
    rw [hq.pools, ← pool?] at hq'
    exact Or.inl ⟨q', hq', rfl⟩
  · rw [he] at hq'
    -- an exclusive lookup in pool `i` would be a draw
    cases ex with
    | true =>
      by_cases hji : j = i
      · subst hji
        exact absurd ⟨p, t, pr, name, hp, hask⟩ hs
      · rw [(footprint_lookupAs hp t pr true name).other i (Ne.symm hji)] at hq'
        exact Or.inl ⟨q', hq', rfl⟩
    | false => exact Or.inl ((footprint_lookupAs hp t pr false name).counter hp hq')
  · rw [he] at hq'
    exact Or.inl ((footprint_remove hp h : Footprint j p (fun _ => False) w _).counter hp hq')
  · rw [he] at hq'
    exact Or.inl ((footprint_close hp h : Footprint j p (fun _ => False) w _).counter hp hq')
  · rw [he] at hq'
    exact Or.inl ((footprint_closeAll hp : Footprint j p (fun _ => False) w _).counter hp hq')
  · rw [he] at hq'
    exact Or.inl ((footprint_dropPool j p : Footprint j p (fun _ => False) w _).counter hp hq')
  · rw [he] at hq'
    rcases pool?_newPool hq' with hq' | rfl
    · exact Or.inl ⟨q', hq', rfl⟩
    · exact Or.inr rfl

/-- Pool `i`'s counter reads 1 plus at most `m`: the invariant of a run with `m` draws. -/
def CounterWithin (w : World) (i m : Nat) : Prop :=
  ∀ q, w.pool? i = some q → ∃ d ≤ m, q.nextUnique = 1 + UInt64.ofNat d

theorem counterWithin_create (config : Config) (kind : ClockKind)
    (identity : Option IdentitySource) (answers : Answers) :
    (World.create config kind identity answers).CounterWithin i 0 := by
  intro q hq
  refine ⟨0, Nat.le_refl _, ?_⟩
  unfold pool? World.create at hq
  cases i with
  | zero =>
    simp only [List.getElem?_cons_zero, Option.join_some, Option.some.injEq] at hq
    rw [← hq]
    rfl
  | succ i => simp at hq

/-- A step that draws nothing in pool `i` keeps the bound on its counter. -/
theorem CounterWithin.move {m : Nat} (hl : w.Ledger []) (hc : w.CounterWithin i m)
    (hmove : Move (fun w s => ¬ w.Draws i s) w w') : w'.CounterWithin i m := by
  intro q' hq'
  rcases hmove.act_or_worker with ⟨s, hs, rfl⟩ | hw
  · rcases counter_act hl s hs hq' with ⟨q, hq, hn⟩ | h1
    · rw [hn]
      exact hc q hq
    · exact ⟨0, Nat.zero_le _, h1⟩
  · unfold pool? at hq'
    rw [(hw.quiet hl).pools, ← pool?] at hq'
    exact hc q' hq'

/-- Under 2^64 - 1 draws the counter is not 0. -/
theorem CounterWithin.ne_zero {m : Nat} (hc : w.CounterWithin i m) (hm : m < UInt64.size - 1)
    {p : Pool} (hp : w.pool? i = some p) : p.nextUnique ≠ 0 := by
  obtain ⟨d, hdm, hpd⟩ := hc p hp
  rw [hpd]
  exact one_add_ofNat_ne_zero (by omega)

/-- A draw adds one to the counter and one to the bound. -/
theorem CounterWithin.draw {m : Nat} (hc : w.CounterWithin i m) {s : PoolStep} {p : Pool}
    {t : Target} {pr : Principal} {name : Option String} (hp : w.pool? i = some p)
    (ha : w.Asks s i t pr true name) : (w.act s).2.CounterWithin i (m + 1) := by
  intro q' hq'
  rw [act_of_asks hp ha] at hq'
  obtain ⟨d, hdm, hpd⟩ := hc p hp
  refine ⟨d + 1, Nat.succ_le_succ hdm, ?_⟩
  rw [((footprint_lookupAs hp t pr true name).pool q' hq').1]
  show p.nextUnique + 1 = 1 + UInt64.ofNat (d + 1)
  rw [hpd, UInt64.ofNat_add, UInt64.add_assoc]
  rfl

/-- **At most 2^64 - 1 exclusive lookups never draw at 0.** Along a run from a new world with
at most 2^64 - 1 exclusive lookups in pool `i`, none finds the counter at 0: the counter starts
at 1, each exclusive lookup adds one, and no other step moves it. -/
theorem DrawRun.never_at_zero {config : Config} {kind : ClockKind}
    {identity : Option IdentitySource} {answers : Answers} {m : Nat}
    (h : DrawRun i (World.create config kind identity answers) m w) (hm : m ≤ UInt64.size - 1) :
    Relation.ReflTransGen (Move fun w s => ¬ w.DrawsAtZero i s)
      (World.create config kind identity answers) w := by
  -- induction on the run, carrying the ledger and the bound on the counter
  suffices Relation.ReflTransGen (Move fun w s => ¬ w.DrawsAtZero i s)
      (World.create config kind identity answers) w ∧ w.Ledger [] ∧ w.CounterWithin i m from this.1
  induction h with
  | refl =>
    exact ⟨.refl, ledger_create config kind identity answers,
      counterWithin_create config kind identity answers⟩
  | move _ hmove ih =>
    obtain ⟨hr, hl, hc⟩ := ih hm
    -- a step that draws nothing does not draw at 0
    have hmove' : Move (fun w s => ¬ w.DrawsAtZero i s) _ _ :=
      hmove.mono fun w s hs ⟨p, t, pr, name, hp, _, ha⟩ => hs ⟨p, t, pr, name, hp, ha⟩
    exact ⟨hr.tail hmove', ledger_move hl hmove, hc.move hl hmove⟩
  | draw s _ hd ih =>
    obtain ⟨hr, hl, hc⟩ := ih (Nat.le_of_succ_le hm)
    obtain ⟨p, t, pr, name, hp, ha⟩ := hd
    refine ⟨hr.tail (Move.act s ?_), ledger_act hl s, hc.draw hp ha⟩
    rintro ⟨q, t', pr', name', hq, hz, -⟩
    rw [hp] at hq
    cases hq
    exact hc.ne_zero (by omega) hp hz

end Counting

/-! ## Exclusive handles over a run -/

/-- **Exclusive handles are never shared.** Take a run from a new world in which no exclusive
lookup in pool `i` finds the pool's counter at 0: the counter starts at 1, so these are the runs
with at most 2^64 - 1 exclusive lookups in the pool. An exclusive lookup in pool `i`, while the
counter has not wrapped, that answers a lease is a miss: the resource is one it has just opened,
and the pool counts a miss and a creation, neither a hit nor a rotation. No later lookup, shared
or exclusive and in any pool, answers that resource along any run on that does not draw at 0 in
pool `i`. Once the counter reads 0, the exclusive key is the shared key, and an exclusive lookup
is a hit on the entry serving the shared key. -/
theorem exclusive_handles_never_shared {config : Config} {kind : ClockKind}
    {identity : Option IdentitySource} {answers : Answers} {i : Nat} {w : World}
    (hr : Relation.ReflTransGen (Move fun w s => ¬ w.DrawsAtZero i s)
      (World.create config kind identity answers) w) :
    (∀ p t pr name n cl tag, w.pool? i = some p → p.nextUnique ≠ 0 →
      (w.lookupAs i p t pr true name).1 = .value (.lease n cl tag) →
      w.backend.resources.length < n ∧
      (∃ q, (w.lookupAs i p t pr true name).2.pool? i = some q ∧
        q.counters = Recorder.creation (Recorder.miss p.counters)) ∧
      ∀ w₂, Relation.ReflTransGen (Move fun w s => ¬ w.DrawsAtZero i s)
          (w.lookupAs i p t pr true name).2 w₂ →
        ∀ j q t' pr' ex name' n' cl' tag', w₂.pool? j = some q →
          (j = i → ex = true → q.nextUnique ≠ 0) →
          (w₂.lookupAs j q t' pr' ex name').1 = .value (.lease n' cl' tag') → n' ≠ n) ∧
    ∀ p t pr name k c n, w.pool? i = some p → p.nextUnique = 0 → w.Serves i k c n →
      CacheKey.derive t pr 0 = .ok k →
      ((w.config.isIdentitySensitive k.scheme = false ∧ ∃ c', credentialTokens pr = .ok c') ∨
        credentialTokens pr = .ok c) →
      ∃ tag, (w.lookupAs i p t pr true name).1 = .value (.lease n false tag) ∧
        (w.lookupAs i p t pr true name).2.pool? i = some (p.drawUnique.2.count Recorder.hit) := by
  have hl₀ := ledger_create config kind identity answers
  have hl := ledger_moves hl₀ hr
  have hu := (uniquesDrawn_create config kind identity answers i).moves hl₀ hr
  refine ⟨fun p t pr name n cl tag hp hz h => ?_, fun p t pr name k c n hp hz hs hk hc =>
    hs.lookupAs_wrapped hl hp hz hk hc name⟩
  obtain ⟨hlt, q, e, hq, he, hn, hku, hcount⟩ := lookupAs_fresh hu hp hz h
  -- the entry of the new resource carries the number drawn, which is not 0
  have hu₀ : e.key.unique ≠ 0 := by
    rw [hku, Pool.toNat_nextUnique hz]
    exact Nat.succ_ne_zero _
  refine ⟨hlt, ⟨q, hq, hcount⟩, fun w₂ hr₂ j q₂ t' pr' ex name' n' cl' tag' hq₂ hz₂ h₂ => ?_⟩
  rw [← hn]
  exact lease_not_repeated (ledger_lookupAs hl hp t pr true name)
    (hu.lookupAs hp (fun _ _ => hz) t pr name) hq he hu₀ hr₂ hq₂ hz₂ h₂

/-- Exclusive handles after a shared lookup in a new world. -/
theorem exclusive_handles_never_shared_after_get :
    Relation.ReflTransGen (Move fun w s => ¬ w.DrawsAtZero 0 s) (World.create {} .manual none)
      ((World.create {} .manual none).act
        (.get 0 "s3a://bucket" (.direct "alice" .simple .empty) false none)).2 ∧
    let w := ((World.create {} .manual none).act
      (.get 0 "s3a://bucket" (.direct "alice" .simple .empty) false none)).2
    (∀ p t pr name n cl tag, w.pool? 0 = some p → p.nextUnique ≠ 0 →
      (w.lookupAs 0 p t pr true name).1 = .value (.lease n cl tag) →
      w.backend.resources.length < n ∧
      (∃ q, (w.lookupAs 0 p t pr true name).2.pool? 0 = some q ∧
        q.counters = Recorder.creation (Recorder.miss p.counters)) ∧
      ∀ w₂, Relation.ReflTransGen (Move fun w s => ¬ w.DrawsAtZero 0 s)
          (w.lookupAs 0 p t pr true name).2 w₂ →
        ∀ j q t' pr' ex name' n' cl' tag', w₂.pool? j = some q →
          (j = 0 → ex = true → q.nextUnique ≠ 0) →
          (w₂.lookupAs j q t' pr' ex name').1 = .value (.lease n' cl' tag') → n' ≠ n) ∧
    ∀ p t pr name k c n, w.pool? 0 = some p → p.nextUnique = 0 → w.Serves 0 k c n →
      CacheKey.derive t pr 0 = .ok k →
      ((w.config.isIdentitySensitive k.scheme = false ∧ ∃ c', credentialTokens pr = .ok c') ∨
        credentialTokens pr = .ok c) →
      ∃ tag, (w.lookupAs 0 p t pr true name).1 = .value (.lease n false tag) ∧
        (w.lookupAs 0 p t pr true name).2.pool? 0 = some (p.drawUnique.2.count Recorder.hit) := by
  have hr : Relation.ReflTransGen (Move fun w s => ¬ w.DrawsAtZero 0 s)
      (World.create {} .manual none) ((World.create {} .manual none).act
        (.get 0 "s3a://bucket" (.direct "alice" .simple .empty) false none)).2 := by
    -- a shared lookup draws nothing
    refine .single (Move.act _ ?_)
    rintro ⟨p, t, pr, name, -, -, hask⟩
    cases hask
  exact ⟨hr, exclusive_handles_never_shared hr⟩

/-! ## The wrap is reached -/

/-- An exclusive lookup in pool `i` as a principal that has no key. -/
def unkeyedDraw (i : Nat) : PoolStep :=
  .get i "s3a://bucket" (.direct "svc" .token .empty) true none

section Wrap

variable {w : World} {i : Nat}

/-- An exclusive lookup whose principal has no key fails, but draws its number first. -/
theorem act_unkeyedDraw {p : Pool} (hp : w.pool? i = some p) :
    (w.act (unkeyedDraw i)).2 = w.setPool i p.drawUnique.2 := by
  obtain ⟨t, ht⟩ : ∃ t, Target.parse "s3a://bucket" = .ok t := ⟨_, rfl⟩
  simp only [unkeyedDraw, act, onPool, hp, ht]
  -- the key cannot be derived: the lookup ends in the world with the number drawn
  rfl

/-- `m` such lookups, none at a counter reading 0, move the counter of pool `i` on by `m` and
change neither the pool's entries nor the backend nor the configuration. -/
theorem iterate_unkeyedDraw {p : Pool} (hp : w.pool? i = some p) (m : Nat)
    (hm : ∀ k < m, p.nextUnique + UInt64.ofNat k ≠ 0) :
    Relation.ReflTransGen (Move fun w s => ¬ w.DrawsAtZero i s) w
      ((fun w : World => (w.act (unkeyedDraw i)).2)^[m] w) ∧
    ((fun w : World => (w.act (unkeyedDraw i)).2)^[m] w).pool? i =
      some { p with nextUnique := p.nextUnique + UInt64.ofNat m } ∧
    ((fun w : World => (w.act (unkeyedDraw i)).2)^[m] w).backend = w.backend ∧
    ((fun w : World => (w.act (unkeyedDraw i)).2)^[m] w).config = w.config := by
  induction m with
  | zero =>
    refine ⟨.refl, ?_, rfl, rfl⟩
    have h0 : p.nextUnique + UInt64.ofNat 0 = p.nextUnique := UInt64.add_zero _
    rw [Function.iterate_zero_apply, hp, h0]
  | succ m ih =>
    obtain ⟨hr, hpm, hb, hcfg⟩ := ih fun k hk => hm k (Nat.lt_succ_of_lt hk)
    have hstep := act_unkeyedDraw hpm
    rw [Function.iterate_succ_apply']
    refine ⟨.tail hr (Move.act _ ?_), ?_, by rw [hstep]; exact hb, by rw [hstep]; exact hcfg⟩
    · -- the counter reads `p.nextUnique + m` at the `m`-th draw, which is not 0
      rintro ⟨q, t, pr, name, hq, hz, -⟩
      rw [hpm] at hq
      cases hq
      exact hm m (Nat.lt_succ_self m) hz
    · rw [hstep, pool?_setPool _ hpm, if_pos rfl, UInt64.ofNat_add, ← UInt64.add_assoc]
      rfl

/-- **The wrap is reached.** In a reachable world whose pool `i` has drawn no number yet and
serves the shared key `k` with the resource `n`, 2^64 - 1 exclusive lookups as a principal that
has no key lead, along a run that never draws at 0, to a world whose counter reads 0 and where
the entry still serves `k`: an exclusive lookup that derives `k` answers the resource `n`. -/
theorem exclusive_lookup_after_wrap (hw : w.Reachable) {p : Pool} (hp : w.pool? i = some p)
    (h1 : p.nextUnique = 1) {k : CacheKey} {c : TokenSet} {n : Nat} (hs : w.Serves i k c n)
    {t : Target} {pr : Principal} (hk : CacheKey.derive t pr 0 = .ok k)
    (hc : credentialTokens pr = .ok c) (name : Option String) :
    ∃ w' p', Relation.ReflTransGen (Move fun w s => ¬ w.DrawsAtZero i s) w w' ∧
      w'.pool? i = some p' ∧ p'.nextUnique = 0 ∧
      ∃ tag, (w'.lookupAs i p' t pr true name).1 = .value (.lease n false tag) := by
  -- from 1, the counter reads 0 after 2^64 - 1 draws and not before
  have hm : ∀ j < UInt64.size - 1, p.nextUnique + UInt64.ofNat j ≠ 0 := fun j hj => by
    rw [h1]
    exact one_add_ofNat_ne_zero hj
  have hz : p.nextUnique + UInt64.ofNat (UInt64.size - 1) = 0 := by
    rw [h1]
    decide
  obtain ⟨hr, hp', hb, hcfg⟩ := iterate_unkeyedDraw hp (UInt64.size - 1) hm
  refine ⟨_, _, hr, hp', hz, ?_⟩
  -- the entry still serves the key: same entries, same resources, same configuration
  obtain ⟨e, ⟨⟨q, hq, he⟩, hopen⟩, hek, hen, hcred⟩ := hs
  rw [hp] at hq
  cases hq
  have hs' : Serves i k c n ((fun w : World => (w.act (unkeyedDraw i)).2)^[UInt64.size - 1] w) :=
    ⟨e, ⟨⟨_, hp', he⟩, by rw [hb]; exact hopen⟩, hek, hen, by rw [hcfg]; exact hcred⟩
  obtain ⟨tag, h, -⟩ := hs'.lookupAs_wrapped (ledger_of_reachable (hw.moves hr)) hp' hz hk
    (Or.inr hc) name
  exact ⟨tag, h⟩

end Wrap

end World

end HandlePool
