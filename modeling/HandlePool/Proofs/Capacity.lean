import HandlePool.Proofs.Reuse
/-!
# Pool capacity

A pool holds at most `maxCacheSize` entries in every reachable world (`bounded_of_reachable`):
a miss opens a handle only into a pool with room, after purging its entries on closed
resources when it looks full, and a rotation puts one entry in the place of the one it takes
out.

A lookup at a key without an open entry is refused for capacity exactly when the open entries
of its pool fill it (`lookup_refusal`). The refusal opens nothing, registers nothing, and leaves
the resources, the grace queue and the other pools as they were; its pool keeps its open
entries, loses those on closed resources, and counts one capacity rejection (`Tidied`). A lookup
at a key with an open entry is a hit or a rotation, never refused for capacity.

The key and the credentials come first: a lookup whose principal has a key but no credentials
fails with that error, full pool or not (`full_pool_reports_credentials_first`).
-/

namespace HandlePool

namespace Resources

/-- Passing a closed resource through its guard changes nothing. -/
theorem closeOnce_of_isClosed {rs : Resources} {m : Nat} (h : rs.isClosed m = true)
    (reply : Resource → CloseReply) : (rs.closeOnce m reply).2 = rs := by
  induction rs with
  | nil => rfl
  | cons r rest ih =>
    unfold closeOnce
    by_cases hr : (r.serial == m) = true
    · have hc : r.closed = true := by
        simpa [isClosed, find?, List.find?_cons, hr] using h
      simp only [hr, if_true, Resource.closeOnce, hc]
    · have h' : Resources.isClosed rest m = true := by
        simpa [isClosed, find?, List.find?_cons, hr] using h
      simp only [hr, Bool.false_eq_true, if_false]
      show r :: (closeOnce rest m reply).2 = r :: rest
      rw [ih h']

end Resources

namespace Orphans

theorem nextId_post {κ σ : Type} [DecidableEq κ] (run : κ → σ → Bool × σ) (n : Notice κ)
    (os : Orphans κ × σ) : (post run n os).1.nextId = os.1.nextId := by
  unfold post
  split
  · by_cases h : n.cleanup ∈ os.1.started
    · rw [finalize_of_started run n os h]
    · rw [finalize_of_not_started run n os h]
  · rfl

end Orphans

namespace Pool

theorem size_erase_lt {p : Pool} {k : CacheKey} {e : Entry} (hf : p.find? k = some e) :
    (p.erase k).size < p.size := by
  obtain ⟨he, hek⟩ := find?_spec hf
  unfold erase size
  exact List.length_filter_lt_length_iff_exists.2 ⟨e, he, by simp [hek]⟩

theorem size_take_le {p : Pool} {s : Nat} {e : Entry} {p' : Pool} (ht : p.take s = (some e, p')) :
    p'.size ≤ p.size := by
  unfold size
  rw [(take_spec ht).2.2]
  exact List.length_filter_le _ _

end Pool

namespace World

open Backend

/-- The entries of pool `p` whose resources are open. -/
def openEntries (w : World) (p : Pool) : List Entry :=
  p.entries.filter fun e => !w.backend.resources.isClosed e.handle.serial

/-- Every live pool has at most `maxCacheSize` entries. -/
def Bounded (w : World) : Prop := ∀ j p, w.pool? j = some p → p.size ≤ w.config.maxCacheSize

/-! ## Letting go of a handle on a closed resource -/

theorem resources_letGo_of_isClosed (w : World) {h : Handle}
    (hcl : w.backend.resources.isClosed h.serial = true) :
    (w.letGo h).backend.resources = w.backend.resources := by
  unfold letGo
  split
  · rfl
  · rw [withOrphans_eq]
    exact Orphans.rel_post_of Backend.cleanup
      (fun b b' => b.resources.isClosed h.serial = true → b'.resources = b.resources)
      (fun _ _ => rfl) ⟨h.registration, h.serial⟩ (w.orphans, w.backend)
      (fun _ hb => Resources.closeOnce_of_isClosed hb _) hcl

theorem nextId_letGo (w : World) (h : Handle) : (w.letGo h).orphans.nextId = w.orphans.nextId := by
  unfold letGo
  split
  · rfl
  · rw [withOrphans_eq]
    exact Orphans.nextId_post _ _ _

theorem closeEntries_pools (w : World) (i : Nat) (p : Pool) (es : List Entry) :
    (w.closeEntries i p es).2.pools = (w.setPool i { p with entries := [] }).pools :=
  -- the closes and let-gos of the fold leave the pools alone
  w.closeEntries_induction (fun _ w' => w'.pools = (w.setPool i { p with entries := [] }).pools)
    i p es (fun _ _ _ h => h) (fun _ _ w' h => (letGo_pools w' _).trans h) rfl

theorem closeAll_pools (w : World) (i : Nat) (p : Pool) :
    (w.closeAll i p).2.pools = (w.setPool i { p with entries := [] }).pools :=
  w.closeEntries_pools i p p.entries

/-! ## The bound -/

section Bounding

variable {w : World}

theorem Bounded.congr {w' : World} (hb : w.Bounded) (hp : w'.pools = w.pools)
    (hc : w'.config = w.config) : w'.Bounded := by
  intro j p hj
  rw [hc]
  unfold pool? at hj
  rw [hp] at hj
  exact hb j p hj

theorem Bounded.setPool (hb : w.Bounded) {i : Nat} {p q : Pool} (hp : w.pool? i = some p)
    (hq : q.size ≤ w.config.maxCacheSize) : (w.setPool i q).Bounded := by
  intro j p' hj
  rw [pool?_setPool w hp] at hj
  split at hj
  · cases hj
    exact hq
  · exact hb j p' hj

theorem Bounded.letGo (hb : w.Bounded) (h : Handle) : (w.letGo h).Bounded :=
  hb.congr (letGo_pools w h) (config_letGo w h)

theorem Bounded.letGoAll (hb : w.Bounded) (hs : List Handle) : (w.letGoAll hs).Bounded :=
  hb.congr (letGoAll_pools w hs) (config_letGoAll w hs)

theorem Bounded.evict (hb : w.Bounded) (n : Nat) : (w.evict n).Bounded :=
  hb.congr (evict_pools w n) rfl

/-- A handle is opened only into a pool with room. -/
theorem Bounded.openHandle (hb : w.Bounded) {i : Nat} {p₀ p : Pool} (hp : w.pool? i = some p₀)
    (hq : p.size < w.config.maxCacheSize) (key : CacheKey) (t : Target) (creds : TokenSet) :
    (w.openHandle i p key t creds).2.Bounded := by
  unfold World.openHandle
  split
  · exact hb.setPool hp (Nat.le_of_lt hq)
  · rename_i r b _
    generalize w.orphans.register = ro
    obtain ⟨reg, o⟩ := ro
    dsimp only
    have hb₁ : ({ w with backend := b, orphans := o }).Bounded := hb.congr rfl rfl
    refine hb₁.setPool hp ?_
    show (p.insert _).size ≤ w.config.maxCacheSize
    rw [Pool.size_insert]
    exact hq

theorem Bounded.discardClosed (hb : w.Bounded) {i : Nat} {p : Pool} (hp : w.pool? i = some p)
    (key : CacheKey) :
    (w.discardClosed i p key).2.Bounded ∧ (w.discardClosed i p key).1.size ≤ p.size := by
  unfold World.discardClosed
  split
  · split
    · have hle : (p.erase key).size ≤ p.size := List.length_filter_le _ _
      exact ⟨(hb.setPool hp (Nat.le_trans hle (hb i p hp))).letGo _, hle⟩
    · exact ⟨hb, Nat.le_refl _⟩
  · exact ⟨hb, Nat.le_refl _⟩

theorem Bounded.purge (hb : w.Bounded) {i : Nat} {p : Pool} (hp : w.pool? i = some p) :
    (w.purge i p).2.Bounded ∧ (w.purge i p).1.size ≤ p.size := by
  have hle : (w.purge i p).1.size ≤ p.size := List.length_filter_le _ _
  exact ⟨(hb.setPool hp (Nat.le_trans hle (hb i p hp))).letGoAll _, hle⟩

theorem Bounded.lookup (hb : w.Bounded) {i : Nat} {p : Pool} (hp : w.pool? i = some p)
    (t : Target) (pr : Principal) (u : Nat) : (w.lookup i p t pr u).2.Bounded := by
  unfold World.lookup
  split
  · exact hb
  · exact hb
  · rename_i key creds _ _
    obtain ⟨hb₁, hle₁⟩ := hb.discardClosed hp key
    have hp₁ := (shrinks_discardClosed hp key).2.1
    have hcfg := config_discardClosed w i p key
    generalize w.discardClosed i p key = d at hb₁ hle₁ hp₁ hcfg ⊢
    obtain ⟨p₁, w₁⟩ := d
    dsimp only at hb₁ hle₁ hp₁ hcfg ⊢
    -- the pool the lookup reads has room for what it had
    have hmax : p₁.size ≤ w₁.config.maxCacheSize := hb₁ i p₁ hp₁
    split
    · rename_i e hf
      split
      · -- a rotation takes the entry out before it opens the new one
        have hlt : ((p₁.erase key).count Recorder.rotation).size < w₁.config.maxCacheSize :=
          Nat.lt_of_lt_of_le (Pool.size_erase_lt hf) hmax
        have hpool : (((w₁.setPool i ((p₁.erase key).count Recorder.rotation)).evict
            e.handle.serial).letGo e.handle).pool? i = some ((p₁.erase key).count Recorder.rotation) := by
          rw [pool?, letGo_pools, evict_pools, ← pool?, pool?_setPool w₁ hp₁, if_pos rfl]
        exact (((hb₁.setPool hp₁ (Nat.le_of_lt hlt)).evict _).letGo _).openHandle hpool
          (by rw [config_letGo]; exact hlt) key t creds
      · exact hb₁.setPool hp₁ hmax
    · have hpu : (if w₁.config.maxCacheSize ≤ p₁.size then w₁.purge i p₁ else (p₁, w₁)).2.Bounded ∧
          (if w₁.config.maxCacheSize ≤ p₁.size then w₁.purge i p₁ else (p₁, w₁)).2.pool? i =
            some (if w₁.config.maxCacheSize ≤ p₁.size then w₁.purge i p₁ else (p₁, w₁)).1 ∧
          (if w₁.config.maxCacheSize ≤ p₁.size then w₁.purge i p₁ else (p₁, w₁)).2.config =
            w₁.config := by
        split
        · exact ⟨(hb₁.purge hp₁).1, (shrinks_purge hp₁).2.1, config_letGoAll _ _⟩
        · exact ⟨hb₁, hp₁, rfl⟩
      generalize (if w₁.config.maxCacheSize ≤ p₁.size then w₁.purge i p₁ else (p₁, w₁)) = d at hpu ⊢
      obtain ⟨p₂, w₂⟩ := d
      obtain ⟨hb₂, hp₂, hcfg₂⟩ := hpu
      dsimp only at hb₂ hp₂ hcfg₂ ⊢
      split
      · exact hb₂.setPool hp₂ (hb₂ i p₂ hp₂)
      · rename_i hroom
        exact hb₂.openHandle (p := p₂.count Recorder.miss) hp₂ (Nat.lt_of_not_le hroom) key t creds

theorem Bounded.lookupAs {D : List Handle} (hl : w.Ledger D) (hb : w.Bounded) {i : Nat}
    {p : Pool} (hp : w.pool? i = some p) (t : Target) (pr : Principal) (ex : Bool)
    (name : Option String) : (w.lookupAs i p t pr ex name).2.Bounded := by
  cases ex with
  | true =>
    -- drawing the number leaves the size of the pool
    rw [lookupAs_true]
    have hq : (w.setPool i p.drawUnique.2).pool? i = some p.drawUnique.2 := by
      rw [pool?_setPool w hp, if_pos rfl]
    have hl₁ := hl.setPool_entries (q := p.drawUnique.2) hp rfl
    exact ((hb.setPool (q := p.drawUnique.2) hp (hb i p hp)).lookup hq t pr _).congr
      (quiet_answerLookup hl₁ hq t pr _ name).pools (quiet_answerLookup hl₁ hq t pr _ name).config
  | false =>
    rw [lookupAs_false]
    exact (hb.lookup hp t pr 0).congr (quiet_answerLookup hl hp t pr 0 name).pools
      (quiet_answerLookup hl hp t pr 0 name).config

theorem Bounded.remove (hb : w.Bounded) {i : Nat} {p : Pool} (hp : w.pool? i = some p)
    (h : Handle) : (w.remove i p h).2.Bounded := by
  unfold World.remove
  split
  · rename_i e p' ht
    have hle : p'.size ≤ p.size := Pool.size_take_le ht
    exact ((hb.setPool (q := p'.count Recorder.eviction) hp
      (Nat.le_trans hle (hb i p hp))).evict _).letGo _
  · exact hb

theorem Bounded.close (hb : w.Bounded) {i : Nat} {p : Pool} (hp : w.pool? i = some p)
    (h : Handle) : (w.close i p h).2.Bounded := by
  unfold World.close
  split
  · rename_i e p' ht
    have hle : p'.size ≤ p.size := Pool.size_take_le ht
    exact ((hb.setPool (q := p'.count Recorder.eviction) hp
      (Nat.le_trans hle (hb i p hp))).letGo _).congr rfl rfl
  · exact hb.congr rfl rfl

theorem Bounded.closeAll (hb : w.Bounded) {i : Nat} {p : Pool} (hp : w.pool? i = some p) :
    (w.closeAll i p).2.Bounded :=
  (hb.setPool (q := { p with entries := [] }) hp (Nat.zero_le _)).congr (closeAll_pools w i p)
    (config_closeAll w i p)

theorem Bounded.dropPool (hb : w.Bounded) (i : Nat) (p : Pool) : (w.dropPool i p).Bounded := by
  have h₀ : ({ w with pools := w.pools.set i none }).Bounded := by
    intro j q hj
    rw [pool?_dropPool w] at hj
    split at hj
    · cases hj
    · exact hb j q hj
  exact h₀.letGoAll _

theorem Bounded.newPool (hb : w.Bounded) (identity : Option IdentitySource) :
    ({ w with pools := w.pools ++ [some ({ identity } : Pool)] }).Bounded := by
  intro j q hj
  rcases pool?_newPool hj with hj | rfl
  · exact hb j q hj
  · exact Nat.zero_le _

theorem Bounded.act (hl : w.Ledger []) (hb : w.Bounded) (s : PoolStep) : (w.act s).2.Bounded := by
  rcases act_cases hl s with hq | ⟨i, p, t, pr, ex, name, hp, -, he⟩ |
      ⟨i, p, name, h, hp, -, ⟨-, he⟩ | ⟨-, he⟩⟩ | ⟨i, p, hp, ⟨-, he⟩ | ⟨-, he⟩⟩ | ⟨identity, -, he⟩
  · exact hb.congr hq.pools hq.config
  · rw [he]; exact hb.lookupAs hl hp t pr ex name
  · rw [he]; exact hb.remove hp h
  · rw [he]; exact hb.close hp h
  · rw [he]; exact hb.closeAll hp
  · rw [he]; exact hb.dropPool i p
  · rw [he]; exact hb.newPool identity

/-- In every reachable world, every live pool has at most `maxCacheSize` entries. -/
theorem bounded_of_reachable (hw : w.Reachable) : w.Bounded := by
  refine hw.induction_quiet (fun config kind identity answers => ?_)
    (fun w s hw ih => ih.act (ledger_of_reachable hw) s) (fun _ _ _ hq ih => ih.congr hq.pools hq.config)
  -- a new world's only pool is empty
  intro j p hj
  unfold pool? World.create at hj
  cases j with
  | zero =>
    simp only [List.getElem?_cons_zero, Option.join_some, Option.some.injEq] at hj
    rw [← hj]
    exact Nat.zero_le _
  | succ j => simp at hj

end Bounding

/-! ## Refusals -/

/-- `w'` is `w` with pool `i` in the state `q`, and the same resources, grace queue and
configuration, with no new registration: only the tracker's notices and who holds handles may
differ besides. -/
structure Tidied (i : Nat) (q : Pool) (w w' : World) : Prop where
  pool : ∀ j, w'.pool? j = if j = i then some q else w.pool? j
  resources : w'.backend.resources = w.backend.resources
  grace : w'.grace = w.grace
  nextId : w'.orphans.nextId = w.orphans.nextId
  config : w'.config = w.config

section Refusing

variable {w w₁ : World} {i : Nat} {p q q' : Pool}

theorem Tidied.self (hp : w.pool? i = some p) : Tidied i p w w := by
  refine ⟨fun j => ?_, rfl, rfl, rfl, rfl⟩
  by_cases hj : j = i
  · rw [if_pos hj, hj, hp]
  · rw [if_neg hj]

theorem Tidied.trans {w₂ : World} (h₁ : Tidied i q w w₁) (h₂ : Tidied i q' w₁ w₂) :
    Tidied i q' w w₂ := by
  refine ⟨fun j => ?_, h₂.resources.trans h₁.resources, h₂.grace.trans h₁.grace,
    h₂.nextId.trans h₁.nextId, h₂.config.trans h₁.config⟩
  rw [h₂.pool j, h₁.pool j]
  by_cases hj : j = i <;> simp [hj]

theorem tidied_setPool (hp : w.pool? i = some p) (q : Pool) : Tidied i q w (w.setPool i q) :=
  ⟨pool?_setPool w hp q, rfl, rfl, rfl, rfl⟩

/-- Letting go of a handle on a closed resource closes nothing and registers nothing. -/
theorem Tidied.letGo (h : Tidied i q w w₁) {hd : Handle}
    (hcl : w₁.backend.resources.isClosed hd.serial = true) : Tidied i q w (w₁.letGo hd) := by
  refine ⟨fun j => ?_, (resources_letGo_of_isClosed w₁ hcl).trans h.resources,
    (letGo_grace w₁ hd).trans h.grace, (nextId_letGo w₁ hd).trans h.nextId,
    (config_letGo w₁ hd).trans h.config⟩
  rw [← h.pool j]
  unfold pool?
  rw [letGo_pools]

theorem Tidied.letGoAll (h : Tidied i q w w₁) {hs : List Handle}
    (hcl : ∀ hd ∈ hs, w₁.backend.resources.isClosed hd.serial = true) :
    Tidied i q w (w₁.letGoAll hs) := by
  induction hs generalizing w₁ with
  | nil => exact h
  | cons hd hs ih =>
    rw [letGoAll_cons]
    have h₁ := h.letGo (hcl hd List.mem_cons_self)
    refine ih h₁ fun hd' hh => ?_
    rw [h₁.resources, ← h.resources]
    exact hcl hd' (List.mem_cons_of_mem _ hh)

/-- Without an open entry under the key, the discard leaves no entry under it and only takes out
an entry on a closed resource. -/
theorem discardClosed_tidied {D : List Handle} (hl : w.Ledger D) (hp : w.pool? i = some p)
    {k : CacheKey} (hno : ∀ e ∈ p.entries, e.key = k → w.backend.resources.Shut e.handle.serial) :
    Tidied i (w.discardClosed i p k).1 w (w.discardClosed i p k).2 ∧
      (w.discardClosed i p k).1.find? k = none ∧
      w.openEntries (w.discardClosed i p k).1 = w.openEntries p ∧
      (w.discardClosed i p k).1 = { p with entries := (w.discardClosed i p k).1.entries } := by
  unfold World.discardClosed
  split
  · rename_i e hf
    obtain ⟨he, hek⟩ := Pool.find?_spec hf
    have hcl : w.backend.resources.isClosed e.handle.serial = true :=
      Resources.isClosed_of_shut hl.numbered (hno e he hek)
    rw [if_pos hcl]
    refine ⟨(tidied_setPool hp _).letGo hcl, Pool.find?_erase p k, ?_, rfl⟩
    -- what the erase takes out is on closed resources
    unfold openEntries Pool.erase
    rw [List.filter_filter]
    apply List.filter_congr
    intro e' he'
    by_cases hk' : e'.key = k
    · have := Resources.isClosed_of_shut hl.numbered (hno e' he' hk')
      simp [hk', this]
    · simp [hk']
  · rename_i hf
    exact ⟨Tidied.self hp, hf, rfl, rfl⟩

/-- A purge keeps the open entries, and only lets go of handles on closed resources. -/
theorem purge_tidied (hp : w.pool? i = some p) :
    Tidied i (w.purge i p).1 w (w.purge i p).2 ∧ (w.purge i p).1 = { p with entries := w.openEntries p } := by
  refine ⟨?_, rfl⟩
  unfold World.purge
  dsimp only
  refine (tidied_setPool hp _).letGoAll fun hd hh => ?_
  obtain ⟨e, he, rfl⟩ := List.mem_map.1 hh
  exact (List.mem_filter.1 he).2

theorem openHandle_not_full (j : Nat) (p : Pool) (key : CacheKey) (t : Target) (creds : TokenSet)
    (m : Nat) : (w.openHandle j p key t creds).1 ≠ .error (.cacheFull m) := by
  unfold World.openHandle
  split
  · intro h
    cases h
  · generalize w.orphans.register = ro
    obtain ⟨reg, o⟩ := ro
    intro h
    cases h

/-- A lookup at a key without an open entry is refused for capacity exactly when the open entries
of its pool fill it; the refusal only tidies the pool and counts it. -/
theorem lookup_refusal {D : List Handle} (hl : w.Ledger D) (hp : w.pool? i = some p) {t : Target}
    {pr : Principal} {u : Nat} {k : CacheKey} {c : TokenSet}
    (hk : CacheKey.derive t pr u = .ok k) (hc : credentialTokens pr = .ok c)
    (hno : ∀ e ∈ p.entries, e.key = k → w.backend.resources.Shut e.handle.serial) :
    ((∃ m, (w.lookup i p t pr u).1 = .error (.cacheFull m)) ↔
      w.config.maxCacheSize ≤ (w.openEntries p).length) ∧
    ∀ m, (w.lookup i p t pr u).1 = .error (.cacheFull m) →
      m = w.config.maxCacheSize ∧
      Tidied i ({ p with entries := w.openEntries p }.count Recorder.capacityRejection) w
        (w.lookup i p t pr u).2 := by
  obtain ⟨htd, hnone, hopen, hshape⟩ := discardClosed_tidied hl hp hno
  simp only [World.lookup, hk, hc]
  generalize w.discardClosed i p k = d at htd hnone hopen hshape
  obtain ⟨p₁, w₁⟩ := d
  dsimp only at htd hnone hopen hshape ⊢
  rw [hnone]
  dsimp only
  have hp₁ : w₁.pool? i = some p₁ := by rw [htd.pool i, if_pos rfl]
  -- the open entries, as the lookup sees them, are those of `p`
  have hopen₁ : w₁.openEntries p₁ = w.openEntries p := by
    unfold openEntries
    rw [htd.resources]
    exact hopen
  have hle : (w.openEntries p).length ≤ p₁.size := by
    rw [← hopen]
    exact List.length_filter_le _ _
  rw [htd.config]
  by_cases hfull : w.config.maxCacheSize ≤ p₁.size
  · obtain ⟨htd₂, hshape₂⟩ := purge_tidied hp₁
    rw [if_pos hfull]
    generalize w₁.purge i p₁ = d at htd₂ hshape₂
    obtain ⟨p₂, w₂⟩ := d
    dsimp only at htd₂ hshape₂ ⊢
    have hp₂ : w₂.pool? i = some p₂ := by rw [htd₂.pool i, if_pos rfl]
    -- after the purge the pool is `p`'s open entries
    have hpool : p₂ = { p with entries := w.openEntries p } := by
      rw [hshape₂, hopen₁, hshape]
    rw [htd₂.config, htd.config, hpool]
    have hsize : ({ p with entries := w.openEntries p } : Pool).size = (w.openEntries p).length := rfl
    rw [hsize]
    by_cases hroom : w.config.maxCacheSize ≤ (w.openEntries p).length
    · rw [if_pos hroom]
      refine ⟨iff_of_true ⟨_, rfl⟩ hroom, fun m hm => ⟨?_, ?_⟩⟩
      · cases hm
        rfl
      · rw [← hpool]
        exact (htd.trans htd₂).trans (tidied_setPool hp₂ _)
    · rw [if_neg hroom]
      refine ⟨iff_of_false (fun h => h.elim fun m hm => openHandle_not_full _ _ _ _ _ m hm) hroom,
        fun m hm => absurd hm (openHandle_not_full _ _ _ _ _ m)⟩
  · rw [if_neg hfull]
    dsimp only
    rw [htd.config, if_neg hfull]
    have hroom : ¬ w.config.maxCacheSize ≤ (w.openEntries p).length := fun h =>
      hfull (Nat.le_trans h hle)
    exact ⟨iff_of_false (fun h => h.elim fun m hm => openHandle_not_full _ _ _ _ _ m hm) hroom,
      fun m hm => absurd hm (openHandle_not_full _ _ _ _ _ m)⟩

/-- A lookup at a key with an open entry is a hit or a rotation: never refused for capacity. -/
theorem lookup_not_full {D : List Handle} (hl : w.Ledger D) (hp : w.pool? i = some p)
    {e : Entry} (he : e ∈ p.entries) (hopen : ¬ w.backend.resources.Shut e.handle.serial)
    {t : Target} {pr : Principal} {u : Nat} {c : TokenSet}
    (hk : CacheKey.derive t pr u = .ok e.key) (hc : credentialTokens pr = .ok c) (m : Nat) :
    (w.lookup i p t pr u).1 ≠ .error (.cacheFull m) := by
  have hs : w.Stands i e := ⟨⟨p, hp, he⟩, hopen⟩
  obtain ⟨-, hmem⟩ := hs.discardClosed hl hp e.key
  simp only [World.lookup, hk, hc]
  generalize w.discardClosed i p e.key = d at hmem
  obtain ⟨p₁, w₁⟩ := d
  dsimp only at hmem ⊢
  -- the entry is still there, so the key is found
  cases hf : p₁.find? e.key with
  | none => exact absurd (by simp) (List.find?_eq_none.1 hf e (hmem rfl))
  | some e' =>
    dsimp only
    split
    · exact openHandle_not_full _ _ _ _ _ m
    · intro h
      cases h

theorem answerLookup_failed {j : Nat} {t : Target} {pr : Principal} {u : Nat}
    {name : Option String} {err : Error} :
    (w.answerLookup j p t pr u name).1 = .failed err ↔ (w.lookup j p t pr u).1 = .error err := by
  unfold answerLookup
  generalize w.lookup j p t pr u = l
  obtain ⟨r, w₁⟩ := l
  cases r with
  | error e =>
    constructor
    · intro h
      cases h
      rfl
    · intro h
      cases h
      rfl
  | ok h =>
    constructor
    · intro h'
      cases h'
    · intro h'
      cases h'

theorem answerLookup_of_error {j : Nat} {t : Target} {pr : Principal} {u : Nat}
    {name : Option String} {err : Error} (h : (w.lookup j p t pr u).1 = .error err) :
    (w.answerLookup j p t pr u name).2 = (w.lookup j p t pr u).2 := by
  unfold answerLookup
  generalize w.lookup j p t pr u = l at h ⊢
  obtain ⟨r, w₁⟩ := l
  dsimp only at h
  rw [h]

/-- A session's lookup at a key without an open entry, shared or exclusive, is refused for
capacity exactly when the open entries of its pool fill it; the refusal only tidies the pool
(drawn, for an exclusive lookup) and counts it. -/
theorem lookupAs_refusal {D : List Handle} (hl : w.Ledger D) (hp : w.pool? i = some p)
    {t : Target} {pr : Principal} {ex : Bool} {name : Option String} {k : CacheKey}
    {c : TokenSet} (hk : CacheKey.derive t pr (if ex then p.nextUnique.toNat else 0) = .ok k)
    (hc : credentialTokens pr = .ok c)
    (hno : ∀ e ∈ p.entries, e.key = k → w.backend.resources.Shut e.handle.serial) :
    ((∃ m, (w.lookupAs i p t pr ex name).1 = .failed (.cacheFull m)) ↔
      w.config.maxCacheSize ≤ (w.openEntries p).length) ∧
    ∀ m, (w.lookupAs i p t pr ex name).1 = .failed (.cacheFull m) →
      m = w.config.maxCacheSize ∧
      Tidied i ({ (if ex then p.drawUnique.2 else p) with entries := w.openEntries p }.count
        Recorder.capacityRejection) w (w.lookupAs i p t pr ex name).2 := by
  -- the lookup runs in `w` with pool `i` as drawn, which has the entries of `p`
  have answer : ∀ {w₀ : World} {p₀ : Pool}, w₀.Ledger D → w₀.pool? i = some p₀ →
      Tidied i p₀ w w₀ → p₀.entries = p.entries → ∀ u, CacheKey.derive t pr u = .ok k →
      ((∃ m, (w₀.answerLookup i p₀ t pr u name).1 = .failed (.cacheFull m)) ↔
        w.config.maxCacheSize ≤ (w.openEntries p).length) ∧
      ∀ m, (w₀.answerLookup i p₀ t pr u name).1 = .failed (.cacheFull m) →
        m = w.config.maxCacheSize ∧
        Tidied i ({ p₀ with entries := w.openEntries p }.count Recorder.capacityRejection) w
          (w₀.answerLookup i p₀ t pr u name).2 := by
    intro w₀ p₀ hl₀ hp₀ htd hen u hku
    have hopen : w₀.openEntries p₀ = w.openEntries p := by
      unfold openEntries
      rw [htd.resources, hen]
    have hno₀ : ∀ e ∈ p₀.entries, e.key = k → w₀.backend.resources.Shut e.handle.serial := by
      rw [htd.resources, hen]
      exact hno
    obtain ⟨hiff, hfail⟩ := lookup_refusal hl₀ hp₀ hku hc hno₀
    rw [hopen, htd.config] at hiff hfail
    refine ⟨?_, fun m hm => ?_⟩
    · simp only [answerLookup_failed]
      exact hiff
    · have hm' := answerLookup_failed.1 hm
      obtain ⟨hmax, htd'⟩ := hfail m hm'
      rw [answerLookup_of_error hm']
      exact ⟨hmax, htd.trans htd'⟩
  cases ex with
  | true =>
    rw [lookupAs_true]
    simp only [if_true] at hk ⊢
    exact answer (hl.setPool_entries (q := p.drawUnique.2) hp rfl)
      (by rw [pool?_setPool w hp, if_pos rfl]) (tidied_setPool hp _) rfl _ hk
  | false =>
    rw [lookupAs_false]
    simp only [Bool.false_eq_true, if_false] at hk ⊢
    exact answer hl hp (Tidied.self hp) rfl 0 hk

end Refusing

/-! ## Capacity -/

/-- The capacity of a pool. In every reachable world each live pool has at most
`maxCacheSize` entries, on open or closed resources. A lookup whose principal has a key and
credentials, at a key without an open entry, is refused with `cacheFull maxCacheSize` exactly
when the open entries of the pool number `maxCacheSize` or more; a refusal opens no resource,
registers no handle, leaves the resources, the grace queue and the other pools as they were,
and leaves the pool with its open entries only, one more capacity rejection counted. A lookup at
a key with an open entry is never refused for capacity. -/
theorem pool_capacity {w : World} (hw : w.Reachable) :
    (∀ j p, w.pool? j = some p → p.size ≤ w.config.maxCacheSize) ∧
    ∀ i p t pr ex name k c, w.pool? i = some p →
      CacheKey.derive t pr (if ex then p.nextUnique.toNat else 0) = .ok k →
      credentialTokens pr = .ok c →
      ((∀ e ∈ p.entries, e.key = k → w.backend.resources.Shut e.handle.serial) →
        ((∃ m, (w.lookupAs i p t pr ex name).1 = .failed (.cacheFull m)) ↔
          w.config.maxCacheSize ≤ (w.openEntries p).length) ∧
        ∀ m, (w.lookupAs i p t pr ex name).1 = .failed (.cacheFull m) →
          m = w.config.maxCacheSize ∧
          Tidied i ({ (if ex then p.drawUnique.2 else p) with entries := w.openEntries p }.count
            Recorder.capacityRejection) w (w.lookupAs i p t pr ex name).2) ∧
      ((∃ e ∈ p.entries, e.key = k ∧ ¬ w.backend.resources.Shut e.handle.serial) →
        ∀ m, (w.lookupAs i p t pr ex name).1 ≠ .failed (.cacheFull m)) := by
  have hl := ledger_of_reachable hw
  refine ⟨bounded_of_reachable hw, fun i p t pr ex name k c hp hk hc => ⟨fun hno =>
    lookupAs_refusal hl hp hk hc hno, ?_⟩⟩
  rintro ⟨e, he, rfl, hopen⟩ m hm
  -- the lookup runs in `w` with pool `i` as drawn, where the entry still stands
  unfold World.lookupAs at hm
  cases ex with
  | true =>
    simp only [if_true] at hk hm
    dsimp only [Pool.drawUnique] at hm
    have hl₁ := hl.setPool_entries (q := p.drawUnique.2) hp rfl
    have hp₁ : (w.setPool i p.drawUnique.2).pool? i = some p.drawUnique.2 := by
      rw [pool?_setPool w hp, if_pos rfl]
    exact lookup_not_full hl₁ hp₁ he hopen hk hc m (answerLookup_failed.1 hm)
  | false =>
    simp only [Bool.false_eq_true, if_false] at hk hm
    exact lookup_not_full hl hp he hopen hk hc m (answerLookup_failed.1 hm)

/-- Capacity in a pool with room for one entry, after a first lookup. -/
theorem pool_capacity_after_get :
    ((World.create { maxCacheSize := 1 } .manual none).act
      (.get 0 "hdfs://nn1" (.direct "a" .simple .empty) false none)).2.Reachable ∧
    let w := ((World.create { maxCacheSize := 1 } .manual none).act
      (.get 0 "hdfs://nn1" (.direct "a" .simple .empty) false none)).2
    (∀ j p, w.pool? j = some p → p.size ≤ w.config.maxCacheSize) ∧
    ∀ i p t pr ex name k c, w.pool? i = some p →
      CacheKey.derive t pr (if ex then p.nextUnique.toNat else 0) = .ok k →
      credentialTokens pr = .ok c →
      ((∀ e ∈ p.entries, e.key = k → w.backend.resources.Shut e.handle.serial) →
        ((∃ m, (w.lookupAs i p t pr ex name).1 = .failed (.cacheFull m)) ↔
          w.config.maxCacheSize ≤ (w.openEntries p).length) ∧
        ∀ m, (w.lookupAs i p t pr ex name).1 = .failed (.cacheFull m) →
          m = w.config.maxCacheSize ∧
          Tidied i ({ (if ex then p.drawUnique.2 else p) with entries := w.openEntries p }.count
            Recorder.capacityRejection) w (w.lookupAs i p t pr ex name).2) ∧
      ((∃ e ∈ p.entries, e.key = k ∧ ¬ w.backend.resources.Shut e.handle.serial) →
        ∀ m, (w.lookupAs i p t pr ex name).1 ≠ .failed (.cacheFull m)) := by
  have hw := (Reachable.create { maxCacheSize := 1 } .manual none .switched).act
    (.get 0 "hdfs://nn1" (.direct "a" .simple .empty) false none)
  exact ⟨hw, pool_capacity hw⟩

/-- A full pool does not refuse a principal without credentials for capacity: with one open
entry in a pool of size one, a lookup at another key by a proxy whose real user signs in with a
token fails on its credentials. -/
theorem full_pool_reports_credentials_first :
    let w := ((World.create { maxCacheSize := 1 } .manual none).act
      (.get 0 "hdfs://nn1" (.direct "a" .simple .empty) false none)).2
    (w.pool? 0).map (fun p => (w.openEntries p).length) = some 1 ∧
    (w.act (.get 0 "hdfs://nn2" (.proxy "alice" .empty (.direct "svc" .token .empty))
      false none)).1 = .failed (.unsupportedAuthMethod "TOKEN") :=
  ⟨rfl, rfl⟩

end World

end HandlePool
