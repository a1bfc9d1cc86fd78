import HandlePool.Proofs.Steps
/-!
# Entries move one way

A resource enters the pools once: the lookup that opens it adds its entry to the pool it was
opened for, under the key it was opened for. From then on the entry stays as it is until it
leaves its pool (rotated out, removed, closed, purged as closed, discarded as closed,
bulk-closed or dropped with the pool), and once it has left, no pool has the resource again.

Every step but a lookup and a remove only takes entries away (`Shrinks`). A lookup adds at most
one entry, on a resource it has just opened; a rotation and a remove hand the resource of the
entry they take out to the grace queue (`OneStep`). So the grace queue gains only resources
that were in a pool a moment before, none of which it holds already: no resource waits in it
twice, and one that has left it never comes back.

* `OneWay`: between a world and any later one, entries on resources that existed already were
  entries before, in the same pool, and the grace queue gained only resources that were in a
  pool or opened since (`oneWay_moves`).
* `grace_nodup_of_reachable`: no resource waits twice in the grace queue.
* `lookupAs_lease_cases`: a lookup answers the handle of an entry of its pool, or a handle on a
  resource it has just opened and added to its pool under the lookup's key.
* `remove_true_iff`, `uncached_remove`: a remove answers true exactly when its pool has an entry
  on the handle's resource, and then no pool has the resource any more.
* `entries_move_one_way`: the whole lifecycle, in every reachable world and along every run.
-/

namespace HandlePool

namespace World

open Backend

/-! ## What the world operations change -/

section Parts

variable (w : World)

theorem letGo_grace (h : Handle) : (w.letGo h).grace = w.grace := by
  obtain ⟨o, b, he⟩ := letGo_shape w h
  rw [he]

theorem letGoAll_grace (hs : List Handle) : (w.letGoAll hs).grace = w.grace := by
  obtain ⟨o, b, he⟩ := letGoAll_shape w hs
  rw [he]

theorem length_letGo (h : Handle) :
    (w.letGo h).backend.resources.length = w.backend.resources.length := by
  unfold letGo
  split
  · rfl
  · rw [withOrphans_eq]
    exact (Orphans.rel_post Backend.cleanup Steady Steady.refl steady_cleanup _ _).2

theorem length_letGoAll (hs : List Handle) :
    (w.letGoAll hs).backend.resources.length = w.backend.resources.length := by
  induction hs generalizing w with
  | nil => rfl
  | cons h hs ih => rw [letGoAll_cons, ih, length_letGo]

theorem length_evict (n : Nat) :
    (w.evict n).backend.resources.length = w.backend.resources.length := by
  rw [evict, withGrace_eq]
  exact (GraceQueue.rel_enqueue Backend.close Steady Steady.refl Steady.trans steady_close n
    w.clock.elapsed (w.grace, w.backend)).2

theorem evict_grace (n : Nat) :
    (w.evict n).grace.queue.Sublist (w.grace.queue ++ [⟨n, w.clock.elapsed⟩]) :=
  GraceQueue.sublist_enqueue Backend.close n w.clock.elapsed (w.grace, w.backend)

theorem hold_parts (name : String) (h : Handle) :
    (w.hold name h).pools = w.pools ∧ (w.hold name h).grace = w.grace ∧
      (w.hold name h).backend.resources.length = w.backend.resources.length := by
  unfold hold
  cases w.held.bind name h with
  | mk held old =>
    cases old with
    | none => exact ⟨rfl, rfl, rfl⟩
    | some o => exact ⟨letGo_pools _ o, letGo_grace _ o, length_letGo _ o⟩

end Parts

/-! ## Steps that only take entries away -/

/-- `w'` has no entry that `w` lacks, the same grace queue, and no new resource. -/
structure Shrinks (w w' : World) : Prop where
  cached : ∀ j e, w'.CachedAt j e → w.CachedAt j e
  grace : w'.grace.queue = w.grace.queue
  opened : w'.backend.resources.length = w.backend.resources.length

section Shrinking

variable {w : World}

theorem Shrinks.refl (w : World) : Shrinks w w := ⟨fun _ _ h => h, rfl, rfl⟩

theorem Shrinks.trans {w₁ w₂ : World} (h₁ : Shrinks w w₁) (h₂ : Shrinks w₁ w₂) : Shrinks w w₂ :=
  ⟨fun j e he => h₁.cached j e (h₂.cached j e he), h₂.grace.trans h₁.grace,
    h₂.opened.trans h₁.opened⟩

theorem Shrinks.of_pools {w' : World} (hp : w'.pools = w.pools) (hg : w'.grace = w.grace)
    (hl : w'.backend.resources.length = w.backend.resources.length) : Shrinks w w' :=
  ⟨fun j e he => (cachedAt_congr hp j e).1 he, by rw [hg], hl⟩

theorem shrinks_letGo (h : Handle) : Shrinks w (w.letGo h) :=
  .of_pools (letGo_pools w h) (letGo_grace w h) (length_letGo w h)

theorem shrinks_letGoAll (hs : List Handle) : Shrinks w (w.letGoAll hs) :=
  .of_pools (letGoAll_pools w hs) (letGoAll_grace w hs) (length_letGoAll w hs)

theorem shrinks_hold (name : String) (h : Handle) : Shrinks w (w.hold name h) :=
  .of_pools (hold_parts w name h).1 (hold_parts w name h).2.1 (hold_parts w name h).2.2

theorem shrinks_closeResource (n : Nat) : Shrinks w (w.closeResource n).2 :=
  .of_pools rfl rfl (Resources.length_closeOnce _ _ _)

theorem shrinks_setPool {i : Nat} {p q : Pool} (hp : w.pool? i = some p)
    (hsub : ∀ e ∈ q.entries, e ∈ p.entries) : Shrinks w (w.setPool i q) := by
  refine ⟨fun j e he => ?_, rfl, rfl⟩
  rcases (cachedAt_setPool hp q j e).1 he with ⟨rfl, hq⟩ | ⟨-, hc⟩
  · exact ⟨p, hp, hsub e hq⟩
  · exact hc

/-- Discarding the closed entry under a key only takes that entry away; the pool it answers is
the live one, with entries of the pool it was given. -/
theorem shrinks_discardClosed {i : Nat} {p : Pool} (hp : w.pool? i = some p) (key : CacheKey) :
    Shrinks w (w.discardClosed i p key).2 ∧
      (w.discardClosed i p key).2.pool? i = some (w.discardClosed i p key).1 ∧
      ∀ e ∈ (w.discardClosed i p key).1.entries, e ∈ p.entries := by
  unfold discardClosed
  split
  · rename_i e hf
    split
    · have hsub : ∀ e' ∈ (p.erase key).entries, e' ∈ p.entries := fun _ he' => (List.mem_filter.1 he').1
      refine ⟨(shrinks_setPool hp hsub).trans (shrinks_letGo _), ?_, hsub⟩
      rw [pool?, letGo_pools, ← pool?, pool?_setPool w hp, if_pos rfl]
    · exact ⟨Shrinks.refl w, hp, fun _ he => he⟩
  · exact ⟨Shrinks.refl w, hp, fun _ he => he⟩

/-- Purging the entries on closed resources only takes entries away. -/
theorem shrinks_purge {i : Nat} {p : Pool} (hp : w.pool? i = some p) :
    Shrinks w (w.purge i p).2 ∧ (w.purge i p).2.pool? i = some (w.purge i p).1 ∧
      ∀ e ∈ (w.purge i p).1.entries, e ∈ p.entries := by
  unfold purge
  dsimp only
  have hsub : ∀ e ∈ (p.entries.filter fun e => !w.backend.resources.isClosed e.handle.serial),
      e ∈ p.entries := fun _ he => (List.mem_filter.1 he).1
  refine ⟨(shrinks_setPool hp hsub).trans (shrinks_letGoAll _), ?_, hsub⟩
  rw [pool?, letGoAll_pools, ← pool?, pool?_setPool w hp, if_pos rfl]

theorem shrinks_closeAll {i : Nat} {p : Pool} (hp : w.pool? i = some p) :
    Shrinks w (w.closeAll i p).2 :=
  -- each entry in turn: its resource is closed, or not once a close has panicked, then its
  -- handle let go
  w.closeEntries_induction (fun _ w' => Shrinks w w') i p p.entries
    (fun _ _ w' h => h.trans (shrinks_closeResource _)) (fun _ _ w' h => h.trans (shrinks_letGo _))
    (shrinks_setPool hp fun _ he => by cases he)

theorem shrinks_dropPool (i : Nat) (p : Pool) : Shrinks w (w.dropPool i p) := by
  have h₀ : Shrinks w { w with pools := w.pools.set i none } :=
    ⟨fun j e he => ((cachedAt_dropPool i j e).1 he).2, rfl, rfl⟩
  exact h₀.trans (shrinks_letGoAll _)

theorem shrinks_newPool (identity : Option IdentitySource) :
    Shrinks w { w with pools := w.pools ++ [some { identity }] } := by
  refine ⟨fun j e he => ?_, rfl, rfl⟩
  obtain ⟨p, hp, he⟩ := he
  rcases pool?_newPool hp with hp | rfl
  · exact ⟨p, hp, he⟩
  · cases he

end Shrinking

/-! ## One step -/

/-- How one step may change the pools and the grace queue: no resource is unopened; an entry
on a resource that existed before was an entry before, in the same pool; and the grace queue
keeps its order and loses entries, but may gain, last, the resource of an entry that was in a
pool before the step. -/
structure OneStep (w w' : World) : Prop where
  opened : w.backend.resources.length ≤ w'.backend.resources.length
  cached : ∀ j e, w'.CachedAt j e → w.Issued e.handle.serial → w.CachedAt j e
  grace : w'.grace.queue.Sublist w.grace.queue ∨ ∃ g, w'.grace.queue.Sublist (w.grace.queue ++ [g]) ∧
    ∃ j e, w.CachedAt j e ∧ e.handle.serial = g.serial

section Stepping

variable {w : World}

theorem Shrinks.oneStep {w' : World} (h : Shrinks w w') : OneStep w w' :=
  ⟨Nat.le_of_eq h.opened.symm, fun j e he _ => h.cached j e he,
    Or.inl (h.grace ▸ List.Sublist.refl _)⟩

theorem OneStep.of_quiet {w' : World} (h : Quiet w w') : OneStep w w' :=
  ⟨Nat.le_of_eq h.backend.1.symm, fun j e he _ => (cachedAt_congr h.pools j e).1 he, Or.inl h.grace⟩

/-- A step that first only takes entries away. -/
theorem OneStep.shrink_trans {w₁ w₂ : World} (h₁ : Shrinks w w₁) (h₂ : OneStep w₁ w₂) :
    OneStep w w₂ := by
  have hiss : ∀ n, w.Issued n → w₁.Issued n := fun n hn => by
    simpa only [Issued, h₁.opened] using hn
  refine ⟨h₁.opened ▸ h₂.opened, fun j e he hi => h₁.cached j e (h₂.cached j e he (hiss _ hi)), ?_⟩
  rcases h₂.grace with hs | ⟨g, hs, j, e, he, hse⟩
  · exact Or.inl (h₁.grace ▸ hs)
  · exact Or.inr ⟨g, h₁.grace ▸ hs, j, e, h₁.cached j e he, hse⟩

/-- A step that then gains no grace entry. -/
theorem OneStep.trans {w₁ w₂ : World} (h₁ : OneStep w w₁) (h₂ : OneStep w₁ w₂)
    (hq : w₂.grace.queue.Sublist w₁.grace.queue) : OneStep w w₂ := by
  have hiss : ∀ n, w.Issued n → w₁.Issued n := fun n hn => ⟨hn.1, Nat.le_trans hn.2 h₁.opened⟩
  refine ⟨Nat.le_trans h₁.opened h₂.opened,
    fun j e he hi => h₁.cached j e (h₂.cached j e he (hiss _ hi)) hi, ?_⟩
  rcases h₁.grace with hs | ⟨g, hs, hg⟩
  · exact Or.inl (hq.trans hs)
  · exact Or.inr ⟨g, hq.trans hs, hg⟩

/-- Taking an entry out of its pool and handing its resource to the grace queue. -/
theorem OneStep.evictOut {i : Nat} {p q : Pool} {e : Entry} (hp : w.pool? i = some p)
    (he : e ∈ p.entries) (hsub : ∀ e' ∈ q.entries, e' ∈ p.entries) :
    OneStep w ((w.setPool i q).evict e.handle.serial) := by
  have hs := shrinks_setPool hp hsub
  refine ⟨Nat.le_of_eq ((length_evict _ _).trans hs.opened).symm, fun j e' he' _ => ?_,
    Or.inr ⟨_, evict_grace _ _, i, e, ⟨p, hp, he⟩, rfl⟩⟩
  exact hs.cached j e' ((cachedAt_congr (evict_pools _ _) j e').1 he')

/-- Opening a handle adds one entry, on the resource just opened. -/
theorem OneStep.openHandle {i : Nat} {p₀ p : Pool} (hp : w.pool? i = some p₀)
    (hsub : ∀ e ∈ p.entries, e ∈ p₀.entries) (key : CacheKey) (t : Target) (creds : TokenSet) :
    OneStep w (w.openHandle i p key t creds).2 ∧
      (w.openHandle i p key t creds).2.grace.queue = w.grace.queue := by
  unfold World.openHandle
  split
  · exact ⟨(shrinks_setPool (q := p.count Recorder.creationFailure) hp hsub).oneStep, rfl⟩
  · rename_i r b hopen
    obtain ⟨hr, hb⟩ := Backend.openOn_ok hopen
    generalize w.orphans.register = ro
    obtain ⟨reg, o⟩ := ro
    dsimp only
    have hp₁ : ({ w with backend := b, orphans := o }).pool? i = some p₀ := hp
    have hlen : w.backend.resources.length ≤ b.resources.length := by
      rw [hb, List.length_append]
      exact Nat.le_add_right _ _
    refine ⟨⟨hlen, fun j e he hi => ?_, Or.inl (List.Sublist.refl _)⟩, rfl⟩
    rcases (cachedAt_setPool hp₁ _ j e).1 he with ⟨rfl, hq⟩ | ⟨-, hc⟩
    · have hmem : e ∈ p.entries ++ [⟨key, ⟨r.serial, reg⟩, creds⟩] := hq
      rcases List.mem_append.1 hmem with he | he
      · exact ⟨p₀, hp, hsub e he⟩
      · -- the new entry is on the resource just opened, which did not exist before
        rw [List.mem_singleton.1 he] at hi
        have := hi.2
        simp only at this
        omega
    · exact hc

theorem oneStep_lookup {i : Nat} {p : Pool} (hp : w.pool? i = some p) (t : Target) (pr : Principal)
    (u : Nat) : OneStep w (w.lookup i p t pr u).2 := by
  unfold lookup
  split
  · exact (Shrinks.refl w).oneStep
  · exact (Shrinks.refl w).oneStep
  · rename_i key creds _ _
    obtain ⟨hd, hdp, hdsub⟩ := shrinks_discardClosed hp key
    generalize w.discardClosed i p key = d at hd hdp hdsub ⊢
    obtain ⟨p₁, w₁⟩ := d
    dsimp only at hd hdp hdsub ⊢
    refine OneStep.shrink_trans hd ?_
    split
    · rename_i e hf
      split
      · -- a rotation: the entry leaves for the grace queue and a new handle is opened
        have hsub : ∀ e' ∈ ((p₁.erase key).count Recorder.rotation).entries, e' ∈ p₁.entries :=
          fun _ he' => (List.mem_filter.1 he').1
        have hev := OneStep.evictOut hdp (Pool.find?_spec hf).1 hsub
        have hlet := shrinks_letGo (w := (w₁.setPool i ((p₁.erase key).count Recorder.rotation)).evict
          e.handle.serial) e.handle
        have hpool : (((w₁.setPool i ((p₁.erase key).count Recorder.rotation)).evict
            e.handle.serial).letGo e.handle).pool? i = some ((p₁.erase key).count Recorder.rotation) := by
          rw [pool?, letGo_pools, evict_pools, ← pool?, pool?_setPool w₁ hdp, if_pos rfl]
        obtain ⟨hopen, hq⟩ := OneStep.openHandle hpool (fun _ he => he) key t creds
        refine (hev.trans hlet.oneStep (hlet.grace ▸ List.Sublist.refl _)).trans hopen ?_
        rw [hq]
      · exact (shrinks_setPool (q := p₁.count Recorder.hit) hdp fun _ he => he).oneStep
    · -- a miss, after purging a full pool
      have hpu : Shrinks w₁ (if w₁.config.maxCacheSize ≤ p₁.size then w₁.purge i p₁ else (p₁, w₁)).2 ∧
          (if w₁.config.maxCacheSize ≤ p₁.size then w₁.purge i p₁ else (p₁, w₁)).2.pool? i =
            some (if w₁.config.maxCacheSize ≤ p₁.size then w₁.purge i p₁ else (p₁, w₁)).1 ∧
          ∀ e ∈ (if w₁.config.maxCacheSize ≤ p₁.size then w₁.purge i p₁ else (p₁, w₁)).1.entries,
            e ∈ p₁.entries := by
        split
        · exact shrinks_purge hdp
        · exact ⟨Shrinks.refl w₁, hdp, fun _ he => he⟩
      generalize (if w₁.config.maxCacheSize ≤ p₁.size then w₁.purge i p₁ else (p₁, w₁)) = d at hpu ⊢
      obtain ⟨p₂, w₂⟩ := d
      obtain ⟨hs₂, hp₂, -⟩ := hpu
      dsimp only at hs₂ hp₂ ⊢
      refine OneStep.shrink_trans hs₂ ?_
      split
      · exact (shrinks_setPool (q := p₂.count Recorder.capacityRejection) hp₂
          fun _ he => he).oneStep
      · exact (OneStep.openHandle (p := p₂.count Recorder.miss) hp₂ (fun _ he => he)
          key t creds).1

theorem oneStep_lookupAs {i : Nat} {p : Pool} (hp : w.pool? i = some p) (t : Target)
    (pr : Principal) (ex : Bool) (name : Option String) :
    OneStep w (w.lookupAs i p t pr ex name).2 := by
  -- the lookup, then holding its handle under a name, which changes no pool
  have answer : ∀ {w₁ : World} {p₁ : Pool}, w₁.pool? i = some p₁ → ∀ u,
      OneStep w₁ (w₁.answerLookup i p₁ t pr u name).2 := by
    intro w₁ p₁ hp₁ u
    unfold answerLookup
    have hlk := oneStep_lookup hp₁ t pr u
    generalize w₁.lookup i p₁ t pr u = l at hlk ⊢
    obtain ⟨r, w₂⟩ := l
    cases r with
    | error e => exact hlk
    | ok h =>
      dsimp only
      cases name with
      | none => exact hlk
      | some n =>
        have hh := shrinks_hold (w := w₂) n h
        exact hlk.trans hh.oneStep (hh.grace ▸ List.Sublist.refl _)
  cases ex with
  | true =>
    -- drawing the unique number changes the pool's counter, not its entries
    rw [lookupAs_true]
    have hsub : ∀ e ∈ p.drawUnique.2.entries, e ∈ p.entries := fun _ he => he
    have hq : (w.setPool i p.drawUnique.2).pool? i = some p.drawUnique.2 := by
      rw [pool?_setPool w hp, if_pos rfl]
    exact OneStep.shrink_trans (shrinks_setPool hp hsub) (answer hq _)
  | false =>
    rw [lookupAs_false]
    exact answer hp 0

theorem oneStep_remove {i : Nat} {p : Pool} (hp : w.pool? i = some p) (h : Handle) :
    OneStep w (w.remove i p h).2 := by
  unfold remove
  split
  · rename_i e p' ht
    obtain ⟨he, -, hq⟩ := Pool.take_spec ht
    have hsub : ∀ e' ∈ (p'.count Recorder.eviction).entries, e' ∈ p.entries := by
      intro e' he'
      have : e' ∈ p'.entries := he'
      rw [hq] at this
      exact (List.mem_filter.1 this).1
    have hlet := shrinks_letGo (w := (w.setPool i (p'.count Recorder.eviction)).evict e.handle.serial)
      e.handle
    exact (OneStep.evictOut hp he hsub).trans hlet.oneStep (hlet.grace ▸ List.Sublist.refl _)
  · exact (Shrinks.refl w).oneStep

theorem shrinks_close {i : Nat} {p : Pool} (hp : w.pool? i = some p) (h : Handle) :
    Shrinks w (w.close i p h).2 := by
  unfold close
  split
  · rename_i e p' ht
    obtain ⟨-, -, hq⟩ := Pool.take_spec ht
    have hsub : ∀ e' ∈ (p'.count Recorder.eviction).entries, e' ∈ p.entries := by
      intro e' he'
      have : e' ∈ p'.entries := he'
      rw [hq] at this
      exact (List.mem_filter.1 this).1
    exact ((shrinks_setPool hp hsub).trans (shrinks_letGo _)).trans (shrinks_closeResource _)
  · exact shrinks_closeResource _

/-- Every step changes the pools and the grace queue as `OneStep` allows. -/
theorem oneStep_act (hl : w.Ledger []) (s : PoolStep) : OneStep w (w.act s).2 := by
  rcases act_cases hl s with hq | ⟨i, p, t, pr, ex, name, hp, -, he⟩ |
      ⟨i, p, name, h, hp, -, ⟨-, he⟩ | ⟨-, he⟩⟩ | ⟨i, p, hp, ⟨-, he⟩ | ⟨-, he⟩⟩ | ⟨identity, -, he⟩
  · exact OneStep.of_quiet hq
  · rw [he]; exact oneStep_lookupAs hp t pr ex name
  · rw [he]; exact oneStep_remove hp h
  · rw [he]; exact (shrinks_close hp h).oneStep
  · rw [he]; exact (shrinks_closeAll hp).oneStep
  · rw [he]; exact (shrinks_dropPool i p).oneStep
  · rw [he]; exact (shrinks_newPool identity).oneStep

end Stepping

/-! ## Runs -/

/-- Between a world and a later one: no resource is unopened; an entry on a resource that
existed already was an entry before, in the same pool; and every grace entry was there before,
or is for a resource that was in a pool or did not exist yet. -/
structure OneWay (w w' : World) : Prop where
  opened : w.backend.resources.length ≤ w'.backend.resources.length
  cached : ∀ j e, w'.CachedAt j e → w.Issued e.handle.serial → w.CachedAt j e
  grace : ∀ g ∈ w'.grace.queue, g ∈ w.grace.queue ∨
    (∃ j e, w.CachedAt j e ∧ e.handle.serial = g.serial) ∨ ¬ w.Issued g.serial

theorem OneWay.refl (w : World) : OneWay w w :=
  ⟨Nat.le_refl _, fun _ _ he _ => he, fun _ hg => Or.inl hg⟩

theorem OneWay.trans {w₁ w₂ w₃ : World} (h₁ : OneWay w₁ w₂) (h₂ : OneWay w₂ w₃) :
    OneWay w₁ w₃ := by
  have hiss : ∀ n, w₁.Issued n → w₂.Issued n := fun n hn => ⟨hn.1, Nat.le_trans hn.2 h₁.opened⟩
  refine ⟨Nat.le_trans h₁.opened h₂.opened,
    fun j e he hi => h₁.cached j e (h₂.cached j e he (hiss _ hi)) hi, fun g hg => ?_⟩
  rcases h₂.grace g hg with hg | ⟨j, e, he, hs⟩ | hn
  · exact h₁.grace g hg
  · -- the entry was in a pool of the middle world: in the same one before, or opened since
    by_cases hi : w₁.Issued g.serial
    · exact Or.inr (Or.inl ⟨j, e, h₁.cached j e he (hs ▸ hi), hs⟩)
    · exact Or.inr (Or.inr hi)
  · exact Or.inr (Or.inr fun hi => hn (hiss _ hi))

theorem OneStep.oneWay {w w' : World} (h : OneStep w w') : OneWay w w' := by
  refine ⟨h.opened, h.cached, fun g hg => ?_⟩
  rcases h.grace with hs | ⟨g', hs, hc⟩
  · exact Or.inl (hs.subset hg)
  · rcases List.mem_append.1 (hs.subset hg) with hg | hg
    · exact Or.inl hg
    · rw [List.mem_singleton.1 hg]
      exact Or.inr (Or.inl hc)

theorem oneStep_move {ok : World → PoolStep → Prop} {w w' : World} (hl : w.Ledger [])
    (hm : Move ok w w') : OneStep w w' := by
  rcases hm.act_or_worker with ⟨s, -, rfl⟩ | hw
  · exact oneStep_act hl s
  · exact OneStep.of_quiet (hw.quiet hl)

theorem oneWay_moves {ok : World → PoolStep → Prop} {w w' : World} (hl : w.Ledger [])
    (hr : Relation.ReflTransGen (Move ok) w w') : OneWay w w' := by
  induction hr with
  | refl => exact OneWay.refl w
  | tail hr hm ih => exact ih.trans (oneStep_move (ledger_moves hl hr) hm).oneWay

/-- A resource that has left the pools never comes back to one. -/
theorem OneWay.uncached {w w' : World} (h : OneWay w w') {n : Nat} (hi : w.Issued n)
    (hu : w.Uncached n) : w'.Uncached n :=
  fun j e he hs => hu j e (h.cached j e he (hs ▸ hi)) hs

/-! ## No resource waits twice -/

/-- A step keeps the grace queue free of repeats: what it gains was in a pool, and so not in
the queue. -/
theorem OneStep.grace_nodup {w w' : World} (hl : w.Ledger []) (h : OneStep w w')
    (hn : (w.grace.queue.map (·.serial)).Nodup) : (w'.grace.queue.map (·.serial)).Nodup := by
  rcases h.grace with hs | ⟨g, hs, j, e, he, hse⟩
  · exact hn.sublist (hs.map _)
  · refine List.Nodup.sublist (hs.map _) ?_
    rw [List.map_append, List.nodup_append]
    refine ⟨hn, List.nodup_singleton _, ?_⟩
    intro a ha b hb hab
    obtain ⟨g', hg', rfl⟩ := List.mem_map.1 ha
    rw [List.map_singleton, List.mem_singleton] at hb
    subst hb
    exact hl.uncached_grace hg' j e he (hse.trans hab.symm)

theorem grace_nodup_of_reachable {w : World} (hw : w.Reachable) :
    (w.grace.queue.map (·.serial)).Nodup :=
  -- a new world's queue is empty, and every step and every quiet move takes one step at most
  hw.induction_quiet (fun _ _ _ _ => List.nodup_nil)
    (fun w s hw ih => (oneStep_act (ledger_of_reachable hw) s).grace_nodup (ledger_of_reachable hw) ih)
    (fun _ _ hw hq ih => (OneStep.of_quiet hq).grace_nodup (ledger_of_reachable hw) ih)

/-! ## What lookups answer and removes take -/

section Answers

variable {w : World}

/-- A handle that opening answers is on a resource that did not exist before, and its entry is
in the pool under the key it was opened for. -/
theorem openHandle_ok {i : Nat} {p₀ p : Pool} (hp : w.pool? i = some p₀) {key : CacheKey}
    {t : Target} {creds : TokenSet} {hd : Handle} (h : (w.openHandle i p key t creds).1 = .ok hd) :
    w.backend.resources.length < hd.serial ∧
      (w.openHandle i p key t creds).2.CachedAt i ⟨key, hd, creds⟩ := by
  unfold World.openHandle at h ⊢
  split at h
  · cases h
  · rename_i r b hopen
    obtain ⟨hr, -⟩ := Backend.openOn_ok hopen
    generalize w.orphans.register = ro at h ⊢
    obtain ⟨reg, o⟩ := ro
    dsimp only at h ⊢
    cases h
    have hp₁ : ({ w with backend := b, orphans := o }).pool? i = some p₀ := hp
    refine ⟨by simp only [hr]; omega, (cachedAt_setPool hp₁ _ i _).2 (Or.inl ⟨rfl, ?_⟩)⟩
    exact List.mem_append_right _ (List.mem_singleton_self _)

/-- A lookup answers the handle of an entry of its pool under the lookup's key, or a handle on
a resource it has just opened, whose entry it added to its pool under that key. -/
theorem lookup_ok_cases {i : Nat} {p : Pool} (hp : w.pool? i = some p) {t : Target}
    {pr : Principal} {u : Nat} {hd : Handle} (h : (w.lookup i p t pr u).1 = .ok hd) :
    (∃ e ∈ p.entries, CacheKey.derive t pr u = .ok e.key ∧ e.handle = hd) ∨
      (w.backend.resources.length < hd.serial ∧
      ∃ k c, CacheKey.derive t pr u = .ok k ∧ credentialTokens pr = .ok c ∧
        (w.lookup i p t pr u).2.CachedAt i ⟨k, hd, c⟩) := by
  rcases hk : CacheKey.derive t pr u with err | key
  · simp only [lookup, hk] at h
    cases h
  rcases hc : credentialTokens pr with err | creds
  · simp only [lookup, hk, hc] at h
    cases h
  suffices (∃ e ∈ p.entries, e.key = key ∧ e.handle = hd) ∨
      (w.backend.resources.length < hd.serial ∧
        (w.lookup i p t pr u).2.CachedAt i ⟨key, hd, creds⟩) from
    this.imp (fun ⟨e, he, hek, hh⟩ => ⟨e, he, hek ▸ rfl, hh⟩)
      fun ⟨hl, hin⟩ => ⟨hl, key, creds, rfl, rfl, hin⟩
  simp only [lookup, hk, hc] at h ⊢
  obtain ⟨hd₀, hdp, hdsub⟩ := shrinks_discardClosed hp key
  generalize w.discardClosed i p key = d at hd₀ hdp hdsub h ⊢
  obtain ⟨p₁, w₁⟩ := d
  dsimp only at hd₀ hdp hdsub h ⊢
  rw [← hd₀.opened]
  split at h
  · rename_i e hf
    split at h
    · -- a rotation opens the handle, in the pool without the rotated entry
      rename_i hrot
      rw [if_pos hrot]
      have hpool : (((w₁.setPool i ((p₁.erase key).count Recorder.rotation)).evict
          e.handle.serial).letGo e.handle).pool? i = some ((p₁.erase key).count Recorder.rotation) := by
        rw [pool?, letGo_pools, evict_pools, ← pool?, pool?_setPool w₁ hdp, if_pos rfl]
      obtain ⟨hl, hin⟩ := openHandle_ok hpool h
      rw [length_letGo, length_evict] at hl
      exact Or.inr ⟨hl, hin⟩
    · -- a hit answers the entry's handle
      cases h
      exact Or.inl ⟨e, hdsub e (Pool.find?_spec hf).1, (Pool.find?_spec hf).2, rfl⟩
  · rename_i hf
    have hpu : (if w₁.config.maxCacheSize ≤ p₁.size then w₁.purge i p₁ else (p₁, w₁)).2.pool? i =
          some (if w₁.config.maxCacheSize ≤ p₁.size then w₁.purge i p₁ else (p₁, w₁)).1 ∧
        (if w₁.config.maxCacheSize ≤ p₁.size then w₁.purge i p₁ else (p₁, w₁)).2.backend.resources.length =
          w₁.backend.resources.length := by
      split
      · exact ⟨(shrinks_purge hdp).2.1, (shrinks_purge hdp).1.opened⟩
      · exact ⟨hdp, rfl⟩
    generalize (if w₁.config.maxCacheSize ≤ p₁.size then w₁.purge i p₁ else (p₁, w₁)) = d at hpu h ⊢
    obtain ⟨p₂, w₂⟩ := d
    obtain ⟨hp₂, hlen⟩ := hpu
    dsimp only at hp₂ hlen h ⊢
    split at h
    · cases h
    · rename_i hroom
      rw [if_neg hroom]
      -- a miss opens the handle
      obtain ⟨hl, hin⟩ := openHandle_ok hp₂ h
      exact Or.inr ⟨hlen ▸ hl, hin⟩

/-- A lease that a lookup answers is on the handle its lookup found; holding it under a name
changes no pool. -/
theorem answerLookup_lease {i : Nat} {p : Pool} {t : Target} {pr : Principal} {u : Nat}
    {name : Option String} {n : Nat} {cl : Bool} {tag : Option String}
    (h : (w.answerLookup i p t pr u name).1 = .value (.lease n cl tag)) :
    ∃ hd, (w.lookup i p t pr u).1 = .ok hd ∧ hd.serial = n ∧
      (w.answerLookup i p t pr u name).2.pools = (w.lookup i p t pr u).2.pools := by
  unfold answerLookup at h ⊢
  generalize w.lookup i p t pr u = l at h ⊢
  obtain ⟨r, w₁⟩ := l
  cases r with
  | error e => cases h
  | ok hd =>
    dsimp only at h ⊢
    simp only [Outcome.value.injEq, Value.lease.injEq] at h
    refine ⟨hd, rfl, h.1, ?_⟩
    cases name with
    | none => rfl
    | some nm => exact (hold_parts w₁ nm hd).1

/-- A lease that a lookup answers is on the resource of an entry of its pool under the key the
lookup derives, or on one it has just opened, whose entry it added to its pool under that key. -/
theorem lookupAs_lease_keyed {i : Nat} {p : Pool} (hp : w.pool? i = some p) {t : Target}
    {pr : Principal} {ex : Bool} {name : Option String} {n : Nat} {cl : Bool}
    {tag : Option String} (h : (w.lookupAs i p t pr ex name).1 = .value (.lease n cl tag)) :
    (∃ e ∈ p.entries, CacheKey.derive t pr (if ex then p.nextUnique.toNat else 0) = .ok e.key ∧
      e.handle.serial = n) ∨ (w.backend.resources.length < n ∧
      ∃ k c hd, CacheKey.derive t pr (if ex then p.nextUnique.toNat else 0) = .ok k ∧
        credentialTokens pr = .ok c ∧ hd.serial = n ∧
        (w.lookupAs i p t pr ex name).2.CachedAt i ⟨k, hd, c⟩) := by
  -- the lookup runs in a world whose pool has the entries of `p` and whose backend is `w`'s
  have answer : ∀ {w₁ : World} {p₁ : Pool}, w₁.pool? i = some p₁ → p₁.entries = p.entries →
      w₁.backend = w.backend → ∀ u,
      (w₁.answerLookup i p₁ t pr u name).1 = .value (.lease n cl tag) →
      (∃ e ∈ p.entries, CacheKey.derive t pr u = .ok e.key ∧ e.handle.serial = n) ∨
        (w.backend.resources.length < n ∧
        ∃ k c hd, CacheKey.derive t pr u = .ok k ∧ credentialTokens pr = .ok c ∧ hd.serial = n ∧
          (w₁.answerLookup i p₁ t pr u name).2.CachedAt i ⟨k, hd, c⟩) := by
    intro w₁ p₁ hp₁ hen hb u ha
    obtain ⟨hd, hok, hs, hpools⟩ := answerLookup_lease ha
    rcases lookup_ok_cases hp₁ hok with ⟨e, he, hk, rfl⟩ | ⟨hl, k, c, hk, hc, hin⟩
    · exact Or.inl ⟨e, hen ▸ he, hk, hs⟩
    · refine Or.inr ⟨hb ▸ hs ▸ hl, k, c, hd, hk, hc, hs, ?_⟩
      exact (cachedAt_congr hpools i _).2 hin
  cases ex with
  | true =>
    rw [lookupAs_true] at h ⊢
    have hq : (w.setPool i p.drawUnique.2).pool? i = some p.drawUnique.2 := by
      rw [pool?_setPool w hp, if_pos rfl]
    exact answer hq rfl rfl _ h
  | false =>
    rw [lookupAs_false] at h ⊢
    exact answer hp rfl rfl 0 h

/-- A lease that a lookup answers is on the resource of an entry of its pool, or on one it has
just opened, whose entry it added to its pool under the key it derived. -/
theorem lookupAs_lease_cases {i : Nat} {p : Pool} (hp : w.pool? i = some p) {t : Target}
    {pr : Principal} {ex : Bool} {name : Option String} {n : Nat} {cl : Bool}
    {tag : Option String} (h : (w.lookupAs i p t pr ex name).1 = .value (.lease n cl tag)) :
    (∃ e ∈ p.entries, e.handle.serial = n) ∨ (w.backend.resources.length < n ∧
      ∃ k c hd, CacheKey.derive t pr (if ex then p.nextUnique.toNat else 0) = .ok k ∧
        credentialTokens pr = .ok c ∧ hd.serial = n ∧
        (w.lookupAs i p t pr ex name).2.CachedAt i ⟨k, hd, c⟩) :=
  (lookupAs_lease_keyed hp h).imp_left fun ⟨e, he, _, hs⟩ => ⟨e, he, hs⟩

/-- A remove answers true exactly when its pool has an entry on the handle's resource. -/
theorem remove_true_iff (i : Nat) (p : Pool) (h : Handle) :
    (w.remove i p h).1 = true ↔ ∃ e ∈ p.entries, e.handle.serial = h.serial := by
  unfold remove
  split
  · rename_i e p' ht
    obtain ⟨he, hs, -⟩ := Pool.take_spec ht
    exact ⟨fun _ => ⟨e, he, hs⟩, fun _ => rfl⟩
  · rename_i p' ht
    refine ⟨fun hf => absurd hf Bool.false_ne_true, fun ⟨e, he, hs⟩ => ?_⟩
    unfold Pool.take at ht
    split at ht
    · cases ht
    · rename_i hf
      exact absurd (by simpa using hs) (List.find?_eq_none.1 hf e he)

/-- After a remove that answered true, no live pool has the handle's resource. -/
theorem uncached_remove {D : List Handle} (hl : w.Ledger D) {i : Nat} {p : Pool}
    (hp : w.pool? i = some p) (h : Handle) (ht : (w.remove i p h).1 = true) :
    (w.remove i p h).2.Uncached h.serial := by
  unfold remove at ht ⊢
  split at ht
  · rename_i e p' htake
    have hout := (hl.takesOut_take hp htake).count Recorder.eviction
    intro j e' he' hs
    have hc : (w.setPool i (p'.count Recorder.eviction)).CachedAt j e' :=
      (cachedAt_congr ((letGo_pools _ _).trans (evict_pools _ _)) j e').1 he'
    rw [← (Pool.take_spec htake).2.1] at hs
    exact hl.uncached_of_takenOut hp hout.mem (fun _ he => hout.sublist.subset he) hout.not_mem j e' hc hs
  · cases ht

end Answers

/-! ## The lifecycle -/

/-- The lifecycle of a pooled resource. In a reachable world no two entries, in one pool or
two, are on one resource, and no resource waits twice in the grace queue. A lookup answers an
entry of its pool, or a resource it has just opened and added to its pool under the key it
derived. A remove answers true exactly when its pool has the handle's resource, which then
leaves every pool. Along any run from there, an entry on a resource that existed already was
that very entry before, in the same pool; the grace queue gains only resources that were in a
pool or are new; and a resource that has left every pool is never answered by a lookup again,
and a remove through a handle on it answers false. -/
theorem entries_move_one_way {w : World} (hw : w.Reachable) :
    (∀ j j' e e', w.CachedAt j e → w.CachedAt j' e' → e.handle.serial = e'.handle.serial →
      j = j' ∧ e = e') ∧
    (w.grace.queue.map (·.serial)).Nodup ∧
    (∀ i p t pr ex name n cl tag, w.pool? i = some p →
      (w.lookupAs i p t pr ex name).1 = .value (.lease n cl tag) →
      (∃ e ∈ p.entries, e.handle.serial = n) ∨ (w.backend.resources.length < n ∧
        ∃ k c hd, CacheKey.derive t pr (if ex then p.nextUnique.toNat else 0) = .ok k ∧
          credentialTokens pr = .ok c ∧ hd.serial = n ∧
          (w.lookupAs i p t pr ex name).2.CachedAt i ⟨k, hd, c⟩)) ∧
    (∀ i p h, w.pool? i = some p →
      ((w.remove i p h).1 = true ↔ ∃ e ∈ p.entries, e.handle.serial = h.serial) ∧
      ((w.remove i p h).1 = true → (w.remove i p h).2.Uncached h.serial)) ∧
    ∀ w', Relation.ReflTransGen (Move fun _ _ => True) w w' →
      (∀ j e, w'.CachedAt j e → w.Issued e.handle.serial → w.CachedAt j e) ∧
      (∀ g ∈ w'.grace.queue, g ∈ w.grace.queue ∨
        (∃ j e, w.CachedAt j e ∧ e.handle.serial = g.serial) ∨ ¬ w.Issued g.serial) ∧
      ∀ n, w.Issued n → w.Uncached n →
        (∀ i p t pr ex name cl tag, w'.pool? i = some p →
          (w'.lookupAs i p t pr ex name).1 ≠ .value (.lease n cl tag)) ∧
        (∀ i p h, w'.pool? i = some p → h.serial = n → (w'.remove i p h).1 = false) := by
  have hl := ledger_of_reachable hw
  refine ⟨hl.single, grace_nodup_of_reachable hw, fun i p t pr ex name n cl tag hp h =>
    lookupAs_lease_cases hp h, fun i p h hp => ⟨remove_true_iff i p h, uncached_remove hl hp h⟩,
    fun w' hr => ?_⟩
  have hway := oneWay_moves hl hr
  refine ⟨hway.cached, hway.grace, fun n hi hu => ?_⟩
  -- the resource stays out of every pool, and is older than anything a lookup opens
  have hu' := hway.uncached hi hu
  refine ⟨fun i p t pr ex name cl tag hp h => ?_, fun i p h hp hs => ?_⟩
  · rcases lookupAs_lease_cases hp h with ⟨e, he, hs⟩ | ⟨hlt, -⟩
    · exact hu' i e ⟨p, hp, he⟩ hs
    · have hle := hway.opened
      have hn := hi.2
      omega
  · refine Bool.eq_false_iff.2 fun ht => ?_
    obtain ⟨e, he, hse⟩ := (remove_true_iff i p h).1 ht
    exact hu' i e ⟨p, hp, he⟩ (hse.trans hs)

theorem entries_move_one_way_after_remove :
    ((((World.create {} .manual none).act
        (.get 0 "hdfs://nn1" (.direct "alice" .simple .empty) false (some "a"))).2.act
        (.remove 0 "a")).2.act
        (.get 0 "hdfs://nn1" (.direct "alice" .simple .empty) false (some "a"))).2.Reachable ∧
    let w := ((((World.create {} .manual none).act
        (.get 0 "hdfs://nn1" (.direct "alice" .simple .empty) false (some "a"))).2.act
        (.remove 0 "a")).2.act
        (.get 0 "hdfs://nn1" (.direct "alice" .simple .empty) false (some "a"))).2
    (∀ j j' e e', w.CachedAt j e → w.CachedAt j' e' → e.handle.serial = e'.handle.serial →
      j = j' ∧ e = e') ∧
    (w.grace.queue.map (·.serial)).Nodup ∧
    (∀ i p t pr ex name n cl tag, w.pool? i = some p →
      (w.lookupAs i p t pr ex name).1 = .value (.lease n cl tag) →
      (∃ e ∈ p.entries, e.handle.serial = n) ∨ (w.backend.resources.length < n ∧
        ∃ k c hd, CacheKey.derive t pr (if ex then p.nextUnique.toNat else 0) = .ok k ∧
          credentialTokens pr = .ok c ∧ hd.serial = n ∧
          (w.lookupAs i p t pr ex name).2.CachedAt i ⟨k, hd, c⟩)) ∧
    (∀ i p h, w.pool? i = some p →
      ((w.remove i p h).1 = true ↔ ∃ e ∈ p.entries, e.handle.serial = h.serial) ∧
      ((w.remove i p h).1 = true → (w.remove i p h).2.Uncached h.serial)) ∧
    ∀ w', Relation.ReflTransGen (Move fun _ _ => True) w w' →
      (∀ j e, w'.CachedAt j e → w.Issued e.handle.serial → w.CachedAt j e) ∧
      (∀ g ∈ w'.grace.queue, g ∈ w.grace.queue ∨
        (∃ j e, w.CachedAt j e ∧ e.handle.serial = g.serial) ∨ ¬ w.Issued g.serial) ∧
      ∀ n, w.Issued n → w.Uncached n →
        (∀ i p t pr ex name cl tag, w'.pool? i = some p →
          (w'.lookupAs i p t pr ex name).1 ≠ .value (.lease n cl tag)) ∧
        (∀ i p h, w'.pool? i = some p → h.serial = n → (w'.remove i p h).1 = false) :=
  have hw := (((Reachable.create {} .manual none .switched).act _).act _).act _
  ⟨hw, entries_move_one_way hw⟩

end World

end HandlePool
