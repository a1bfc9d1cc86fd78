import HandlePool.Proofs.Opening
/-!
# Resources nobody holds are closed once, and nothing held is closed behind its back

Every step of a session keeps the ledger (`ledger_act`), and so does every move a reachable
world makes, from its creation on (`ledger_of_reachable`). Two consequences:

* `unheld_resource_closed_once`: once no caller's name and no entry of a live pool holds a handle
  on a resource and the tracker's queue is empty, the resource is closed, and the backend was
  asked to close it exactly once, whichever path closed it.
* `background_closes_spare_cached`: the background paths never close what a pool still has. A
  notice waiting for the tracker is for a resource nobody holds; a resource waiting in the grace
  queue is in no live pool; every held handle is registered under its resource's serial, so the
  tracker's own check that nobody holds a handle is a check on the resource; and an entry taken
  out of its pool leaves its resource in no live pool, so handing that resource to the grace
  queue, which after shutdown may close it at once, spares every cached entry.
-/

namespace HandlePool

namespace World

section Steps

variable {D : List Handle} {w : World}

theorem ledger_onPool {i : Nat} {f : Pool → Outcome × World} (hl : w.Ledger D)
    (hf : ∀ p, w.pool? i = some p → (f p).2.Ledger D) : (w.onPool i f).2.Ledger D := by
  unfold onPool
  split
  · rename_i p hp
    exact hf p hp
  · exact hl

theorem ledger_onHandle {name : String} {f : Handle → Outcome × World} (hl : w.Ledger D)
    (hf : ∀ h, w.Holds h → (f h).2.Ledger D) : (w.onHandle name f).2.Ledger D := by
  unfold onHandle
  split
  · rename_i h hh
    exact hf h (Or.inl ⟨name, Named.mem_of_lookup hh⟩)
  · exact hl

theorem ledger_onManualClock (hl : w.Ledger D) (f : Fault) {g : Clock → Clock}
    (hg : ∀ c, c.elapsed ≤ (g c).elapsed) : (w.onManualClock f g).2.Ledger D := by
  unfold onManualClock
  split
  · exact hl.congr rfl rfl rfl rfl rfl rfl rfl (hg w.clock)
  · exact hl

theorem pool?_newPool {q p : Pool} {j : Nat}
    (h : ({ w with pools := w.pools ++ [some q] }).pool? j = some p) : w.pool? j = some p ∨ p = q := by
  unfold pool? at h ⊢
  by_cases hj : j < w.pools.length
  · rw [List.getElem?_append_left hj] at h
    exact Or.inl h
  · rw [List.getElem?_append_right (by omega)] at h
    right
    cases hk : j - w.pools.length with
    | zero =>
      rw [hk] at h
      simpa using h.symm
    | succ k =>
      rw [hk] at h
      simp at h

theorem pool?_newPool_of {q p : Pool} {j : Nat} (h : w.pool? j = some p) :
    ({ w with pools := w.pools ++ [some q] }).pool? j = some p := by
  have hj : j < w.pools.length := by
    unfold pool? at h
    by_contra hj
    rw [List.getElem?_eq_none (by omega)] at h
    cases h
  unfold pool? at h ⊢
  rw [List.getElem?_append_left hj]
  exact h

/-- A new pool starts empty, so adding one keeps the ledger. -/
theorem ledger_newPool (hl : w.Ledger D) (identity : Option IdentitySource) :
    ({ w with pools := w.pools ++ [some ({ identity := identity } : Pool)] }).Ledger D := by
  have hca : ∀ j e, ({ w with pools := w.pools ++ [some ({ identity := identity } : Pool)] }).CachedAt j e →
      w.CachedAt j e := by
    rintro j e ⟨p, hp, he⟩
    rcases pool?_newPool hp with hp | rfl
    · exact ⟨p, hp, he⟩
    · cases he
  show Ledger ([] ++ D) _
  refine hl.shrink rfl rfl rfl rfl hca (fun x hx => Or.inl hx) hl.names ?_ ?_
    (fun _ hh => by cases hh)
  · intro j p hp
    rcases pool?_newPool hp with hp | rfl
    · exact hl.keys j p hp
    · exact List.nodup_nil
  · rintro h (hn | ⟨j, e, ⟨p, hp, he⟩, rfl⟩) hh'
    · exact absurd (Or.inl hn) hh'
    · exact absurd (Or.inr ⟨j, e, ⟨p, pool?_newPool_of hp, he⟩, rfl⟩) hh'

theorem ledger_watch (goal : List (String × Option Reading)) :
    ∀ (n : Nat) (w : World), w.Ledger D → (watch settle tick meters goal n w).2.Ledger D
  | 0, _, hl => hl
  | n + 1, w, hl => by
    simp only [watch]
    split
    · exact ledger_settle hl
    · exact ledger_watch goal n _ (ledger_tick (ledger_settle hl))

/-- Every step keeps the ledger. -/
theorem ledger_act (hl : w.Ledger D) (s : PoolStep) : (w.act s).2.Ledger D := by
  cases s with
  | get i uri pr exclusive name =>
    refine ledger_onPool hl fun p hp => ?_
    split
    · exact hl
    · exact ledger_lookupAs hl hp _ _ _ _
  | getCurrent i uri exclusive name =>
    refine ledger_onPool hl fun p hp => ?_
    split
    · exact hl
    · split
      · exact hl
      · split
        · exact hl
        · exact ledger_lookupAs hl hp _ _ _ _
  | runAs pr steps => exact hl
  | remove i name =>
    exact ledger_onPool hl fun p hp => ledger_onHandle hl fun h _ => ledger_remove hl hp h
  | close i name =>
    exact ledger_onPool hl fun p hp => ledger_onHandle hl fun h _ => ledger_close hl hp h
  | closeAllShared i =>
    rw [act_closeAllShared_snd]
    exact ledger_onPool hl fun p hp => ledger_closeAll hl hp
  | closeAllFiltered i f => exact ledger_onPool hl fun _ _ => hl
  | share source name => exact ledger_onHandle hl fun h hh => ledger_hold hl hh name
  | release name => exact ledger_release hl name
  | same a b => exact ledger_onHandle hl fun _ _ => ledger_onHandle hl fun _ _ => hl
  | isClosed name => exact ledger_onHandle hl fun _ _ => hl
  | inspect name =>
    refine ledger_onHandle hl fun h _ => ?_
    split <;> exact hl
  | advance ms => exact ledger_onManualClock hl _ fun c => c.le_advance ms
  | setElapsed ms => exact ledger_onManualClock hl _ fun c => c.le_setElapsed ms
  | clockElapsed => exact ledger_onManualClock hl _ fun c => Nat.le_refl c.elapsed
  | sweep => exact ledger_sweep hl
  | runPending => exact ledger_runPending hl
  | setSwitches o c => exact hl.of_backend (Backend.Steady.refl w.backend)
  | shutdown => exact ledger_shutdown hl
  | start => exact ledger_start hl
  | isRunning => exact hl
  | statistics i => exact ledger_onPool hl fun _ _ => hl
  | workerStatistics => exact hl
  | config i => exact ledger_onPool hl fun _ _ => hl
  | contextConfig => exact hl
  | isEmpty i => exact ledger_onPool hl fun _ _ => hl
  | size i => exact ledger_onPool hl fun _ _ => hl
  | newPool identity => exact ledger_newPool hl identity
  | dropPool i => exact ledger_onPool hl fun p hp => ledger_dropPool hl hp
  | wait goal =>
    simp only [act]
    split
    · exact hl
    · exact ledger_watch goal _ _ hl
  | invalid m => exact hl

end Steps

/-- A fresh world has no resource, no holder and nothing waiting. -/
theorem ledger_create (config : Config) (kind : ClockKind) (identity : Option IdentitySource)
    (answers : Answers) : (World.create config kind identity answers).Ledger [] := by
  -- its only pool is empty
  have hca : ∀ j e, ¬ (World.create config kind identity answers).CachedAt j e := by
    rintro j e ⟨p, hp, he⟩
    cases j with
    | zero =>
      simp only [pool?, World.create, List.getElem?_cons_zero, Option.join_some,
        Option.some.injEq] at hp
      rw [← hp] at he
      cases he
    | succ j => simp [pool?, World.create] at hp
  have hho : ∀ h, ¬ (World.create config kind identity answers).Holds h := by
    rintro h (⟨name, hn⟩ | ⟨j, e, he, -⟩)
    · cases hn
    · exact hca j e he
  refine ⟨rfl, rfl, fun h hh => absurd hh (hho h), (fun _ hd => by cases hd),
    (fun _ hx => by cases hx), (fun _ hid => by cases hid), fun n hn => ?_,
    (fun _ hg => by cases hg), List.nodup_nil, fun j p hp => ?_,
    fun j _ e _ he => absurd he (hca j e), List.Pairwise.nil, (fun _ hg => by cases hg)⟩
  · obtain ⟨hpos, hle⟩ := hn
    simp [World.create] at hle
    omega
  · cases j with
    | zero =>
      simp only [pool?, World.create, List.getElem?_cons_zero, Option.join_some,
        Option.some.injEq] at hp
      rw [← hp]
      exact List.nodup_nil
    | succ j => simp [pool?, World.create] at hp

/-- Every reachable world keeps the ledger, with no handle waiting to be let go. -/
theorem ledger_of_reachable {w : World} (hw : w.Reachable) : w.Ledger [] := by
  induction hw with
  | create config kind identity answers => exact ledger_create config kind identity answers
  | act s _ ih => exact ledger_act ih s
  | rescope scope _ ih => exact ih.congr rfl rfl rfl rfl rfl rfl rfl (Nat.le_refl _)
  | settle _ ih => exact ledger_settle ih
  | tick _ ih => exact ledger_tick ih
  | receive _ ih => exact ledger_receive ih
  | stopCloser _ ih => exact ledger_stopCloser ih
  | stopTracker _ ih => exact ledger_stopTracker ih

/-- **Resources nobody holds are closed exactly once.** In every reachable world, once no
caller's name and no entry of a live pool holds a handle on a resource and the tracker has no
notice waiting, the resource is closed and the backend was asked to close it exactly once, by
whichever path got there first. -/
theorem unheld_resource_closed_once {w : World} (hw : w.Reachable) {r : Resource}
    (hr : r ∈ w.backend.resources) (hfree : ∀ h : Handle, h.serial = r.serial → w.holds h = false)
    (hq : w.orphans.queue = []) : r.closed = true ∧ r.closeCalls = 1 := by
  have hl := ledger_of_reachable hw
  rcases hl.accounted r.serial (hl.numbered.mem hr) with (hs | ⟨h, hh, hs⟩ | ⟨x, hx, -⟩) | ⟨h, hd, -⟩
  · -- closed: the closed resource with this serial is `r` itself, counted once
    obtain ⟨r', hr', hs', hc⟩ := hs
    obtain rfl := hl.numbered.eq_of_serial hr' hr hs'
    have hcount : r'.closeCalls = if r'.closed then 1 else 0 := counted_of_reachable hw r' hr'
    rw [hc, if_pos rfl] at hcount
    exact ⟨hc, hcount⟩
  · rw [← holds_iff, hfree h hs] at hh
    cases hh
  · rw [hq] at hx
    cases hx
  · cases hd

theorem unheld_resource_closed_once_after_drop :
    ∃ r ∈ ((((World.create {} .manual none).act
          (.get 0 "hdfs://nn1" (.direct "alice" .simple .empty) false none)).2.act
          (.dropPool 0)).2.act .runPending).2.backend.resources,
      (∀ h : Handle, h.serial = r.serial → ((((World.create {} .manual none).act
          (.get 0 "hdfs://nn1" (.direct "alice" .simple .empty) false none)).2.act
          (.dropPool 0)).2.act .runPending).2.holds h = false) ∧
      ((((World.create {} .manual none).act
          (.get 0 "hdfs://nn1" (.direct "alice" .simple .empty) false none)).2.act
          (.dropPool 0)).2.act .runPending).2.orphans.queue = [] ∧ r.closed = true ∧ r.closeCalls = 1 := by
  have hw : ((((World.create {} .manual none).act
          (.get 0 "hdfs://nn1" (.direct "alice" .simple .empty) false none)).2.act
          (.dropPool 0)).2.act .runPending).2.Reachable :=
    (((Reachable.create {} .manual none .switched).act _).act _).act _
  have hlen : ((((World.create {} .manual none).act
          (.get 0 "hdfs://nn1" (.direct "alice" .simple .empty) false none)).2.act
          (.dropPool 0)).2.act .runPending).2.backend.resources.length = 1 := by decide
  obtain ⟨r, hr⟩ := List.exists_mem_of_length_pos (by omega : 0 < ((((World.create {} .manual none).act
          (.get 0 "hdfs://nn1" (.direct "alice" .simple .empty) false none)).2.act
          (.dropPool 0)).2.act .runPending).2.backend.resources.length)
  -- the pool was dropped and no name was given, so nothing holds any handle
  have hfree : ∀ h : Handle, h.serial = r.serial → ((((World.create {} .manual none).act
          (.get 0 "hdfs://nn1" (.direct "alice" .simple .empty) false none)).2.act
          (.dropPool 0)).2.act .runPending).2.holds h = false := by
    have hheld : ((((World.create {} .manual none).act
          (.get 0 "hdfs://nn1" (.direct "alice" .simple .empty) false none)).2.act
          (.dropPool 0)).2.act .runPending).2.held = [] := by decide
    have hpools : ((((World.create {} .manual none).act
          (.get 0 "hdfs://nn1" (.direct "alice" .simple .empty) false none)).2.act
          (.dropPool 0)).2.act .runPending).2.pools = [none] := by decide
    intro h _
    unfold holds
    rw [hheld, hpools]
    rfl
  have hq : ((((World.create {} .manual none).act
          (.get 0 "hdfs://nn1" (.direct "alice" .simple .empty) false none)).2.act
          (.dropPool 0)).2.act .runPending).2.orphans.queue = [] := by decide
  exact ⟨r, hr, hfree, hq, unheld_resource_closed_once hw hr hfree hq⟩

/-- **The background paths spare what is still held.** In every reachable world: a notice
waiting for the tracker is for a resource on which nobody holds a handle; a resource waiting
in the grace queue is in no live pool; every held handle is registered under its resource's
serial, as a 64-bit number; and after an entry is taken out of a live pool, its resource is in no live pool. -/
theorem background_closes_spare_cached {w : World} (hw : w.Reachable) :
    (∀ x ∈ w.orphans.queue, ∀ h, w.holds h = true → h.serial ≠ x.cleanup) ∧
    (∀ g ∈ w.grace.queue, ∀ j p, w.pool? j = some p → ∀ e ∈ p.entries,
      e.handle.serial ≠ g.serial) ∧
    (∀ h, w.holds h = true → h.registration = UInt64.ofNat h.serial) ∧
    (∀ i p e q, w.pool? i = some p → e ∈ p.entries → (∀ e' ∈ q.entries, e' ∈ p.entries) →
      e ∉ q.entries → ∀ j p', (w.setPool i q).pool? j = some p' → ∀ e' ∈ p'.entries,
        e'.handle.serial ≠ e.handle.serial) := by
  have hl := ledger_of_reachable hw
  refine ⟨fun x hx h hh => ?_, fun g hg j p hp e he => ?_, fun h hh => ?_,
    fun i p e q hp he hsub hq j p' hp' e' he' => ?_⟩
  · exact (hl.notice x hx).2.2 h ((holds_iff w h).1 hh)
  · exact (hl.grace g hg).2 j e ⟨p, hp, he⟩
  · exact (hl.handle h ((holds_iff w h).1 hh)).1
  · exact hl.uncached_of_takenOut hp he hsub hq j e' ⟨p', hp', he'⟩

theorem background_closes_spare_cached_after_remove :
    ((((((World.create {} .manual none).act
        (.get 0 "hdfs://nn1" (.direct "alice" .simple .empty) false (some "a"))).2.act
        (.remove 0 "a")).2.act
        (.get 0 "hdfs://nn1" (.direct "alice" .simple .empty) false (some "b"))).2.act
        (.release "a")).2).Reachable ∧
    let w := ((((((World.create {} .manual none).act
        (.get 0 "hdfs://nn1" (.direct "alice" .simple .empty) false (some "a"))).2.act
        (.remove 0 "a")).2.act
        (.get 0 "hdfs://nn1" (.direct "alice" .simple .empty) false (some "b"))).2.act
        (.release "a")).2)
    (∀ x ∈ w.orphans.queue, ∀ h, w.holds h = true → h.serial ≠ x.cleanup) ∧
    (∀ g ∈ w.grace.queue, ∀ j p, w.pool? j = some p → ∀ e ∈ p.entries,
      e.handle.serial ≠ g.serial) ∧
    (∀ h, w.holds h = true → h.registration = UInt64.ofNat h.serial) ∧
    (∀ i p e q, w.pool? i = some p → e ∈ p.entries → (∀ e' ∈ q.entries, e' ∈ p.entries) →
      e ∉ q.entries → ∀ j p', (w.setPool i q).pool? j = some p' → ∀ e' ∈ p'.entries,
        e'.handle.serial ≠ e.handle.serial) :=
  have hw := ((((Reachable.create {} .manual none .switched).act _).act _).act _).act _
  ⟨hw, background_closes_spare_cached hw⟩

end World

end HandlePool
