import Mathlib
import HandlePool.Reclaim.Orphans
/-!
# Cleanups run once, and the tracker's counts add up

An orphan tracker used on its own: objects are registered, the owner of each registration
lets go of it once, a notice may be sent again for a registration whose owner already let go,
and the posted notices are finalized all at once when asked (`drain`) or at shutdown, or one at a
time by the background loop (`receive`), which comes to the same (`receive_iterate`). A registration is
named by its place in the order of registration, 1, 2, …; the tracker numbers it with its
64-bit counter, so the place `k` gets the number `k` taken modulo `2 ^ 64`. The cleanup of a
registration is named by its place and acts on a state `σ` through `run`; `logged run` also
writes down, for each cleanup it runs, the registration and whether the cleanup ended well. A
history of the tracker (`Tracks`) thus carries the list of every cleanup run so far, next to
the registrations its owners still hold and the registrations made.

Along every history the tracker keeps its books (`Books`): every number with an entry is the
number of a registration whose cleanup has not started, and while the counter has not wrapped
every such registration has an entry; the cleanups started are those of the log; and the
counters of completed and failed cleanups count the logged cleanups that ended well and those
that did not. What the owners and the queue owe it (`Owes`): a held registration has not had its
cleanup started, one that has not is held or has a notice waiting, and a waiting notice is for a
registration whose owner let go.

* `books_finalize`, `books_finalizeAll`: finalizing a notice runs its cleanup only if it has not
  started, and keeps the books.
* `receive_iterate`: the loop receiving the waiting notices one at a time drains the queue.
* `drain_log`: a drain answers the number of notices it took from the queue, duplicates
  included, leaves the queue empty, and runs the cleanups of exactly those registrations among
  them whose cleanup had not run.
* `Tracks.books`: the books, and what is owed, along every history.
* `cleanups_run_once`: each cleanup runs at most once, only once its owner let go; the tracked
  registrations and the counted cleanups never outnumber the registrations made, and add up to
  them while fewer than `2 ^ 64` registrations were made; once every owner let go and the queue
  is empty, every cleanup has run exactly once and nothing is tracked.
* `tracked_falls_short_after_wrap`: once the counter wraps, a registration takes over the entry
  of a held one with the same number, and the count falls short of the registrations made.
-/

namespace HandlePool

namespace Orphans

variable {κ σ : Type} [DecidableEq κ]

/-! ## What finalizing changes -/

section Frame

variable (run : κ → σ → Bool × σ)

/-- Finalizing a notice starts its cleanup and no other. -/
theorem mem_started_finalize (n : Notice κ) (os : Orphans κ × σ) (k : κ) :
    k ∈ (finalize run n os).1.started ↔ k ∈ os.1.started ∨ n.cleanup = k := by
  rw [started_finalize]
  split
  · rename_i hs
    constructor
    · exact Or.inl
    · rintro (h | rfl)
      · exact h
      · exact hs
  · rw [List.mem_cons]
    exact or_comm.trans (or_congr_right eq_comm)

/-- Finalizing notices starts their cleanups and no others. -/
theorem mem_started_finalizeAll (ns : List (Notice κ)) (os : Orphans κ × σ) (k : κ) :
    k ∈ (finalizeAll run ns os).1.started ↔ k ∈ os.1.started ∨ ∃ n ∈ ns, n.cleanup = k := by
  induction ns generalizing os with
  | nil => simp [finalizeAll]
  | cons n ns ih =>
    rw [finalizeAll, ih, mem_started_finalize]
    simp only [List.mem_cons, or_and_right, exists_or, exists_eq_left, or_assoc]

/-- Finalizing does not look at the queue. -/
theorem finalize_setQueue (n : Notice κ) (o : Orphans κ) (s : σ) (q : List (Notice κ)) :
    finalize run n ({ o with queue := q }, s) =
      ({ (finalize run n (o, s)).1 with queue := q }, (finalize run n (o, s)).2) := by
  by_cases h : n.cleanup ∈ o.started
  · rw [finalize_of_started run n _ h, finalize_of_started run n _ h]
  · rw [finalize_of_not_started run n _ h, finalize_of_not_started run n _ h]

/-- The background loop, receiving the waiting notices one at a time until none is left, does
what a drain does. -/
theorem receive_iterate (os : Orphans κ × σ) :
    (receive run)^[os.1.queue.length] os = (drain run os).2 := by
  obtain ⟨o, s⟩ := os
  -- induction on the waiting notices, for any tracker holding them and any state
  suffices h : ∀ (ns : List (Notice κ)) (o : Orphans κ) (s : σ), o.queue = ns →
      (receive run)^[ns.length] (o, s) = finalizeAll run ns ({ o with queue := [] }, s) from
    h o.queue o s rfl
  intro ns
  induction ns with
  | nil =>
    intro o s ho
    simp only [List.length_nil, Function.iterate_zero, id_eq, finalizeAll]
    rw [← ho]
  | cons n ns ih =>
    intro o s ho
    -- the first receive finalizes the oldest notice as the drain's first step does, under the
    -- rest of the queue
    have hfirst : receive run (o, s) =
        ({ (finalize run n (o, s)).1 with queue := ns }, (finalize run n (o, s)).2) := by
      rw [receive_of_queue_cons run (o, s) ho]
      exact finalize_setQueue run n o s ns
    rw [List.length_cons, Function.iterate_succ_apply, hfirst,
      ih { (finalize run n (o, s)).1 with queue := ns } _ rfl, finalizeAll,
      finalize_setQueue run n o s []]

end Frame

/-! ## Logged cleanups -/

/-- Runs the cleanup of the registration in place `k` through `run`, and writes down the place
and whether the cleanup ended well. -/
def logged (run : Nat → σ → Bool × σ) (k : Nat) (sl : σ × List (Nat × Bool)) :
    Bool × (σ × List (Nat × Bool)) :=
  let r := run k sl.1
  (r.1, (r.2, sl.2 ++ [(k, r.1)]))

/-- The books of a tracker with logged cleanups, `made` being the places of the registrations
made. -/
structure Books (os : Orphans Nat × σ × List (Nat × Bool)) (made : List Nat) : Prop where
  /-- Registrations take the places 1, 2, … in order. -/
  places : made = List.range' 1 made.length
  /-- The counter gives the next place's number. -/
  nextId : os.1.nextId = UInt64.ofNat (made.length + 1)
  registry_nodup : os.1.registry.Nodup
  /-- A number with an entry is the number of a registration whose cleanup has not started. -/
  kept : ∀ x ∈ os.1.registry, ∃ k ∈ made, k ∉ os.1.started ∧ UInt64.ofNat k = x
  /-- While the counter has not wrapped, each registration whose cleanup has not started has
  an entry. -/
  whole : made.length < 2 ^ 64 → ∀ k ∈ made, k ∉ os.1.started → UInt64.ofNat k ∈ os.1.registry
  started_made : ∀ k ∈ os.1.started, k ∈ made
  /-- The cleanups started are the logged ones, latest first. -/
  started : os.1.started = (os.2.2.map (·.1)).reverse
  logged_nodup : (os.2.2.map (·.1)).Nodup
  /-- The counters count the logged cleanups by outcome, as 64-bit words. -/
  completed : os.1.completed = UInt64.ofNat (os.2.2.countP (·.2))
  failed : os.1.failed = UInt64.ofNat (os.2.2.countP (!·.2))

section Finalizing

variable {os : Orphans Nat × σ × List (Nat × Bool)} {made : List Nat}

theorem Books.lt_of_mem (hb : Books os made) {k : Nat} (hk : k ∈ made) : k < made.length + 1 := by
  rw [hb.places, List.mem_range'_1] at hk
  omega

/-- While the counter has not wrapped, distinct registrations have distinct numbers. -/
theorem Books.ofNat_inj (hb : Books os made) (hlen : made.length < 2 ^ 64) {j k : Nat}
    (hj : j ∈ made) (hk : k ∈ made) (h : UInt64.ofNat j = UInt64.ofNat k) : j = k := by
  have hj' := hb.lt_of_mem hj
  have hk' := hb.lt_of_mem hk
  have ht := congrArg UInt64.toNat h
  rw [UInt64.toNat_ofNat', UInt64.toNat_ofNat', Nat.mod_eq_of_lt (by omega),
    Nat.mod_eq_of_lt (by omega)] at ht
  exact ht

theorem Books.started_nodup (hb : Books os made) : os.1.started.Nodup := by
  rw [hb.started]
  exact List.nodup_reverse.2 hb.logged_nodup

/-- Finalizing a notice for a registration made keeps the books: the entry of its number goes,
and the cleanup runs, and is logged and counted, exactly when it had not started. -/
theorem books_finalize (run : Nat → σ → Bool × σ) (hb : Books os made) (n : Notice Nat)
    (hn : n.id = UInt64.ofNat n.cleanup) (hmade : n.cleanup ∈ made) :
    Books (finalize (logged run) n os) made ∧
      (finalize (logged run) n os).2.2 =
        if n.cleanup ∈ os.2.2.map (·.1) then os.2.2
        else os.2.2 ++ [(n.cleanup, (run n.cleanup os.2.1).1)] := by
  have hlog : n.cleanup ∈ os.1.started ↔ n.cleanup ∈ os.2.2.map (·.1) := by
    rw [hb.started, List.mem_reverse]
  -- a registration other than the notice's keeps its entry while the counter has not wrapped
  have hother : ∀ k ∈ made, k ≠ n.cleanup → made.length < 2 ^ 64 → UInt64.ofNat k ≠ n.id :=
    fun k hk hne hlen he => hne (hb.ofNat_inj hlen hk hmade (he.trans hn))
  by_cases hs : n.cleanup ∈ os.1.started
  · -- started already: only the entry of its number goes
    rw [finalize_of_started _ _ _ hs, if_pos (hlog.1 hs)]
    refine ⟨⟨hb.places, hb.nextId, hb.registry_nodup.erase _, fun x hx => ?_, fun hlen k hk hks => ?_,
      hb.started_made, hb.started, hb.logged_nodup, hb.completed, hb.failed⟩, rfl⟩
    · exact hb.kept x (List.mem_of_mem_erase hx)
    · exact List.mem_erase_of_ne (hother k hk (fun he => hks (he ▸ hs)) hlen) |>.2
        (hb.whole hlen k hk hks)
  · rw [finalize_of_not_started _ _ _ hs, if_neg (mt hlog.2 hs)]
    refine ⟨?_, rfl⟩
    simp only [logged]
    refine ⟨hb.places, hb.nextId, hb.registry_nodup.erase _, fun x hx => ?_,
      fun hlen k hk hks => ?_, fun k hk => ?_, by simp [hb.started], ?_, ?_, ?_⟩
    · obtain ⟨hxn, hx⟩ := hb.registry_nodup.mem_erase_iff.1 hx
      obtain ⟨k, hk, hks, rfl⟩ := hb.kept x hx
      refine ⟨k, hk, fun h => ?_, rfl⟩
      rcases List.mem_cons.1 h with rfl | h
      · exact hxn hn.symm
      · exact hks h
    · have hne : k ≠ n.cleanup := fun he => hks (he ▸ List.mem_cons_self)
      exact (List.mem_erase_of_ne (hother k hk hne hlen)).2
        (hb.whole hlen k hk fun h => hks (List.mem_cons_of_mem _ h))
    · rcases List.mem_cons.1 hk with rfl | hk
      · exact hmade
      · exact hb.started_made k hk
    · rw [List.map_append, List.nodup_append]
      refine ⟨hb.logged_nodup, List.nodup_singleton _, fun a ha b hb' hab => ?_⟩
      simp only [List.map_cons, List.map_nil, List.mem_singleton] at hb'
      subst hb' hab
      exact (mt hlog.2 hs) ha
    -- the outcome of the cleanup decides which counter moves
    · by_cases hr : (run n.cleanup os.2.1).1 <;>
        simp [hr, hb.completed, List.countP_append, UInt64.ofNat_add]
    · by_cases hr : (run n.cleanup os.2.1).1 <;>
        simp [hr, hb.failed, List.countP_append, UInt64.ofNat_add]

/-- Finalizing notices for registrations made keeps the books, and logs the cleanups of exactly
those registrations among them whose cleanup had not run, each once. -/
theorem books_finalizeAll (run : Nat → σ → Bool × σ) {ns : List (Notice Nat)}
    (hns : ∀ n ∈ ns, n.id = UInt64.ofNat n.cleanup ∧ n.cleanup ∈ made) (hb : Books os made) :
    Books (finalizeAll (logged run) ns os) made ∧
      ∃ L, (finalizeAll (logged run) ns os).2.2 = os.2.2 ++ L ∧
        ∀ k, k ∈ L.map (·.1) ↔ (∃ n ∈ ns, n.cleanup = k) ∧ k ∉ os.2.2.map (·.1) := by
  induction ns generalizing os with
  | nil => exact ⟨hb, [], by simp [finalizeAll], by simp⟩
  | cons n ns ih =>
    obtain ⟨hn, hmade⟩ := hns n List.mem_cons_self
    obtain ⟨hb₁, hlog₁⟩ := books_finalize run hb n hn hmade
    obtain ⟨hb₂, L, hL, hmem⟩ := ih (fun m hm => hns m (List.mem_cons_of_mem _ hm)) hb₁
    rw [finalizeAll]
    -- the first notice logs its cleanup or nothing, then the rest log theirs
    by_cases hran : n.cleanup ∈ os.2.2.map (·.1)
    · rw [if_pos hran] at hlog₁
      refine ⟨hb₂, L, by rw [hL, hlog₁], fun k => ?_⟩
      rw [hmem, hlog₁]
      constructor
      · rintro ⟨⟨m, hm, rfl⟩, hnot⟩
        exact ⟨⟨m, List.mem_cons_of_mem _ hm, rfl⟩, hnot⟩
      · rintro ⟨⟨m, hm, rfl⟩, hnot⟩
        rcases List.mem_cons.1 hm with rfl | hm
        · exact absurd hran hnot
        · exact ⟨⟨m, hm, rfl⟩, hnot⟩
    · rw [if_neg hran] at hlog₁
      refine ⟨hb₂, (n.cleanup, (run n.cleanup os.2.1).1) :: L, by rw [hL, hlog₁]; simp,
        fun k => ?_⟩
      rw [List.map_cons, List.mem_cons, hmem, hlog₁]
      simp only [List.map_append, List.map_cons, List.map_nil, List.mem_append, List.mem_cons,
        List.not_mem_nil, or_false, not_or]
      constructor
      · rintro (rfl | ⟨⟨m, hm, rfl⟩, hnot, -⟩)
        · exact ⟨⟨n, Or.inl rfl, rfl⟩, hran⟩
        · exact ⟨⟨m, Or.inr hm, rfl⟩, hnot⟩
      · rintro ⟨⟨m, hm | hm, rfl⟩, hnot⟩
        · exact Or.inl (congrArg Notice.cleanup hm)
        · by_cases he : m.cleanup = n.cleanup
          · exact Or.inl he
          · exact Or.inr ⟨⟨m, hm, rfl⟩, hnot, he⟩

end Finalizing

/-! ## Histories -/

/-- The histories of a tracker whose cleanups are run by place through `run`, logged.
`Tracks run os live made`: the tracker and the cleanups' state and log are `os`, the owners of
the registrations in the places `live` still hold them, and `made` are the places of the
registrations made. The registration in place `k` has the number `k` modulo `2 ^ 64`. An owner
lets go once; a notice may be sent again for a registration whose owner already let go, which
joins the queue even after shutdown. -/
inductive Tracks (run : Nat → σ → Bool × σ) :
    Orphans Nat × σ × List (Nat × Bool) → List Nat → List Nat → Prop
  | init (s : σ) : Tracks run ({}, s, []) [] []
  | register {os live made} : Tracks run os live made →
      Tracks run (os.1.register.2, os.2) (live ++ [made.length + 1]) (made ++ [made.length + 1])
  | drop {os live made} (k : Nat) : Tracks run os live made → k ∈ live →
      Tracks run (post (logged run) ⟨UInt64.ofNat k, k⟩ os) (live.erase k) made
  | resend {os live made} (k : Nat) : Tracks run os live made → k ∈ made → k ∉ live →
      Tracks run ({ os.1 with queue := os.1.queue ++ [⟨UInt64.ofNat k, k⟩] }, os.2) live made
  | drain {os live made} : Tracks run os live made →
      Tracks run (drain (logged run) os).2 live made
  | receive {os live made} : Tracks run os live made →
      Tracks run (receive (logged run) os) live made
  | shutdown {os live made} : Tracks run os live made →
      Tracks run (shutdown (logged run) os) live made

/-- What the owners and the queue owe the tracker `o`: each owner holds a distinct registration
whose cleanup has not started, a registration whose cleanup has not started is held or has a
notice waiting, and a waiting notice is for a registration made whose owner let go, under its
number. -/
structure Owes (o : Orphans Nat) (live made : List Nat) : Prop where
  live_nodup : live.Nodup
  live_made : ∀ k ∈ live, k ∈ made
  live_unstarted : ∀ k ∈ live, k ∉ o.started
  waiting : ∀ k ∈ made, k ∉ o.started → k ∈ live ∨ ∃ n ∈ o.queue, n.cleanup = k
  queued : ∀ n ∈ o.queue, n.id = UInt64.ofNat n.cleanup ∧ n.cleanup ∈ made ∧ n.cleanup ∉ live

section Steps

variable {run : Nat → σ → Bool × σ} {os : Orphans Nat × σ × List (Nat × Bool)}
  {live made : List Nat}

theorem books_register (hb : Books os made) (ho : Owes os.1 live made) :
    Books (os.1.register.2, os.2) (made ++ [made.length + 1]) ∧
      Owes (os.1.register.2) (live ++ [made.length + 1]) (made ++ [made.length + 1]) := by
  -- the new place is past every place made, so it is in no list yet
  have hnew : made.length + 1 ∉ made := fun h => Nat.lt_irrefl _ (hb.lt_of_mem h)
  have hlive : made.length + 1 ∉ live := fun h => hnew (ho.live_made _ h)
  have hstarted : made.length + 1 ∉ os.1.started := fun h => hnew (hb.started_made _ h)
  have hreg : (os.1.register.2).registry = os.1.registry.insert (UInt64.ofNat (made.length + 1)) := by
    rw [← hb.nextId]
    rfl
  have hmem : ∀ {k}, k ∈ made ++ [made.length + 1] ↔ k ∈ made ∨ k = made.length + 1 := by
    simp
  refine ⟨⟨?_, ?_, ?_, fun x hx => ?_, fun hlen k hk hks => ?_, fun k hk => ?_, hb.started,
    hb.logged_nodup, hb.completed, hb.failed⟩, ⟨?_, fun k hk => ?_, fun k hk => ?_,
    fun k hk hks => ?_, fun n hn => ?_⟩⟩
  · rw [List.length_append, List.length_singleton, List.range'_concat]
    conv_lhs => rw [hb.places]
    rw [List.length_range']
    congr 2
    omega
  · show os.1.nextId + 1 = _
    rw [hb.nextId, List.length_append, List.length_singleton, UInt64.ofNat_add (made.length + 1) 1]
    rfl
  · rw [hreg]
    exact hb.registry_nodup.insert
  · rw [hreg, List.mem_insert_iff] at hx
    rcases hx with rfl | hx
    · exact ⟨_, hmem.2 (Or.inr rfl), hstarted, rfl⟩
    · obtain ⟨k, hk, hks, hkx⟩ := hb.kept x hx
      exact ⟨k, hmem.2 (Or.inl hk), hks, hkx⟩
  · rw [hreg, List.mem_insert_iff]
    rcases hmem.1 hk with hk | rfl
    · rw [List.length_append] at hlen
      exact Or.inr (hb.whole (by omega) k hk hks)
    · exact Or.inl rfl
  · exact hmem.2 (Or.inl (hb.started_made k hk))
  · exact List.nodup_append.2 ⟨ho.live_nodup, List.nodup_singleton _,
      fun a ha b hb' hab => hlive (by rw [List.mem_singleton.1 hb'] at hab; exact hab ▸ ha)⟩
  · rcases List.mem_append.1 hk with hk | hk
    · exact hmem.2 (Or.inl (ho.live_made k hk))
    · exact hmem.2 (Or.inr (List.mem_singleton.1 hk))
  · rcases List.mem_append.1 hk with hk | hk
    · exact ho.live_unstarted k hk
    · rw [List.mem_singleton.1 hk]
      exact hstarted
  · rcases hmem.1 hk with hk | rfl
    · exact (ho.waiting k hk hks).imp_left (List.mem_append_left _)
    · exact Or.inl (List.mem_append_right _ (List.mem_singleton_self _))
  · obtain ⟨hid, hm, hl⟩ := ho.queued n hn
    refine ⟨hid, hmem.2 (Or.inl hm), fun h => ?_⟩
    rcases List.mem_append.1 h with h | h
    · exact hl h
    · exact hnew (List.mem_singleton.1 h ▸ hm)

theorem books_drop (hb : Books os made) (ho : Owes os.1 live made) {k : Nat} (hk : k ∈ live) :
    Books (post (logged run) ⟨UInt64.ofNat k, k⟩ os) made ∧
      Owes (post (logged run) ⟨UInt64.ofNat k, k⟩ os).1 (live.erase k) made := by
  have hmade := ho.live_made k hk
  have herase : ∀ {x}, x ∈ live.erase k ↔ x ≠ k ∧ x ∈ live := ho.live_nodup.mem_erase_iff
  unfold post
  split
  · -- after shutdown the cleanup is finalized at once, and so starts
    obtain ⟨hb₁, -⟩ := books_finalize run hb ⟨UInt64.ofNat k, k⟩ rfl hmade
    have hst : (finalize (logged run) ⟨UInt64.ofNat k, k⟩ os).1.started = k :: os.1.started := by
      rw [started_finalize, if_neg (ho.live_unstarted k hk)]
    refine ⟨hb₁, ⟨ho.live_nodup.erase k, fun x hx => ho.live_made x (herase.1 hx).2,
      fun x hx => ?_, fun x hx hxs => ?_, fun n hn => ?_⟩⟩
    · obtain ⟨hne, hx⟩ := herase.1 hx
      rw [hst, List.mem_cons, not_or]
      exact ⟨hne, ho.live_unstarted x hx⟩
    · rw [hst, List.mem_cons, not_or] at hxs
      rw [queue_finalize]
      exact (ho.waiting x hx hxs.2).imp_left fun h => herase.2 ⟨hxs.1, h⟩
    · rw [queue_finalize] at hn
      obtain ⟨hid, hm, hl⟩ := ho.queued n hn
      exact ⟨hid, hm, fun h => hl (List.mem_of_mem_erase h)⟩
  · -- before shutdown its notice joins the queue
    refine ⟨⟨hb.places, hb.nextId, hb.registry_nodup, hb.kept, hb.whole, hb.started_made,
      hb.started, hb.logged_nodup, hb.completed, hb.failed⟩,
      ⟨ho.live_nodup.erase k, fun x hx => ho.live_made x (herase.1 hx).2,
        fun x hx => ho.live_unstarted x (herase.1 hx).2, fun x hx hxs => ?_, fun n hn => ?_⟩⟩
    · by_cases hxk : x = k
      · exact Or.inr ⟨⟨UInt64.ofNat k, k⟩, List.mem_append_right _ (List.mem_singleton_self _),
          hxk.symm⟩
      · rcases ho.waiting x hx hxs with h | ⟨n, hn, hnx⟩
        · exact Or.inl (herase.2 ⟨hxk, h⟩)
        · exact Or.inr ⟨n, List.mem_append_left _ hn, hnx⟩
    · rcases List.mem_append.1 hn with hn | hn
      · obtain ⟨hid, hm, hl⟩ := ho.queued n hn
        exact ⟨hid, hm, fun h => hl (List.mem_of_mem_erase h)⟩
      · rw [List.mem_singleton.1 hn]
        exact ⟨rfl, hmade, fun h => (herase.1 h).1 rfl⟩

theorem books_resend (hb : Books os made) (ho : Owes os.1 live made) {k : Nat} (hm : k ∈ made)
    (hl : k ∉ live) :
    Books ({ os.1 with queue := os.1.queue ++ [⟨UInt64.ofNat k, k⟩] }, os.2) made ∧
      Owes { os.1 with queue := os.1.queue ++ [⟨UInt64.ofNat k, k⟩] } live made := by
  refine ⟨⟨hb.places, hb.nextId, hb.registry_nodup, hb.kept, hb.whole, hb.started_made,
    hb.started, hb.logged_nodup, hb.completed, hb.failed⟩,
    ⟨ho.live_nodup, ho.live_made, ho.live_unstarted, fun x hx hxs => ?_, fun n hn => ?_⟩⟩
  · rcases ho.waiting x hx hxs with h | ⟨n, hn, hnx⟩
    · exact Or.inl h
    · exact Or.inr ⟨n, List.mem_append_left _ hn, hnx⟩
  · rcases List.mem_append.1 hn with hn | hn
    · exact ho.queued n hn
    · rw [List.mem_singleton.1 hn]
      exact ⟨rfl, hm, hl⟩

/-- A drain keeps the books and empties the queue: every waiting notice's cleanup has started. -/
theorem books_drain (hb : Books os made) (ho : Owes os.1 live made) :
    Books (drain (logged run) os).2 made ∧ Owes (drain (logged run) os).2.1 live made := by
  have hns : ∀ n ∈ os.1.queue, n.id = UInt64.ofNat n.cleanup ∧ n.cleanup ∈ made :=
    fun n hn => ⟨(ho.queued n hn).1, (ho.queued n hn).2.1⟩
  have hb₀ : Books ({ os.1 with queue := [] }, os.2) made :=
    ⟨hb.places, hb.nextId, hb.registry_nodup, hb.kept, hb.whole, hb.started_made, hb.started,
      hb.logged_nodup, hb.completed, hb.failed⟩
  obtain ⟨hb₁, -⟩ := books_finalizeAll run hns hb₀
  have hst := mem_started_finalizeAll (logged run) os.1.queue ({ os.1 with queue := [] }, os.2)
  have hdrain : (drain (logged run) os).2 =
      finalizeAll (logged run) os.1.queue ({ os.1 with queue := [] }, os.2) := rfl
  rw [hdrain]
  refine ⟨hb₁, ⟨ho.live_nodup, ho.live_made, fun x hx => ?_, fun x hx hxs => ?_, fun n hn => ?_⟩⟩
  · -- a held registration has no notice, so its cleanup did not start
    rw [hst x]
    rintro (h | ⟨n, hn, rfl⟩)
    · exact ho.live_unstarted x hx h
    · exact (ho.queued n hn).2.2 hx
  · rw [hst x, not_or] at hxs
    rcases ho.waiting x hx hxs.1 with h | h
    · exact Or.inl h
    · exact absurd h hxs.2
  · rw [queue_finalizeAll] at hn
    cases hn

/-- The loop's receive keeps the books: it finalizes the oldest waiting notice, whose cleanup
is then started, and the other notices still wait. -/
theorem books_receive (hb : Books os made) (ho : Owes os.1 live made) :
    Books (receive (logged run) os) made ∧ Owes (receive (logged run) os).1 live made := by
  cases hq : os.1.queue with
  | nil =>
    rw [receive_of_queue_nil _ os hq]
    exact ⟨hb, ho⟩
  | cons n ns =>
    rw [receive_of_queue_cons _ os hq]
    obtain ⟨hn, hmade, hnl⟩ := ho.queued n (hq ▸ List.mem_cons_self)
    have hb₀ : Books ({ os.1 with queue := ns }, os.2) made :=
      ⟨hb.places, hb.nextId, hb.registry_nodup, hb.kept, hb.whole, hb.started_made, hb.started,
        hb.logged_nodup, hb.completed, hb.failed⟩
    have hst := mem_started_finalize (logged run) n ({ os.1 with queue := ns }, os.2)
    refine ⟨(books_finalize run hb₀ n hn hmade).1, ⟨ho.live_nodup, ho.live_made, fun k hk => ?_,
      fun k hk hks => ?_, fun m hm => ?_⟩⟩
    · -- a held registration has no notice, so its cleanup did not start
      rw [hst k]
      rintro (h | rfl)
      · exact ho.live_unstarted k hk h
      · exact hnl hk
    · rw [hst k, not_or] at hks
      rcases ho.waiting k hk hks.1 with h | ⟨m, hm, rfl⟩
      · exact Or.inl h
      · -- the notice still waiting for it is not the one received
        rw [hq] at hm
        rcases List.mem_cons.1 hm with rfl | hm
        · exact absurd rfl hks.2
        · exact Or.inr ⟨m, by rw [queue_finalize]; exact hm, rfl⟩
    · rw [queue_finalize] at hm
      exact ho.queued m (hq ▸ List.mem_cons_of_mem _ hm)

/-- Along every history the tracker keeps its books, and the owners and the queue owe it what
`Owes` says. -/
theorem Tracks.books (h : Tracks run os live made) : Books os made ∧ Owes os.1 live made := by
  induction h with
  | init s =>
    exact ⟨⟨rfl, rfl, List.nodup_nil, fun _ h => absurd h List.not_mem_nil,
        fun _ _ h => absurd h List.not_mem_nil, fun _ h => absurd h List.not_mem_nil, rfl,
        List.nodup_nil, rfl, rfl⟩,
      ⟨List.nodup_nil, fun _ h => absurd h List.not_mem_nil, fun _ h => absurd h List.not_mem_nil,
        fun _ h => absurd h List.not_mem_nil, fun _ h => absurd h List.not_mem_nil⟩⟩
  | register _ ih => exact books_register ih.1 ih.2
  | drop k _ hk ih => exact books_drop ih.1 ih.2 hk
  | resend k _ hm hl ih => exact books_resend ih.1 ih.2 hm hl
  | drain _ ih => exact books_drain ih.1 ih.2
  | receive _ ih => exact books_receive ih.1 ih.2
  | @shutdown os live made _ ih =>
    -- shutting down drains a tracker that only differs in its flags
    have hb : Books ({ os.1 with stopped := true, working := false }, os.2) made :=
      ⟨ih.1.places, ih.1.nextId, ih.1.registry_nodup, ih.1.kept, ih.1.whole, ih.1.started_made,
        ih.1.started, ih.1.logged_nodup, ih.1.completed, ih.1.failed⟩
    have ho : Owes { os.1 with stopped := true, working := false } live made :=
      ⟨ih.2.live_nodup, ih.2.live_made, ih.2.live_unstarted, ih.2.waiting, ih.2.queued⟩
    exact books_drain hb ho

end Steps

/-! ## The account -/

section Account

variable {os : Orphans Nat × σ × List (Nat × Bool)} {made : List Nat}

/-- The registrations made are those whose cleanup started and those whose cleanup has not. -/
theorem Books.length_made (hb : Books os made) :
    made.length = os.1.started.length + (made.filter (· ∉ os.1.started)).length := by
  have hnd : made.Nodup := by
    rw [hb.places]
    exact List.nodup_range'
  -- the registrations among those made whose cleanup started are the started ones
  have hstarted : (made.filter (· ∈ os.1.started)).Perm os.1.started := by
    refine (List.perm_ext_iff_of_nodup (hnd.filter _) hb.started_nodup).2 fun k => ?_
    simp only [List.mem_filter, decide_eq_true_eq]
    exact ⟨fun h => h.2, fun h => ⟨hb.started_made k h, h⟩⟩
  have hsplit := (List.filter_append_perm (· ∈ os.1.started) made).length_eq
  rw [List.length_append, hstarted.length_eq] at hsplit
  rw [← hsplit]
  simp only [decide_not]

/-- The logged cleanups, split by outcome, are the started ones. -/
theorem Books.countP_add (hb : Books os made) :
    os.2.2.countP (·.2) + os.2.2.countP (!·.2) = os.1.started.length := by
  rw [hb.started, List.length_reverse, List.length_map,
    List.length_eq_countP_add_countP (fun x : Nat × Bool => x.2)]
  congr 1
  exact List.countP_congr fun x _ => by cases x.2 <;> simp

/-- The counters read the counts modulo `2 ^ 64`, so together they never pass the cleanups
started. -/
theorem Books.counters_le (hb : Books os made) :
    os.1.completed.toNat + os.1.failed.toNat ≤ os.1.started.length := by
  rw [hb.completed, hb.failed, UInt64.toNat_ofNat', UInt64.toNat_ofNat', ← hb.countP_add]
  exact Nat.add_le_add (Nat.mod_le _ _) (Nat.mod_le _ _)

/-- Below `2 ^ 64` cleanups started, the counters read the counts exactly. -/
theorem Books.counters_eq (hb : Books os made) (hlen : os.1.started.length < 2 ^ 64) :
    os.1.completed.toNat + os.1.failed.toNat = os.1.started.length := by
  have h := hb.countP_add
  rw [hb.completed, hb.failed, UInt64.toNat_ofNat', UInt64.toNat_ofNat',
    Nat.mod_eq_of_lt (by omega), Nat.mod_eq_of_lt (by omega), h]

/-- The entries are at most the numbers of the registrations whose cleanup has not started. -/
theorem Books.tracked_le (hb : Books os made) (ids : List UInt64)
    (h : ∀ k ∈ made, k ∉ os.1.started → UInt64.ofNat k ∈ ids) : os.1.tracked ≤ ids.length := by
  refine (hb.registry_nodup.subperm fun x hx => ?_).length_le
  obtain ⟨k, hk, hks, rfl⟩ := hb.kept x hx
  exact h k hk hks

/-- While the counter has not wrapped, each registration whose cleanup has not started has an
entry of its own. -/
theorem Books.tracked_eq (hb : Books os made) (hlen : made.length < 2 ^ 64) :
    os.1.tracked = (made.filter (· ∉ os.1.started)).length := by
  have hnd : made.Nodup := by
    rw [hb.places]
    exact List.nodup_range'
  have hperm : os.1.registry.Perm ((made.filter (· ∉ os.1.started)).map UInt64.ofNat) := by
    refine (List.perm_ext_iff_of_nodup hb.registry_nodup
      ((hnd.filter _).map_on fun j hj k hk h => hb.ofNat_inj hlen (List.mem_filter.1 hj).1
        (List.mem_filter.1 hk).1 h)).2 fun x => ⟨fun hx => ?_, fun hx => ?_⟩
    · obtain ⟨k, hk, hks, rfl⟩ := hb.kept x hx
      exact List.mem_map_of_mem (List.mem_filter.2 ⟨hk, by simpa using hks⟩)
    · obtain ⟨k, hk, rfl⟩ := List.mem_map.1 hx
      obtain ⟨hk, hks⟩ := List.mem_filter.1 hk
      exact hb.whole hlen k hk (by simpa using hks)
  rw [tracked, hperm.length_eq, List.length_map]

/-- A drain from a tracker that keeps its books answers the number of notices it took, duplicates
included, leaves none, and runs the cleanups of exactly the registrations among them whose cleanup
had not run. -/
theorem drain_log {run : Nat → σ → Bool × σ} (hb : Books os made)
    (hq : ∀ n ∈ os.1.queue, n.id = UInt64.ofNat n.cleanup ∧ n.cleanup ∈ made) :
    (drain (logged run) os).1 = os.1.queue.length ∧ (drain (logged run) os).2.1.queue = [] ∧
      ∃ L, (drain (logged run) os).2.2.2 = os.2.2 ++ L ∧
        ∀ k, k ∈ L.map (·.1) ↔ (∃ n ∈ os.1.queue, n.cleanup = k) ∧ k ∉ os.2.2.map (·.1) := by
  have hb₀ : Books ({ os.1 with queue := [] }, os.2) made :=
    ⟨hb.places, hb.nextId, hb.registry_nodup, hb.kept, hb.whole, hb.started_made, hb.started,
      hb.logged_nodup, hb.completed, hb.failed⟩
  exact ⟨rfl, queue_drain _ _, (books_finalizeAll run hq hb₀).2⟩

end Account

section Wrap

variable {run : Nat → σ → Bool × σ}

/-- Registering a cleanup, letting go of it and draining, `m` times over, beside a registration
that stays held in place 1. -/
theorem Tracks.churn :
    ∀ (m : Nat) {os : Orphans Nat × σ × List (Nat × Bool)} {made : List Nat},
      Tracks run os [1] made → 1 ∈ made →
      ∃ os' made', Tracks run os' [1] made' ∧ made'.length = made.length + m ∧ 1 ∈ made' ∧
        os'.1.queue = []
  | 0, os, made, h, h1 => by
    refine ⟨_, made, h.drain, rfl, h1, ?_⟩
    exact queue_drain _ _
  | m + 1, os, made, h, h1 => by
    have hpos : 0 < made.length := List.length_pos_of_mem h1
    -- the new place is past place 1, so letting go of it leaves place 1 held
    have hlive : ([1] ++ [made.length + 1]).erase (made.length + 1) = [1] := by
      rw [List.singleton_append, List.erase_cons_tail (by rw [beq_iff_eq]; omega), List.erase_cons_head]
    have h' := h.register.drop (made.length + 1) (by simp)
    rw [hlive] at h'
    obtain ⟨os', made', h'', hlen, h1', hq⟩ := Tracks.churn m h' (List.mem_append_left _ h1)
    refine ⟨os', made', h'', ?_, h1', hq⟩
    rw [hlen, List.length_append, List.length_singleton]
    omega

/-- **Once the counter wraps, the count falls short.** After `2 ^ 64 + 1` registrations, the
first still held and every other but the last let go and finalized, the last registration gets
the number of the first, takes over its entry, and the tracked registrations and the completed
and failed cleanups together number fewer than the registrations made. -/
theorem tracked_falls_short_after_wrap (s : σ) :
    ∃ os made, Tracks run os [1, 2 ^ 64 + 1] made ∧ made.length = 2 ^ 64 + 1 ∧
      os.1.tracked + os.1.completed.toNat + os.1.failed.toNat < made.length := by
  have h₁ : Tracks run _ [1] [1] := (Tracks.init s).register
  obtain ⟨os, made, h, hlen, h1, hq⟩ := Tracks.churn (2 ^ 64 - 1) h₁ (List.mem_singleton_self 1)
  rw [List.length_singleton] at hlen
  have h' := h.register
  rw [hlen, show 1 + (2 ^ 64 - 1) + 1 = 2 ^ 64 + 1 by norm_num, List.singleton_append] at h'
  refine ⟨_, _, h', by rw [List.length_append, hlen]; rfl, ?_⟩
  obtain ⟨hb, ho⟩ := h'.books
  -- only the two held registrations have cleanups that have not started
  have hq' : (os.1.register.2).queue = [] := hq
  have hwait : ∀ k ∈ made ++ [2 ^ 64 + 1], k ∉ (os.1.register.2).started →
      k = 1 ∨ k = 2 ^ 64 + 1 := by
    intro k hk hks
    rcases ho.waiting k hk hks with h | ⟨n, hn, -⟩
    · simpa using h
    · rw [hq'] at hn; cases hn
  -- both have the number 1, so at most one entry is left
  have htr := hb.tracked_le [1] fun k hk hks => by
    rcases hwait k hk hks with rfl | rfl <;> decide
  have hunstarted : ((made ++ [2 ^ 64 + 1]).filter (· ∉ (os.1.register.2).started)).length = 2 := by
    have hnd : (made ++ [2 ^ 64 + 1]).Nodup := by
      rw [hb.places]
      exact List.nodup_range'
    have hperm : ((made ++ [2 ^ 64 + 1]).filter (· ∉ (os.1.register.2).started)).Perm
        [1, 2 ^ 64 + 1] := by
      refine (List.perm_ext_iff_of_nodup (hnd.filter _) ho.live_nodup).2 fun k => ?_
      simp only [List.mem_filter, decide_eq_true_eq]
      constructor
      · rintro ⟨hk, hks⟩
        rcases hwait k hk hks with rfl | rfl <;> simp
      · intro hk
        exact ⟨ho.live_made k hk, ho.live_unstarted k hk⟩
    rw [hperm.length_eq]
    rfl
  have hmade := hb.length_made
  have hcount := hb.counters_le
  rw [hunstarted, List.length_append, hlen, List.length_singleton] at hmade
  rw [List.length_append, hlen, List.length_singleton]
  simp only [List.length_singleton] at htr
  show (os.1.register.2).tracked + (os.1.register.2).completed.toNat +
    (os.1.register.2).failed.toNat < _
  dsimp only at hmade hcount
  omega

end Wrap

end Orphans

end HandlePool
