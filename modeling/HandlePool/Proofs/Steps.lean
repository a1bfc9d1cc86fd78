import Mathlib.Logic.Relation
import HandlePool.Proofs.Reclamation
/-!
# What one step can do

Most steps of a session leave the pools alone: they move names, the clock, the scope or the
backend's switches, or let the workers act. Such a step is `Quiet`: the pools are as they
were, the grace queue only lost entries, no resource was opened, and every resource it closed
was in no live pool. That the workers close only such resources is what the ledger records:
a waiting notice is for a resource nobody holds, and a grace entry for one no pool has.

The other steps run one operation on one live pool: a lookup, a remove or a close through a
held handle, a bulk close, or dropping the pool; or they add a pool. `act_cases` says so for
every step, with the step's own shape, so that an invariant of the pools is proved once for
each of these operations and once for quiet steps.

A run is any sequence of moves: steps, scope changes, looks of the workers, ticks of the
clock, single notices received by the tracker's loop and shutdowns of one worker, as in
`Reachable`; `Move ok` admits only the steps `ok` allows where they are taken.

* `Ledger.uncached_of_free`, `Ledger.uncached_notice`: a handle nobody holds and a waiting
  notice are on resources in no live pool.
* `quiet_letGo`, `quiet_hold`, `quiet_sweep`, `quiet_runPending`, `quiet_receive`,
  `quiet_stopCloser`, `quiet_stopTracker`, `quiet_settle`: the workers and the holders keep
  steps quiet.
* `act_cases`: every step is quiet or one pool operation.
* `ledger_move`, `Reachable.move`, `moves_runSteps`: runs keep the ledger and reachability, and
  every script is a run.
* `Move.act_or_worker`, `Move.quiet`: a move is a step, or a quiet move of the workers, the
  clock or the scope.
* `Reachable.induction_quiet`: an invariant kept by every step and every quiet move holds in
  every reachable world.
-/

namespace HandlePool

namespace Resources

/-- A pass through the guard of the resource `m` closes no other resource. -/
theorem shut_of_shut_closeOnce {rs : Resources} {m n : Nat} {reply : Resource → CloseReply}
    (h : (rs.closeOnce m reply).2.Shut n) : rs.Shut n ∨ n = m := by
  induction rs with
  | nil => obtain ⟨x, hx, -⟩ := h; cases hx
  | cons r rest ih =>
    unfold closeOnce at h
    split at h
    · rename_i hs
      obtain ⟨x, hx, hxs, hxc⟩ := h
      rcases List.mem_cons.1 hx with rfl | hx
      · right
        rw [← hxs, (Resource.later_closeOnce r _).serial]
        simpa using hs
      · exact Or.inl ⟨x, List.mem_cons_of_mem _ hx, hxs, hxc⟩
    · obtain ⟨x, hx, hxs, hxc⟩ := h
      rcases List.mem_cons.1 hx with rfl | hx
      · exact Or.inl ⟨x, List.mem_cons_self, hxs, hxc⟩
      · rcases ih ⟨x, hx, hxs, hxc⟩ with ⟨y, hy, hys, hyc⟩ | hm
        · exact Or.inl ⟨y, List.mem_cons_of_mem _ hy, hys, hyc⟩
        · exact Or.inr hm

end Resources

namespace Backend

/-- `b'` is `b` after closes of resources that `P` allows: nothing was opened, and each
resource closed in `b'` was closed in `b` or is allowed. -/
def ClosesOnly (P : Nat → Prop) (b b' : Backend) : Prop :=
  b'.resources.length = b.resources.length ∧ ∀ n, b'.resources.Shut n → b.resources.Shut n ∨ P n

theorem ClosesOnly.refl (P : Nat → Prop) (b : Backend) : b.ClosesOnly P b :=
  ⟨rfl, fun _ h => Or.inl h⟩

theorem ClosesOnly.trans {P : Nat → Prop} {b b' b'' : Backend} (h₁ : b.ClosesOnly P b')
    (h₂ : b'.ClosesOnly P b'') : b.ClosesOnly P b'' :=
  ⟨h₂.1.trans h₁.1, fun n hn => (h₂.2 n hn).elim (h₁.2 n) Or.inr⟩

theorem closesOnly_close {P : Nat → Prop} {m : Nat} (hm : P m) (b : Backend) :
    b.ClosesOnly P (b.close m).2 :=
  ⟨Resources.length_closeOnce _ _ _,
    fun n hn => (Resources.shut_of_shut_closeOnce hn).imp_right fun h : n = m => h ▸ hm⟩

theorem closesOnly_cleanup {P : Nat → Prop} {m : Nat} (hm : P m) (b : Backend) :
    b.ClosesOnly P (b.cleanup m).2 :=
  closesOnly_close hm b

end Backend

namespace World

open Backend

/-- No entry of a live pool is on the resource `n`. -/
def Uncached (w : World) (n : Nat) : Prop := ∀ j e, w.CachedAt j e → e.handle.serial ≠ n

/-- `w'` is `w` after a step that left the pools alone: the grace queue only lost entries, no
resource was opened, and every resource closed meanwhile was in no live pool of `w`. -/
structure Quiet (w w' : World) : Prop where
  config : w'.config = w.config
  pools : w'.pools = w.pools
  grace : w'.grace.queue.Sublist w.grace.queue
  backend : w.backend.ClosesOnly w.Uncached w'.backend

theorem uncached_congr {w w' : World} (hp : w'.pools = w.pools) (n : Nat) :
    w'.Uncached n ↔ w.Uncached n := by
  unfold Uncached
  simp only [cachedAt_congr hp]

theorem Quiet.refl (w : World) : Quiet w w :=
  ⟨rfl, rfl, List.Sublist.refl _, ClosesOnly.refl _ _⟩

theorem Quiet.trans {w₁ w₂ w₃ : World} (h₁ : Quiet w₁ w₂) (h₂ : Quiet w₂ w₃) : Quiet w₁ w₃ := by
  refine ⟨h₂.config.trans h₁.config, h₂.pools.trans h₁.pools, h₂.grace.trans h₁.grace,
    h₂.backend.1.trans h₁.backend.1, fun n hn => ?_⟩
  -- a resource closed by the second step was in no live pool of the middle world, which has
  -- the same pools as the first
  rcases h₂.backend.2 n hn with hs | hu
  · exact h₁.backend.2 n hs
  · exact Or.inr ((uncached_congr h₁.pools n).1 hu)

theorem Quiet.of_eq {w w' : World} (hc : w'.config = w.config) (hp : w'.pools = w.pools)
    (hg : w'.grace.queue = w.grace.queue) (hb : w'.backend.resources = w.backend.resources) :
    Quiet w w' :=
  ⟨hc, hp, hg ▸ List.Sublist.refl _, by rw [ClosesOnly, hb]; exact ClosesOnly.refl _ _⟩

theorem Quiet.uncached {w w' : World} (h : Quiet w w') (n : Nat) : w'.Uncached n ↔ w.Uncached n :=
  uncached_congr h.pools n

section Workers

variable {D : List Handle} {w : World}

/-- A handle that nobody holds is on a resource in no live pool: an entry on that resource would
hold this very handle, both being registered under the resource's number. -/
theorem Ledger.uncached_of_free {h : Handle} (hl : w.Ledger (h :: D)) (hfree : w.holds h = false) :
    w.Uncached h.serial := by
  intro j e he hs
  obtain ⟨hreg, -⟩ := hl.dropped h List.mem_cons_self
  obtain ⟨hreg', -⟩ := hl.handle e.handle (Or.inr ⟨j, e, he, rfl⟩)
  have heq : e.handle = h := by
    cases hh : e.handle
    cases h
    simp_all
  rw [← heq, (holds_iff w _).2 (Or.inr ⟨j, e, he, rfl⟩)] at hfree
  cases hfree

/-- A waiting notice is for a resource in no live pool. -/
theorem Ledger.uncached_notice (hl : w.Ledger D) {x : Notice Nat} (hx : x ∈ w.orphans.queue) :
    w.Uncached x.cleanup := by
  intro j e he hs
  exact (hl.notice x hx).2.2 e.handle (Or.inr ⟨j, e, he, rfl⟩) hs

/-- A grace entry is for a resource in no live pool. -/
theorem Ledger.uncached_grace (hl : w.Ledger D) {g : Pending} (hg : g ∈ w.grace.queue) :
    w.Uncached g.serial :=
  (hl.grace g hg).2

theorem quiet_letGo {h : Handle} (hl : w.Ledger (h :: D)) : Quiet w (w.letGo h) := by
  unfold letGo
  split
  · exact Quiet.refl w
  · rename_i hfree
    rw [withOrphans_eq]
    -- after shutdown the cleanup closes the handle's own resource, which no pool has
    have hun := hl.uncached_of_free (by simpa using hfree)
    exact ⟨rfl, rfl, List.Sublist.refl _,
      Orphans.rel_post_of Backend.cleanup (ClosesOnly w.Uncached) (ClosesOnly.refl _)
        ⟨h.registration, h.serial⟩ (w.orphans, w.backend) (closesOnly_cleanup hun)⟩

/-- Changing only the names callers hold handles under is quiet. -/
theorem quiet_held (held : Named Handle) : Quiet w { w with held := held } :=
  Quiet.of_eq rfl rfl rfl rfl

theorem quiet_hold {h : Handle} (hl : w.Ledger D) (hh : w.Holds h) (name : String) :
    Quiet w (w.hold name h) := by
  have hb := hl.bind hh name
  unfold hold
  generalize w.held.bind name h = r at hb
  obtain ⟨held, old⟩ := r
  cases old with
  | none => exact quiet_held held
  | some o => exact (quiet_held held).trans (quiet_letGo hb)

theorem quiet_release (hl : w.Ledger D) (name : String) : Quiet w (w.act (.release name)).2 := by
  have hu := hl.unbind name
  simp only [act]
  generalize w.held.unbind name = r at hu
  obtain ⟨held, old⟩ := r
  cases old with
  | none => exact Quiet.refl w
  | some o => exact (quiet_held held).trans (quiet_letGo hu)

theorem quiet_sweep (hl : w.Ledger D) : Quiet w w.sweep.2 :=
  ⟨rfl, rfl, GraceQueue.sublist_sweep Backend.close _ _,
    GraceQueue.rel_sweep_of Backend.close (ClosesOnly w.Uncached) (ClosesOnly.refl _)
      ClosesOnly.trans w.clock.elapsed (w.grace, w.backend)
      fun _ hg => closesOnly_close (hl.uncached_grace hg)⟩

theorem quiet_runPending (hl : w.Ledger D) : Quiet w w.runPending.2 :=
  ⟨rfl, rfl, List.Sublist.refl _,
    Orphans.rel_drain_of Backend.cleanup (ClosesOnly w.Uncached) (ClosesOnly.refl _)
      ClosesOnly.trans (w.orphans, w.backend) fun _ hx => closesOnly_cleanup (hl.uncached_notice hx)⟩

theorem quiet_receive (hl : w.Ledger D) : Quiet w w.receive := by
  unfold receive
  split
  · exact ⟨rfl, rfl, List.Sublist.refl _,
      Orphans.rel_receive_of Backend.cleanup (ClosesOnly w.Uncached) (ClosesOnly.refl _)
        (w.orphans, w.backend) fun _ hx => closesOnly_cleanup (hl.uncached_notice hx)⟩
  · exact Quiet.refl w

theorem quiet_stopCloser (hl : w.Ledger D) : Quiet w w.stopCloser := by
  have hg := GraceQueue.rel_shutdown_of Backend.close (ClosesOnly w.Uncached) (ClosesOnly.refl _)
    ClosesOnly.trans (w.grace, w.backend) fun _ hg => closesOnly_close (hl.uncached_grace hg)
  refine ⟨rfl, rfl, ?_, hg⟩
  rw [stopCloser, withGrace_eq, (GraceQueue.queue_shutdown Backend.close _).1]
  exact List.nil_sublist _

theorem quiet_stopTracker (hl : w.Ledger D) : Quiet w w.stopTracker :=
  ⟨rfl, rfl, List.Sublist.refl _,
    Orphans.rel_shutdown_of Backend.cleanup (ClosesOnly w.Uncached) (ClosesOnly.refl _)
      ClosesOnly.trans (w.orphans, w.backend) fun _ hx => closesOnly_cleanup (hl.uncached_notice hx)⟩

theorem quiet_shutdown (hl : w.Ledger D) : Quiet w w.shutdown :=
  (quiet_stopCloser hl).trans (quiet_stopTracker (ledger_stopCloser hl))

theorem quiet_settle (hl : w.Ledger D) : Quiet w w.settle := by
  have hloop : Quiet w (if w.orphans.isRunning then w.runPending.2 else w) ∧
      (if w.orphans.isRunning then w.runPending.2 else w).Ledger D := by
    split
    · exact ⟨quiet_runPending hl, ledger_runPending hl⟩
    · exact ⟨Quiet.refl w, hl⟩
  unfold settle
  dsimp only
  generalize (if w.orphans.isRunning then w.runPending.2 else w) = w₁ at hloop ⊢
  split
  · exact hloop.1.trans (quiet_sweep hloop.2)
  · exact hloop.1

theorem quiet_tick : Quiet w w.tick := Quiet.of_eq rfl rfl rfl rfl

theorem quiet_watch (goal : List (String × Option Reading)) :
    ∀ (n : Nat) (w : World), w.Ledger D → Quiet w (watch settle tick meters goal n w).2
  | 0, w, _ => Quiet.refl w
  | n + 1, w, hl => by
    simp only [watch]
    split
    · exact quiet_settle hl
    · exact ((quiet_settle hl).trans quiet_tick).trans
        (quiet_watch goal n _ (ledger_tick (ledger_settle hl)))

theorem quiet_start : Quiet w w.start := by
  have hg : w.grace.start.queue = w.grace.queue := by
    unfold GraceQueue.start; split <;> rfl
  exact Quiet.of_eq rfl rfl hg rfl

theorem quiet_onManualClock (f : Fault) (g : Clock → Clock) : Quiet w (w.onManualClock f g).2 := by
  unfold onManualClock
  split
  · exact Quiet.of_eq rfl rfl rfl rfl
  · exact Quiet.refl w

end Workers

/-! ## The lookup a step makes -/

/-- The lookup a step makes: target `t` as `pr` in pool `i`, shared or exclusive, its handle held
under `name` if one is given. A lookup as the current user takes its principal from the pool's
identity source in the world's scope. -/
inductive Asks (w : World) : PoolStep → Nat → Target → Principal → Bool → Option String → Prop
  | get {i : Nat} {uri : String} {t : Target} {pr : Principal} {ex : Bool} {name : Option String} :
      Target.parse uri = .ok t → Asks w (.get i uri pr ex name) i t pr ex name
  | getCurrent {i : Nat} {uri : String} {t : Target} {ex : Bool} {name : Option String} {p : Pool}
      {src : IdentitySource} {pr : Principal} :
      Target.parse uri = .ok t → w.pool? i = some p → p.identity = some src →
      src.current w.scope = .ok pr → Asks w (.getCurrent i uri ex name) i t pr ex name

/-- **What one step can do.** A step is quiet, or it makes a lookup in a live pool, removes or
closes through a held handle, bulk-closes or drops a live pool, or adds a pool. -/
theorem act_cases {w : World} (hl : w.Ledger []) (s : PoolStep) :
    Quiet w (w.act s).2 ∨
    (∃ i p t pr ex name, w.pool? i = some p ∧ w.Asks s i t pr ex name ∧
      (w.act s).2 = (w.lookupAs i p t pr ex name).2) ∨
    (∃ i p name h, w.pool? i = some p ∧ w.held.lookup name = some h ∧
      (s = .remove i name ∧ (w.act s).2 = (w.remove i p h).2 ∨
        s = .close i name ∧ (w.act s).2 = (w.close i p h).2)) ∨
    (∃ i p, w.pool? i = some p ∧
      (s = .closeAllShared i ∧ (w.act s).2 = (w.closeAll i p).2 ∨
        s = .dropPool i ∧ (w.act s).2 = w.dropPool i p)) ∨
    (∃ identity, s = .newPool identity ∧
      (w.act s).2 = { w with pools := w.pools ++ [some { identity }] }) := by
  generalize hw' : (w.act s).2 = w'
  -- a step refused before it reaches a pool or a handle changes nothing
  have hrefl : w = w' → Quiet w w' := fun h => h ▸ Quiet.refl w
  cases s with
  | get i uri pr ex name =>
    simp only [act, onPool] at hw'
    split at hw'
    · rename_i p hp
      split at hw'
      · exact Or.inl (hrefl hw')
      · rename_i t ht
        exact Or.inr (Or.inl ⟨i, p, t, pr, ex, name, hp, .get ht, hw'.symm⟩)
    · exact Or.inl (hrefl hw')
  | getCurrent i uri ex name =>
    simp only [act, onPool] at hw'
    split at hw'
    · rename_i p hp
      split at hw'
      · exact Or.inl (hrefl hw')
      · rename_i t ht
        split at hw'
        · exact Or.inl (hrefl hw')
        · rename_i src hsrc
          split at hw'
          · exact Or.inl (hrefl hw')
          · rename_i pr hpr
            exact Or.inr (Or.inl ⟨i, p, t, pr, ex, name, hp, .getCurrent ht hp hsrc hpr, hw'.symm⟩)
    · exact Or.inl (hrefl hw')
  | runAs pr steps => exact Or.inl (hrefl hw')
  | remove i name =>
    simp only [act, onPool, onHandle] at hw'
    split at hw'
    · rename_i p hp
      split at hw'
      · rename_i h hh
        exact Or.inr (Or.inr (Or.inl ⟨i, p, name, h, hp, hh, Or.inl ⟨rfl, hw'.symm⟩⟩))
      · exact Or.inl (hrefl hw')
    · exact Or.inl (hrefl hw')
  | close i name =>
    simp only [act, onPool, onHandle] at hw'
    split at hw'
    · rename_i p hp
      split at hw'
      · rename_i h hh
        exact Or.inr (Or.inr (Or.inl ⟨i, p, name, h, hp, hh, Or.inr ⟨rfl, hw'.symm⟩⟩))
      · exact Or.inl (hrefl hw')
    · exact Or.inl (hrefl hw')
  | closeAllShared i =>
    -- whatever the bulk close gathered, the world is the one it left
    simp only [act_closeAllShared_snd, onPool] at hw'
    split at hw'
    · rename_i p hp
      exact Or.inr (Or.inr (Or.inr (Or.inl ⟨i, p, hp, Or.inl ⟨rfl, hw'.symm⟩⟩)))
    · exact Or.inl (hrefl hw')
  | closeAllFiltered i f =>
    simp only [act, onPool] at hw'
    split at hw' <;> exact Or.inl (hrefl hw')
  | share source name =>
    simp only [act, onHandle] at hw'
    split at hw'
    · rename_i h hh
      subst hw'
      exact Or.inl (quiet_hold hl (Or.inl ⟨source, Named.mem_of_lookup hh⟩) name)
    · exact Or.inl (hrefl hw')
  | release name => subst hw'; exact Or.inl (quiet_release hl name)
  | same a b =>
    simp only [act, onHandle] at hw'
    split at hw'
    · split at hw' <;> exact Or.inl (hrefl hw')
    · exact Or.inl (hrefl hw')
  | isClosed name =>
    simp only [act, onHandle] at hw'
    split at hw' <;> exact Or.inl (hrefl hw')
  | inspect name =>
    simp only [act, onHandle] at hw'
    split at hw'
    · split at hw' <;> exact Or.inl (hrefl hw')
    · exact Or.inl (hrefl hw')
  | advance ms => subst hw'; exact Or.inl (quiet_onManualClock _ _)
  | setElapsed ms => subst hw'; exact Or.inl (quiet_onManualClock _ _)
  | clockElapsed => subst hw'; exact Or.inl (quiet_onManualClock _ _)
  | sweep => subst hw'; exact Or.inl (quiet_sweep hl)
  | runPending => subst hw'; exact Or.inl (quiet_runPending hl)
  | setSwitches o c => subst hw'; exact Or.inl (Quiet.of_eq rfl rfl rfl rfl)
  | shutdown => subst hw'; exact Or.inl (quiet_shutdown hl)
  | start => subst hw'; exact Or.inl quiet_start
  | isRunning => exact Or.inl (hrefl hw')
  | statistics i =>
    simp only [act, onPool] at hw'
    split at hw' <;> exact Or.inl (hrefl hw')
  | workerStatistics => exact Or.inl (hrefl hw')
  | config i =>
    simp only [act, onPool] at hw'
    split at hw' <;> exact Or.inl (hrefl hw')
  | contextConfig => exact Or.inl (hrefl hw')
  | isEmpty i =>
    simp only [act, onPool] at hw'
    split at hw' <;> exact Or.inl (hrefl hw')
  | size i =>
    simp only [act, onPool] at hw'
    split at hw' <;> exact Or.inl (hrefl hw')
  | newPool identity => exact Or.inr (Or.inr (Or.inr (Or.inr ⟨identity, rfl, hw'.symm⟩)))
  | dropPool i =>
    simp only [act, onPool] at hw'
    split at hw'
    · rename_i p hp
      exact Or.inr (Or.inr (Or.inr (Or.inl ⟨i, p, hp, Or.inr ⟨rfl, hw'.symm⟩⟩)))
    · exact Or.inl (hrefl hw')
  | wait goal =>
    simp only [act] at hw'
    split at hw'
    · exact Or.inl (hrefl hw')
    · subst hw'
      exact Or.inl (quiet_watch goal _ w hl)
  | invalid m => exact Or.inl (hrefl hw')

/-! ## Runs -/

/-- One move of a world: a step that `ok` allows where it is taken, entering or leaving a
scope, a look of the workers, a tick of the clock, a notice received by the tracker's loop, or
the shutdown of one worker. -/
inductive Move (ok : World → PoolStep → Prop) : World → World → Prop
  | act {w : World} (s : PoolStep) : ok w s → Move ok w (w.act s).2
  | rescope {w : World} (scope : Scope) : Move ok w { w with scope := scope }
  | settle {w : World} : Move ok w w.settle
  | tick {w : World} : Move ok w w.tick
  | receive {w : World} : Move ok w w.receive
  | stopCloser {w : World} : Move ok w w.stopCloser
  | stopTracker {w : World} : Move ok w w.stopTracker

theorem ledger_move {ok : World → PoolStep → Prop} {w w' : World} (hl : w.Ledger [])
    (hm : Move ok w w') : w'.Ledger [] := by
  cases hm with
  | act s _ => exact ledger_act hl s
  | rescope scope => exact hl.congr rfl rfl rfl rfl rfl rfl rfl (Nat.le_refl _)
  | settle => exact ledger_settle hl
  | tick => exact ledger_tick hl
  | receive => exact ledger_receive hl
  | stopCloser => exact ledger_stopCloser hl
  | stopTracker => exact ledger_stopTracker hl

theorem ledger_moves {ok : World → PoolStep → Prop} {w w' : World} (hl : w.Ledger [])
    (hr : Relation.ReflTransGen (Move ok) w w') : w'.Ledger [] := by
  induction hr with
  | refl => exact hl
  | tail _ hm ih => exact ledger_move ih hm

theorem Reachable.move {ok : World → PoolStep → Prop} {w w' : World} (hw : w.Reachable)
    (hm : Move ok w w') : w'.Reachable := by
  cases hm with
  | act s _ => exact hw.act s
  | rescope scope => exact hw.rescope scope
  | settle => exact hw.settle
  | tick => exact hw.tick
  | receive => exact hw.receive
  | stopCloser => exact hw.stopCloser
  | stopTracker => exact hw.stopTracker

theorem Reachable.moves {ok : World → PoolStep → Prop} {w w' : World} (hw : w.Reachable)
    (hr : Relation.ReflTransGen (Move ok) w w') : w'.Reachable := by
  induction hr with
  | refl => exact hw
  | tail _ hm ih => exact ih.move hm

theorem Move.mono {ok ok' : World → PoolStep → Prop} {w w' : World} (h : ∀ w s, ok w s → ok' w s)
    (hm : Move ok w w') : Move ok' w w' := by
  cases hm with
  | act s hs => exact .act s (h _ _ hs)
  | rescope scope => exact .rescope scope
  | settle => exact .settle
  | tick => exact .tick
  | receive => exact .receive
  | stopCloser => exact .stopCloser
  | stopTracker => exact .stopTracker

/-- A move takes a step that `ok` allows, or no step at all. -/
theorem Move.act_or_worker {ok : World → PoolStep → Prop} {w w' : World} (hm : Move ok w w') :
    (∃ s, ok w s ∧ w' = (w.act s).2) ∨ Move (fun _ _ => False) w w' := by
  cases hm with
  | act s hs => exact Or.inl ⟨s, hs, rfl⟩
  | rescope scope => exact Or.inr (.rescope scope)
  | settle => exact Or.inr .settle
  | tick => exact Or.inr .tick
  | receive => exact Or.inr .receive
  | stopCloser => exact Or.inr .stopCloser
  | stopTracker => exact Or.inr .stopTracker

/-- A move that takes no step is quiet: only the workers, the clock or the scope moved. -/
theorem Move.quiet {D : List Handle} {w w' : World} (hl : w.Ledger D)
    (hm : Move (fun _ _ => False) w w') : Quiet w w' := by
  cases hm with
  | act s hs => exact hs.elim
  | rescope scope => exact Quiet.of_eq rfl rfl rfl rfl
  | settle => exact quiet_settle hl
  | tick => exact quiet_tick
  | receive => exact quiet_receive hl
  | stopCloser => exact quiet_stopCloser hl
  | stopTracker => exact quiet_stopTracker hl

/-- What holds of every new world, is kept by every step and by every quiet move, holds in every
reachable world: the moves of the workers, the clock and the scope are all quiet. -/
theorem Reachable.induction_quiet {P : World → Prop}
    (hcreate : ∀ config kind identity answers, P (World.create config kind identity answers))
    (hact : ∀ w s, w.Reachable → P w → P (w.act s).2)
    (hquiet : ∀ w w', w.Reachable → Quiet w w' → P w → P w') {w : World} (hw : w.Reachable) :
    P w := by
  induction hw with
  | create config kind identity answers => exact hcreate config kind identity answers
  | act s hw ih => exact hact _ s hw ih
  | rescope scope hw ih =>
    exact hquiet _ _ hw (Move.quiet (ledger_of_reachable hw) (.rescope scope)) ih
  | settle hw ih => exact hquiet _ _ hw (Move.quiet (ledger_of_reachable hw) .settle) ih
  | tick hw ih => exact hquiet _ _ hw (Move.quiet (ledger_of_reachable hw) .tick) ih
  | receive hw ih => exact hquiet _ _ hw (Move.quiet (ledger_of_reachable hw) .receive) ih
  | stopCloser hw ih => exact hquiet _ _ hw (Move.quiet (ledger_of_reachable hw) .stopCloser) ih
  | stopTracker hw ih => exact hquiet _ _ hw (Move.quiet (ledger_of_reachable hw) .stopTracker) ih

/-- Every script, nested scopes and waits included, is a run. -/
theorem moves_runSteps (w : World) (ss : List PoolStep) :
    Relation.ReflTransGen (Move fun _ _ => True) w (w.runSteps ss).2 :=
  rel_runSteps (fun w w' => Relation.ReflTransGen (Move fun _ _ => True) w w')
    (fun _ => Relation.ReflTransGen.refl) (fun h₁ h₂ => h₁.trans h₂)
    (fun {w₁ _} sc sc' h => by
      -- leave the scope of the first world, run, and enter the scope of the second
      have back : Move (fun _ _ => True) { w₁ with scope := sc } w₁ := Move.rescope w₁.scope
      exact ((Relation.ReflTransGen.single back).trans h).tail (Move.rescope sc'))
    (fun w s => Relation.ReflTransGen.single (Move.act s trivial)) w ss

end World

end HandlePool
