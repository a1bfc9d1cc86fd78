import HandlePool.Session.Pool
/-!
# Reachable worlds

A pool session starts from a freshly created world and moves it step by step. Besides the
steps, the background workers act whenever a waiting step looks (`settle`), time passes between
two looks (`tick`), and nested steps run with a principal entered in scope before coming back
to the outer scope. Between any two steps the tracker's loop may also receive one notice
(`receive`), and a caller may shut the grace queue or the tracker down alone (`stopCloser`,
`stopTracker`). `Reachable` is every world these moves lead to, from any configuration,
clock, identity source and backend answers. Invariants are proved over it by induction, one case
per move; the worlds a wait passes through, and those inside a nested scope, are reachable too.

* `Reachable.runStep`, `Reachable.runSteps`: a step, and a whole script, lead from a reachable
  world to a reachable world.
* `rel_runStep`, `rel_runSteps`: a relation between worlds that every move satisfies, that
  composes and that does not look at the scope, holds across a whole step and a whole script.
-/

namespace HandlePool

namespace World

/-- The worlds a pool session can be in. -/
inductive Reachable : World → Prop
  | create (config : Config) (kind : ClockKind) (identity : Option IdentitySource)
      (answers : Answers) : Reachable (World.create config kind identity answers)
  | act {w : World} (s : PoolStep) : Reachable w → Reachable (w.act s).2
  | rescope {w : World} (scope : Scope) : Reachable w → Reachable { w with scope := scope }
  | settle {w : World} : Reachable w → Reachable w.settle
  | tick {w : World} : Reachable w → Reachable w.tick
  | receive {w : World} : Reachable w → Reachable w.receive
  | stopCloser {w : World} : Reachable w → Reachable w.stopCloser
  | stopTracker {w : World} : Reachable w → Reachable w.stopTracker

theorem runStep_runAs (w : World) (pr : Principal) (steps : List PoolStep) :
    (w.runStep (.runAs pr steps)).2 =
      { (runSteps { w with scope := pr :: w.scope } steps).2 with
        scope := Scope.leave (runSteps { w with scope := pr :: w.scope } steps).2.scope } := by
  rw [runStep]

theorem runStep_of_ne (w : World) (s : PoolStep) (h : ∀ pr steps, s ≠ .runAs pr steps) :
    w.runStep s = w.act s := by
  cases s
  case runAs pr steps => exact absurd rfl (h pr steps)
  all_goals rfl

theorem runSteps_cons (w : World) (s : PoolStep) (ss : List PoolStep) :
    (w.runSteps (s :: ss)).2 = ((w.runStep s).2.runSteps ss).2 := by
  rw [runSteps]

theorem Reachable.watch (goal : List (String × Option Reading)) :
    ∀ (n : Nat) (w : World), w.Reachable →
      (HandlePool.watch World.settle World.tick World.meters goal n w).2.Reachable
  | 0, _, hw => hw
  | n + 1, w, hw => by
    simp only [HandlePool.watch]
    split
    · exact hw.settle
    · exact Reachable.watch goal n _ hw.settle.tick

/-- A step and a script lead from a reachable world to reachable worlds. -/
theorem Reachable.run :
    (∀ (w : World) (s : PoolStep), w.Reachable → (w.runStep s).2.Reachable) ∧
      ∀ (w : World) (ss : List PoolStep), w.Reachable → (w.runSteps ss).2.Reachable := by
  apply runStep.mutual_induct
    (fun w s => w.Reachable → (w.runStep s).2.Reachable)
    (fun w ss => w.Reachable → (w.runSteps ss).2.Reachable)
  case case1 =>
    intro w pr steps answers w' hrun ih hw
    have inner := ih (hw.rescope _)
    rw [hrun] at inner
    rw [runStep_runAs, hrun]
    exact inner.rescope _
  case case2 =>
    intro w s hs hw
    rw [runStep_of_ne w s fun pr steps h => hs pr steps h]
    exact hw.act s
  case case3 =>
    intro w hw
    exact hw
  case case4 =>
    intro w s ss o w₁ hstep answers w' hrun ih₁ ih₂ hw
    rw [runSteps_cons, hstep]
    exact ih₂ (by simpa [hstep] using ih₁ hw)

theorem Reachable.runStep {w : World} (s : PoolStep) (hw : w.Reachable) :
    (w.runStep s).2.Reachable :=
  Reachable.run.1 w s hw

theorem Reachable.runSteps {w : World} (ss : List PoolStep) (hw : w.Reachable) :
    (w.runSteps ss).2.Reachable :=
  Reachable.run.2 w ss hw

section Relation

/-! ## Relations that hold across steps

A relation `R` between a world and a later one, such as "no closed resource was touched",
holds across whole steps once every single move satisfies it, it composes, and it ignores
the scope. -/

variable (R : World → World → Prop) (refl : ∀ w, R w w)
  (trans : ∀ {a b c : World}, R a b → R b c → R a c)
  (scope : ∀ {w w' : World} (sc sc' : Scope), R w w' →
    R { w with scope := sc } { w' with scope := sc' })
  (act : ∀ (w : World) (s : PoolStep), R w (w.act s).2)

include refl trans scope act in
theorem rel_run : (∀ (w : World) (s : PoolStep), R w (w.runStep s).2) ∧
    ∀ (w : World) (ss : List PoolStep), R w (w.runSteps ss).2 := by
  apply runStep.mutual_induct (fun w s => R w (w.runStep s).2) (fun w ss => R w (w.runSteps ss).2)
  case case1 =>
    intro w pr steps answers w' hrun ih
    rw [runStep_runAs, hrun]
    -- entering the scope and leaving it again are both scope changes of a related pair
    have enter : R w { w with scope := pr :: w.scope } := scope w.scope (pr :: w.scope) (refl w)
    have leave : R w' { w' with scope := Scope.leave w'.scope } :=
      scope w'.scope (Scope.leave w'.scope) (refl w')
    rw [hrun] at ih
    exact trans (trans enter ih) leave
  case case2 =>
    intro w s hs
    rw [runStep_of_ne w s fun pr steps h => hs pr steps h]
    exact act w s
  case case3 =>
    intro w
    exact refl w
  case case4 =>
    intro w s ss o w₁ hstep answers w' hrun ih₁ ih₂
    rw [runSteps_cons, hstep]
    rw [hstep] at ih₁
    exact trans ih₁ ih₂

include refl trans scope act in
theorem rel_runStep (w : World) (s : PoolStep) : R w (w.runStep s).2 :=
  (rel_run R refl trans scope act).1 w s

include refl trans scope act in
theorem rel_runSteps (w : World) (ss : List PoolStep) : R w (w.runSteps ss).2 :=
  (rel_run R refl trans scope act).2 w ss

end Relation

end World

end HandlePool
