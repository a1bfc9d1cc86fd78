import HandlePool.Proofs.Reach
import HandlePool.Proofs.Frame
/-!
# The principal scope is a stack

Nested steps run "as" a principal: `runAs` pushes it on the world's scope, runs its steps, and
puts the scope back as it found it, whatever the nested steps answered, failures and panics
included. A scoped identity source names the innermost principal of the scope, and otherwise
its fallback, or refuses when it has none.

No other operation of a world touches the scope (`scope_act`); so every step, and every script
nested to any depth, comes back to the scope it started in (`scope_run`). Entering principals one
inside the other runs the innermost steps with all of them on the stack, the last entered on
top, and then leaves the scope as it was (`runSteps_enterAll`).

* `scope_act`, `scope_run`: the frame facts.
* `runSteps_enterAll`, `current_enterAll`: what the innermost steps of a nest see.
* `nestedReadings_eq`: the readings of a scoped source level by level.
* `principal_scope_discipline`: the whole statement.
-/

namespace HandlePool

/-- Steps that enter the principals `ps` one inside the other, outermost first, and run `inner`
at the innermost level. -/
def PoolStep.enterAll (inner : List PoolStep) : List Principal → List PoolStep
  | [] => inner
  | p :: ps => [.runAs p (enterAll inner ps)]

namespace World

/-! ## No operation but `runAs` touches the scope -/

section Frame

variable (w : World)

@[simp] theorem scope_setPool (i : Nat) (p : Pool) : (w.setPool i p).scope = w.scope := rfl

@[simp] theorem scope_letGo (h : Handle) : (w.letGo h).scope = w.scope := by
  obtain ⟨o, b, he⟩ := letGo_shape w h
  rw [he]

@[simp] theorem scope_letGoAll (hs : List Handle) : (w.letGoAll hs).scope = w.scope := by
  obtain ⟨o, b, he⟩ := letGoAll_shape w hs
  rw [he]

@[simp] theorem scope_evict (n : Nat) : (w.evict n).scope = w.scope := by
  obtain ⟨q, b, he⟩ := evict_shape w n
  rw [he]

@[simp] theorem scope_settle : w.settle.scope = w.scope := by
  obtain ⟨q, o, b, he⟩ := settle_shape w
  rw [he]

@[simp] theorem scope_closeResource (n : Nat) : (w.closeResource n).2.scope = w.scope := rfl

@[simp] theorem scope_hold (name : String) (h : Handle) : (w.hold name h).scope = w.scope := by
  unfold hold
  cases w.held.bind name h with
  | mk held old => cases old <;> simp

@[simp] theorem scope_openHandle (i : Nat) (p : Pool) (key : CacheKey) (t : Target)
    (creds : TokenSet) : (w.openHandle i p key t creds).2.scope = w.scope := by
  unfold openHandle
  split <;> rfl

@[simp] theorem scope_purge (i : Nat) (p : Pool) : (w.purge i p).2.scope = w.scope := by
  simp [purge]

@[simp] theorem scope_discardClosed (i : Nat) (p : Pool) (key : CacheKey) :
    (w.discardClosed i p key).2.scope = w.scope := by
  unfold discardClosed
  split
  · split <;> simp
  · rfl

@[simp] theorem scope_lookup (i : Nat) (p : Pool) (t : Target) (pr : Principal) (u : Nat) :
    (w.lookup i p t pr u).2.scope = w.scope := by
  unfold lookup
  split
  · rfl
  · rfl
  · rename_i key creds _ _
    have hd := scope_discardClosed w i p key
    generalize w.discardClosed i p key = d at hd ⊢
    obtain ⟨p₁, w₁⟩ := d
    dsimp only at hd ⊢
    split
    · split <;> simp [hd]
    · -- a full pool is purged first; either way the scope stays
      have hpu : (if w₁.config.maxCacheSize ≤ p₁.size then w₁.purge i p₁ else (p₁, w₁)).2.scope =
          w₁.scope := by
        split <;> simp
      generalize (if w₁.config.maxCacheSize ≤ p₁.size then w₁.purge i p₁ else (p₁, w₁)) = d at hpu ⊢
      obtain ⟨p₂, w₂⟩ := d
      dsimp only at hpu ⊢
      split <;> simp [hd, hpu]

@[simp] theorem scope_answerLookup (i : Nat) (p : Pool) (t : Target) (pr : Principal) (u : Nat)
    (name : Option String) : (w.answerLookup i p t pr u name).2.scope = w.scope := by
  have hl := scope_lookup w i p t pr u
  unfold answerLookup
  generalize w.lookup i p t pr u = l at hl ⊢
  obtain ⟨r, w₁⟩ := l
  cases r with
  | error e => exact hl
  | ok h => cases name <;> simpa using hl

@[simp] theorem scope_lookupAs (i : Nat) (p : Pool) (t : Target) (pr : Principal) (ex : Bool)
    (name : Option String) : (w.lookupAs i p t pr ex name).2.scope = w.scope := by
  cases ex
  · rw [lookupAs_false]; simp
  · rw [lookupAs_true]; simp

@[simp] theorem scope_remove (i : Nat) (p : Pool) (h : Handle) :
    (w.remove i p h).2.scope = w.scope := by
  unfold remove
  split <;> simp

@[simp] theorem scope_close (i : Nat) (p : Pool) (h : Handle) :
    (w.close i p h).2.scope = w.scope := by
  unfold close
  split <;> simp

@[simp] theorem scope_closeAll (i : Nat) (p : Pool) : (w.closeAll i p).2.scope = w.scope :=
  -- each entry's close and release keep the scope of the emptied pool's world
  w.closeEntries_induction (fun _ w' => w'.scope = w.scope) i p p.entries
    (fun _ _ w' h => (scope_closeResource w' _).trans h) (fun _ _ w' h => (scope_letGo w' _).trans h)
    rfl

@[simp] theorem scope_dropPool (i : Nat) (p : Pool) : (w.dropPool i p).scope = w.scope := by
  simp [dropPool]

theorem scope_watch (goal : List (String × Option Reading)) :
    ∀ (n : Nat) (w : World), (watch settle tick meters goal n w).2.scope = w.scope
  | 0, _ => rfl
  | n + 1, w => by
    simp only [watch]
    split
    · exact scope_settle w
    · rw [scope_watch goal n]
      exact scope_settle w

theorem scope_onPool (i : Nat) (f : Pool → Outcome × World) (hf : ∀ p, (f p).2.scope = w.scope) :
    (w.onPool i f).2.scope = w.scope := by
  unfold onPool
  split
  · exact hf _
  · rfl

theorem scope_onHandle (name : String) (f : Handle → Outcome × World)
    (hf : ∀ h, (f h).2.scope = w.scope) : (w.onHandle name f).2.scope = w.scope := by
  unfold onHandle
  split
  · exact hf _
  · rfl

theorem scope_onManualClock (f : Fault) (g : Clock → Clock) :
    (w.onManualClock f g).2.scope = w.scope := by
  unfold onManualClock
  split <;> rfl

/-- **No step but `runAs` touches the scope.** -/
theorem scope_act (s : PoolStep) : (w.act s).2.scope = w.scope := by
  cases s with
  | get i uri pr exclusive name =>
    refine scope_onPool w i _ fun p => ?_
    split
    · rfl
    · simp
  | getCurrent i uri exclusive name =>
    refine scope_onPool w i _ fun p => ?_
    split
    · rfl
    · split
      · rfl
      · split
        · rfl
        · simp
  | remove i name => exact scope_onPool w i _ fun p => scope_onHandle w name _ fun h => by simp
  | close i name => exact scope_onPool w i _ fun p => scope_onHandle w name _ fun h => by simp
  | closeAllShared i =>
    rw [act_closeAllShared_snd]
    exact scope_onPool w i _ fun p => scope_closeAll w i p
  | closeAllFiltered i f => exact scope_onPool w i _ fun _ => rfl
  | share source name => exact scope_onHandle w source _ fun h => by simp
  | release name =>
    simp only [act]
    split
    · simp
    · rfl
  | same a b => exact scope_onHandle w a _ fun _ => scope_onHandle w b _ fun _ => rfl
  | isClosed name => exact scope_onHandle w name _ fun _ => rfl
  | inspect name =>
    refine scope_onHandle w name _ fun h => ?_
    split <;> rfl
  | advance ms => exact scope_onManualClock w _ _
  | setElapsed ms => exact scope_onManualClock w _ _
  | clockElapsed => exact scope_onManualClock w _ _
  | sweep => rfl
  | runPending => rfl
  | setSwitches o c => rfl
  | shutdown => rfl
  | start => rfl
  | isRunning => rfl
  | statistics i => exact scope_onPool w i _ fun _ => rfl
  | workerStatistics => rfl
  | config i => exact scope_onPool w i _ fun _ => rfl
  | contextConfig => rfl
  | isEmpty i => exact scope_onPool w i _ fun _ => rfl
  | size i => exact scope_onPool w i _ fun _ => rfl
  | newPool identity => rfl
  | dropPool i => exact scope_onPool w i _ fun p => scope_dropPool w i p
  | wait goal =>
    simp only [act]
    split
    · rfl
    · exact scope_watch goal waitLooks w
  | runAs pr steps => rfl
  | invalid m => rfl

end Frame

/-! ## Steps and scripts come back to their scope -/

/-- **Every step and every script comes back to the scope it started in.** The induction follows
the nesting of `runAs`: inside, the nested script comes back to the pushed scope, so the one
principal `runAs` pops on leaving restores the outer scope; every other step leaves it alone. -/
theorem scope_run :
    (∀ (w : World) (s : PoolStep), (w.runStep s).2.scope = w.scope) ∧
      ∀ (w : World) (ss : List PoolStep), (w.runSteps ss).2.scope = w.scope := by
  apply runStep.mutual_induct
    (fun w s => (w.runStep s).2.scope = w.scope) (fun w ss => (w.runSteps ss).2.scope = w.scope)
  case case1 =>
    intro w pr steps answers w' hrun ih
    rw [hrun] at ih
    rw [runStep_runAs, hrun]
    show Scope.leave w'.scope = w.scope
    rw [ih]
    rfl
  case case2 =>
    intro w s hs
    rw [runStep_of_ne w s fun pr steps h => hs pr steps h]
    exact scope_act w s
  case case3 =>
    intro w
    rfl
  case case4 =>
    intro w s ss o w₁ hstep answers w' _ ih₁ ih₂
    rw [runSteps_cons, hstep]
    rw [hstep] at ih₁
    exact ih₂.trans ih₁

/-- Entering principals one inside the other runs the innermost steps on the scope with all of
them pushed, the last entered on top, and then comes back to the scope: the rest of the world is
what the innermost steps left. -/
theorem runSteps_enterAll (w : World) (inner : List PoolStep) (ps : List Principal) :
    (w.runSteps (PoolStep.enterAll inner ps)).2 =
      { ({ w with scope := ps.reverse ++ w.scope }.runSteps inner).2 with scope := w.scope } := by
  induction ps generalizing w with
  | nil =>
    -- the innermost level is the script itself, which comes back to its scope
    rw [PoolStep.enterAll, List.reverse_nil, List.nil_append]
    have h := scope_run.2 w inner
    cases hr : (w.runSteps inner).2
    rw [hr] at h
    simp only at h ⊢
    rw [h]
  | cons p ps ih =>
    -- the level of `p` comes back to the pushed scope, and leaving it pops `p`
    have hback := scope_run.2 { w with scope := p :: w.scope } (PoolStep.enterAll inner ps)
    rw [PoolStep.enterAll, runSteps_cons, runStep_runAs, hback, ih]
    simp only [runSteps, List.reverse_cons, List.append_assoc, List.singleton_append]
    rfl

end World

namespace IdentitySource

/-- What a scoped source answers with nothing in scope: its fallback, or the refusal. -/
def outside (fallback : Option Principal) : Except Error Principal :=
  match fallback with
  | some p => .ok p
  | none => .error noPrincipal

theorem current_nil (fallback : Option Principal) :
    (inScope fallback).current [] = outside fallback := by
  cases fallback <;> rfl

/-- A scoped source names the principal on top of the scope. -/
theorem current_cons (fallback : Option Principal) (p : Principal) (sc : Scope) :
    (inScope fallback).current (p :: sc) = .ok p := rfl

/-- Inside principals entered one inside the other, a scoped source names the last entered. -/
theorem current_enterAll (fallback : Option Principal) (ps : List Principal) (p : Principal)
    (sc : Scope) : (inScope fallback).current ((ps ++ [p]).reverse ++ sc) = .ok p := by
  rw [List.reverse_append, List.reverse_singleton, List.singleton_append, List.cons_append]
  rfl

/-! ## Scoped calls come back to their scope -/

/-- `runAs` leaves the scope its body left, with one principal popped, whether the body returned
or unwound. -/
theorem after_runAs {α : Type} (p : Principal) (body : Scoped α) (sc : Scope) :
    Scoped.after (Scoped.runAs p body sc) = Scope.leave (Scoped.after (body (p :: sc))) := by
  unfold Scoped.runAs
  cases body (p :: sc) <;> rfl

mutual

/-- **A call comes back to the scope it started in, whether it returns or unwinds.** The
induction follows the nesting of `runAs`: its body comes back to the pushed scope, and the one
principal the guard pops restores the scope outside. -/
theorem after_perform (src : IdentitySource) :
    ∀ (c : ScopedCall) (sc : Scope), Scoped.after (perform src c sc) = sc
  | .read, _ => rfl
  | .panic _, _ => rfl
  | .runAs p body, sc => by
    rw [perform, after_runAs, after_performAll src body (p :: sc)]
    rfl

/-- Calls run in order come back to the scope they started in; a panic ends them there. -/
theorem after_performAll (src : IdentitySource) :
    ∀ (cs : List ScopedCall) (sc : Scope), Scoped.after (performAll src cs sc) = sc
  | [], _ => rfl
  | c :: cs, sc => by
    have hc := after_perform src c sc
    simp only [performAll]
    cases hr : perform src c sc with
    | ok r sc' =>
      rw [hr] at hc
      have hcs := after_performAll src cs sc'
      simp only
      cases hrs : performAll src cs sc' with
      | ok rs sc'' => rw [hrs] at hcs; exact hcs.trans hc
      | error m sc'' => rw [hrs] at hcs; exact hcs.trans hc
    | error m sc' => rw [hr] at hc; exact hc

end

/-- Entering `stack` from the scope `sc`, a scoped source reads what is in scope before the
first level and the principal of each level just inside it, and the calls come back to `sc`. -/
theorem performAll_nest (fallback : Option Principal) :
    ∀ (stack : List Principal) (sc : Scope),
      performAll (inScope fallback) (ScopedCall.nest stack) sc =
        .ok ((inScope fallback).current sc :: stack.map Except.ok) sc
  | [], _ => rfl
  | p :: ps, sc => by
    have inner := performAll_nest fallback ps (p :: sc)
    simp only [ScopedCall.nest, performAll, perform, Scoped.runAs, inner, current_cons,
      List.map_cons, List.cons_append, List.nil_append, List.append_nil]
    rfl

/-- Level by level, a scoped source on a thread with nothing in scope reads the fallback (or
refuses) before the first level and the principal of level `i` inside level `i`, and the
fallback again once every level is left. -/
theorem nestedReadings_eq (fallback : Option Principal) (stack : List Principal) :
    (inScope fallback).nestedReadings stack =
      (outside fallback :: stack.map Except.ok, outside fallback) := by
  unfold nestedReadings
  rw [performAll_nest]
  dsimp only [Scoped.after]
  rw [current_nil]

end IdentitySource

/-- **The principal scope is a stack.** For every fallback and every list of principals
`p₁, …, pₙ` entered with nested `runAs` calls on a thread with nothing in scope: a scoped source
reads the fallback, or refuses with the configuration error "no principal in scope for the
current thread", before the first level, reads `pᵢ` just inside level `i`, and reads the
fallback again once every level is left. Every list of calls (reads, panics, and `runAs` around
more calls, nested to any depth) comes back to the scope it started in, whether it returns or
unwinds from a panic, because each `runAs` pops exactly the one principal it pushed; so after
any calls on a thread with nothing in scope the source reads the fallback again. In a world,
the innermost steps of a nest run with `pₙ, …, p₁` pushed on the scope the nest started in,
where the source names `pₙ`, and the nest leaves the scope exactly as it found it; so does every
single step and every script, `runAs` at any depth included. -/
theorem principal_scope_discipline (fallback : Option Principal) (stack : List Principal) :
    (IdentitySource.inScope fallback).nestedReadings stack =
      (IdentitySource.outside fallback :: stack.map Except.ok, IdentitySource.outside fallback) ∧
    IdentitySource.outside fallback = (match fallback with
      | some p => .ok p
      | none => .error (.configuration "no principal in scope for the current thread")) ∧
    (∀ (calls : List ScopedCall) (sc : Scope),
      Scoped.after (IdentitySource.performAll (.inScope fallback) calls sc) = sc) ∧
    (∀ calls : List ScopedCall, (IdentitySource.inScope fallback).current
      (Scoped.after (IdentitySource.performAll (.inScope fallback) calls [])) =
        IdentitySource.outside fallback) ∧
    (∀ (w : World) (inner : List PoolStep),
      (w.runSteps (PoolStep.enterAll inner stack)).2 =
        { ({ w with scope := stack.reverse ++ w.scope }.runSteps inner).2 with scope := w.scope }) ∧
    (∀ sc : Scope, (IdentitySource.inScope fallback).current (stack.reverse ++ sc) =
      match stack.getLast? with
      | some p => .ok p
      | none => (IdentitySource.inScope fallback).current sc) ∧
    (∀ (w : World) (s : PoolStep), (w.runStep s).2.scope = w.scope) ∧
    (∀ (w : World) (ss : List PoolStep), (w.runSteps ss).2.scope = w.scope) := by
  have hback := IdentitySource.after_performAll (.inScope fallback)
  refine ⟨IdentitySource.nestedReadings_eq fallback stack, by cases fallback <;> rfl, hback,
    fun calls => ?_, fun w inner => World.runSteps_enterAll w inner stack, fun sc => ?_,
    World.scope_run.1, World.scope_run.2⟩
  · -- the calls come back to the empty scope, where the source falls back
    rw [hback, IdentitySource.current_nil]
  · -- the last principal entered is the top of the scope
    rcases List.eq_nil_or_concat stack with rfl | ⟨ps, p, rfl⟩
    · rfl
    · rw [List.concat_eq_append, List.getLast?_concat]
      exact IdentitySource.current_enterAll fallback ps p sc

end HandlePool
