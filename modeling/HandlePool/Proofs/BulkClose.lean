import HandlePool.Proofs.Capacity
/-!
# Closing every handle of a pool

A bulk close empties its pool and then, entry by entry, closes the entry's resource through its
one-shot guard and lets go of the entry's handle. It goes on past failures and gathers the errors
in entry order. A close that panics stops it: the panic unwinds the drain, and the entries after
it are let go without a close. In a reachable world the entries are on distinct resources, so
each close meets its resource as it was before the bulk close: the errors and the panic are those
the guards of the entries' resources give in the world the bulk close starts from, and every
other resource is left alone. Letting go of a handle after its resource was closed closes nothing
more, and nothing is handed to the grace queue.

* `Backend.closeList_distinct`: closing distinct resources in turn is closing each of them once,
  as it stood at the start.
* `foldl_closeStep`: what a bulk close gathers and does to the backend, in whatever order it
  drains the entries: the first close to panic, and until it the errors in order.
* `closeEntries_any_order`: draining the entries in another order panics or not alike and, when
  no close panics, closes the same resources and gathers the same errors, the first being that
  of the first refused entry in that order.
* `never_leased_of_uncached`: a resource in no pool is never leased again.
* `close_all_closes_every_entry`: the whole statement for the session step.
-/

namespace HandlePool

/-- The error of a pass through a close guard, if the backend refused. -/
def CloseAttempt.error? : CloseAttempt → Option Error
  | .failed e => some e
  | _ => none

/-- The message of a pass through a close guard, if the backend panicked. -/
def CloseAttempt.panic? : CloseAttempt → Option String
  | .panicked m => some m
  | _ => none

theorem CloseAttempt.error?_eq_some {a : CloseAttempt} {err : Error} :
    a.error? = some err ↔ a = .failed err := by
  cases a <;> simp [error?]

theorem CloseAttempt.panic?_eq_some {a : CloseAttempt} {m : String} :
    a.panic? = some m ↔ a = .panicked m := by
  cases a <;> simp [panic?]

/-- A pass ended well exactly when the backend neither refused nor panicked. -/
theorem CloseAttempt.isOk_iff (a : CloseAttempt) : a.isOk = true ↔ a.error? = none ∧ a.panic? = none := by
  cases a <;> simp [isOk, error?, panic?]

/-- A closed resource passes its guard unchanged. -/
theorem Resource.closeOnce_of_closed {r : Resource} (h : r.closed = true) (reply : CloseReply) :
    r.closeOnce reply = (.skipped, r) := by
  simp [Resource.closeOnce, h]

namespace Resources

theorem find?_cons (r : Resource) (rs : Resources) (n : Nat) :
    Resources.find? (r :: rs) n = if r.serial = n then some r else rs.find? n := by
  simp only [find?, List.find?_cons]
  split <;> simp_all

theorem closeOnce_cons_self {r : Resource} {m : Nat} (hr : r.serial = m) (rest : Resources)
    (reply : Resource → CloseReply) :
    closeOnce (r :: rest) m reply = ((r.closeOnce (reply r)).1, (r.closeOnce (reply r)).2 :: rest) := by
  simp [closeOnce, hr]

theorem closeOnce_cons_other {r : Resource} {m : Nat} (hr : r.serial ≠ m) (rest : Resources)
    (reply : Resource → CloseReply) :
    closeOnce (r :: rest) m reply = ((rest.closeOnce m reply).1, r :: (rest.closeOnce m reply).2) := by
  simp [closeOnce, hr]

/-- A pass through the guard of the resource `m` changes that resource only, as `closeOnce`
says. -/
theorem find?_closeOnce (rs : Resources) (m n : Nat) (reply : Resource → CloseReply) :
    (rs.closeOnce m reply).2.find? n =
      if n = m then (rs.find? m).map fun r => (r.closeOnce (reply r)).2 else rs.find? n := by
  induction rs with
  | nil => split <;> rfl
  | cons r rest ih =>
    have hs := (Resource.later_closeOnce r (reply r)).serial
    by_cases hr : r.serial = m
    · rw [closeOnce_cons_self hr]
      by_cases hn : n = m
      · subst hn
        simp [find?_cons, hs, hr]
      · have hrn : r.serial ≠ n := fun h => hn (h.symm.trans hr)
        simp [find?_cons, hs, hrn, hn]
    · rw [closeOnce_cons_other hr]
      by_cases hn : n = m
      · subst hn
        simp [find?_cons, hr, ih]
      · simp only [find?_cons, ih, if_neg hn]

/-- The guard's answer for the resource `m` depends on that resource alone. -/
theorem fst_closeOnce (rs : Resources) (m : Nat) (reply : Resource → CloseReply) :
    (rs.closeOnce m reply).1 = ((rs.find? m).map fun r => (r.closeOnce (reply r)).1).getD .skipped := by
  induction rs with
  | nil => rfl
  | cons r rest ih =>
    by_cases hr : r.serial = m
    · simp [closeOnce_cons_self hr, find?_cons, hr]
    · simp [closeOnce_cons_other hr, find?_cons, hr, ih]

/-- A second pass through the same guard changes nothing. -/
theorem closeOnce_closeOnce (rs : Resources) (m : Nat) (reply reply' : Resource → CloseReply) :
    ((rs.closeOnce m reply).2.closeOnce m reply').2 = (rs.closeOnce m reply).2 := by
  induction rs with
  | nil => rfl
  | cons r rest ih =>
    by_cases hr : r.serial = m
    · -- the first pass closed it, so the second skips it
      have hs : (r.closeOnce (reply r)).2.serial = m := (Resource.later_closeOnce r (reply r)).serial.trans hr
      have hc := Resource.closeOnce_closed r (reply r)
      rw [closeOnce_cons_self hr, closeOnce_cons_self hs, Resource.closeOnce_of_closed hc]
    · rw [closeOnce_cons_other hr, closeOnce_cons_other hr, ih]

end Resources

namespace Backend

/-- Closes the resources with the given serials in turn; answers what each guard answered. -/
def closeList (b : Backend) : List Nat → List CloseAttempt × Backend
  | [] => ([], b)
  | n :: ns =>
    let (a, b₁) := b.close n
    let (as, b₂) := b₁.closeList ns
    (a :: as, b₂)

theorem close_resources (b : Backend) (n : Nat) :
    (b.close n).2 = { b with resources := (b.resources.closeOnce n b.reply).2 } := rfl

theorem reply_close (b : Backend) (n : Nat) : (b.close n).2.reply = b.reply := rfl

/-- What the backend's close guard answers: the resource was closed already, or this close
closed it, or the backend refused it, or the backend panicked. -/
theorem close_fst_cases (b : Backend) (n : Nat) :
    (b.close n).1 = .skipped ∨ (b.close n).1 = .closed ∨
      (∃ res reason, (b.close n).1 = .failed (.backendClose res reason)) ∨
      ∃ m, (b.close n).1 = .panicked m := by
  rw [close, Resources.fst_closeOnce]
  cases b.resources.find? n with
  | none => exact Or.inl rfl
  | some r =>
    simp only [Option.map_some, Option.getD_some]
    by_cases hc : r.closed = true
    · exact Or.inl (by rw [Resource.closeOnce_of_closed hc])
    · -- an open resource: the backend's reply decides
      cases hr : b.reply r with
      | done => exact Or.inr (Or.inl (by simp [Resource.closeOnce, hc]))
      | refused reason =>
        exact Or.inr (Or.inr (Or.inl ⟨r.describe, reason, by simp [Resource.closeOnce, hc]⟩))
      | panicked m => exact Or.inr (Or.inr (Or.inr ⟨m, by simp [Resource.closeOnce, hc]⟩))

/-- A close that went wrong was refused by the backend. -/
theorem error?_close {b : Backend} {n : Nat} {err : Error} (h : (b.close n).1.error? = some err) :
    ∃ res reason, err = .backendClose res reason := by
  rcases close_fst_cases b n with hc | hc | ⟨res, reason, hc⟩ | ⟨m, hc⟩ <;> rw [hc] at h
  · cases h
  · cases h
  · cases h
    exact ⟨res, reason, rfl⟩
  · cases h

/-- Closing the resource `m` leaves every other resource as it was. -/
theorem find?_close_of_ne (b : Backend) {m n : Nat} (h : n ≠ m) :
    (b.close m).2.resources.find? n = b.resources.find? n := by
  rw [close_resources]
  exact (Resources.find?_closeOnce _ _ _ _).trans (if_neg h)

/-- Closing the resource `m` leaves the guard of any other resource as it was. -/
theorem fst_close_close {b : Backend} {m n : Nat} (h : n ≠ m) :
    ((b.close m).2.close n).1 = (b.close n).1 := by
  simp only [close, Resources.fst_closeOnce, Resources.find?_closeOnce, if_neg h]
  rfl

/-- Closing distinct resources in turn: each guard answers as it would have at the start, each
resource of the list passes once through its guard, and no other resource changes. -/
theorem closeList_distinct (b : Backend) {ns : List Nat} (hnd : ns.Nodup) :
    (b.closeList ns).1 = ns.map (fun n => (b.close n).1) ∧
    (b.closeList ns).2 = { b with resources := (b.closeList ns).2.resources } ∧
    ∀ m, (b.closeList ns).2.resources.find? m =
      if m ∈ ns then (b.resources.find? m).map fun r => (r.closeOnce (b.reply r)).2
      else b.resources.find? m := by
  induction ns generalizing b with
  | nil => exact ⟨rfl, rfl, fun m => by simp [closeList]⟩
  | cons n ns ih =>
    obtain ⟨hn, hnd'⟩ := List.nodup_cons.1 hnd
    obtain ⟨h₁, h₂, h₃⟩ := ih (b.close n).2 hnd'
    simp only [closeList]
    refine ⟨?_, ?_, fun m => ?_⟩
    · -- the later resources are not the first, whose close leaves their guards alone
      rw [h₁]
      simp only [List.map_cons, List.cons.injEq, List.map_inj_left, true_and]
      intro m hm
      exact fst_close_close fun he => hn (he ▸ hm)
    · rw [h₂]
      rfl
    · rw [h₃, reply_close, close_resources]
      dsimp only
      rw [Resources.find?_closeOnce]
      by_cases hm : m = n
      · subst hm
        simp [hn]
      · by_cases hm' : m ∈ ns <;> simp [hm, hm']

end Backend

namespace World

variable {w : World} {i : Nat} {p : Pool}

/-- Letting go of a handle closes at most its own resource. -/
theorem letGo_backend (w : World) (h : Handle) :
    (w.letGo h).backend = w.backend ∨ (w.letGo h).backend = (w.backend.close h.serial).2 := by
  unfold letGo
  split
  · exact Or.inl rfl
  · rw [withOrphans_eq]
    exact Orphans.rel_post_of Backend.cleanup (fun b b' => b' = b ∨ b' = (b.close h.serial).2)
      (fun _ => Or.inl rfl) ⟨h.registration, h.serial⟩ (w.orphans, w.backend)
      (fun _ => Or.inr rfl)

/-- One entry of a bulk close: its resource is closed, then its handle let go, which closes
nothing more. -/
theorem closeEntry_parts (w : World) (e : Entry) :
    ((w.closeResource e.handle.serial).2.letGo e.handle).backend = (w.backend.close e.handle.serial).2 ∧
    ((w.closeResource e.handle.serial).2.letGo e.handle).grace = w.grace ∧
    ((w.closeResource e.handle.serial).2.letGo e.handle).pools = w.pools := by
  refine ⟨?_, letGo_grace _ _, letGo_pools _ _⟩
  rcases letGo_backend (w.closeResource e.handle.serial).2 e.handle with h | h
  · exact h
  · rw [h]
    show ((w.backend.close e.handle.serial).2.close e.handle.serial).2 = (w.backend.close e.handle.serial).2
    rw [Backend.close_resources, Backend.close_resources]
    congr 1
    exact Resources.closeOnce_closeOnce _ _ _ _

theorem Gathered.panic_add {g : Gathered} (h : g.panic = none) (a : CloseAttempt) :
    (g.add a).panic = a.panic? := by
  cases a <;> simp [Gathered.add, CloseAttempt.panic?, h]

theorem Gathered.errors_add {g : Gathered} {a : CloseAttempt} (h : a.panic? = none) :
    (g.add a).errors = g.errors ++ a.error?.toList := by
  cases a <;> simp_all [Gathered.add, CloseAttempt.panic?, CloseAttempt.error?]

/-- One entry of a bulk close: unless a close has panicked, close its resource and add what the
close did; then let go of its handle. -/
def closeStep (acc : Gathered × World) (e : Entry) : Gathered × World :=
  match acc.1.panic with
  | some _ => (acc.1, acc.2.letGo e.handle)
  | none => (acc.1.add (acc.2.backend.close e.handle.serial).1,
      (acc.2.closeResource e.handle.serial).2.letGo e.handle)

theorem closeEntries_eq_foldl (w : World) (i : Nat) (p : Pool) (es : List Entry) :
    w.closeEntries i p es = es.foldl closeStep ({}, w.setPool i { p with entries := [] }) :=
  rfl

/-- Once a close has panicked, the rest of a bulk close gathers nothing more. -/
theorem foldl_closeStep_of_panic (es : List Entry) (acc : Gathered × World) {m : String}
    (h : acc.1.panic = some m) : (es.foldl closeStep acc).1 = acc.1 := by
  induction es generalizing acc with
  | nil => rfl
  | cons e es ih =>
    have hstep : closeStep acc e = (acc.1, acc.2.letGo e.handle) := by simp only [closeStep, h]
    rw [List.foldl_cons, hstep]
    exact ih _ h

/-- A bulk close from a point where no close has panicked, against the closes of the entries'
resources made in turn: the first of those closes to panic gives the panic, and if none does,
the errors of those closes are gathered in order and the backend ends as they leave it. -/
theorem foldl_closeStep (es : List Entry) (acc : Gathered × World) (h : acc.1.panic = none) :
    (es.foldl closeStep acc).1.panic =
      ((acc.2.backend.closeList (es.map (·.handle.serial))).1.filterMap CloseAttempt.panic?).head? ∧
    ((acc.2.backend.closeList (es.map (·.handle.serial))).1.filterMap CloseAttempt.panic? = [] →
      (es.foldl closeStep acc).1.errors = acc.1.errors ++
        (acc.2.backend.closeList (es.map (·.handle.serial))).1.filterMap CloseAttempt.error? ∧
      (es.foldl closeStep acc).2.backend = (acc.2.backend.closeList (es.map (·.handle.serial))).2) := by
  induction es generalizing acc with
  | nil => simp [Backend.closeList, h]
  | cons e es ih =>
    obtain ⟨hb, -, -⟩ := closeEntry_parts acc.2 e
    have hstep : closeStep acc e = (acc.1.add (acc.2.backend.close e.handle.serial).1,
        (acc.2.closeResource e.handle.serial).2.letGo e.handle) := by simp [closeStep, h]
    rw [List.foldl_cons, hstep]
    simp only [List.map_cons, Backend.closeList, List.filterMap_cons]
    -- the first close either panics, and the rest gathers nothing, or the rest goes on from
    -- the backend it leaves
    have hpanic := Gathered.panic_add h (acc.2.backend.close e.handle.serial).1
    cases hm : (acc.2.backend.close e.handle.serial).1.panic? with
    | some m =>
      rw [hm] at hpanic
      rw [foldl_closeStep_of_panic es _ hpanic, hpanic]
      simp
    | none =>
      rw [hm] at hpanic
      obtain ⟨ih₁, ih₂⟩ := ih (acc.1.add (acc.2.backend.close e.handle.serial).1,
        (acc.2.closeResource e.handle.serial).2.letGo e.handle) hpanic
      simp only [hb] at ih₁ ih₂
      refine ⟨ih₁, fun hnp => ?_⟩
      obtain ⟨ih₃, ih₄⟩ := ih₂ hnp
      refine ⟨?_, ih₄⟩
      rw [ih₃, Gathered.errors_add hm]
      cases (acc.2.backend.close e.handle.serial).1.error? <;> simp

/-- A bulk close leaves the grace queue alone. -/
theorem closeEntries_grace (w : World) (i : Nat) (p : Pool) (es : List Entry) :
    (w.closeEntries i p es).2.grace = w.grace :=
  w.closeEntries_induction (fun _ w' => w'.grace = w.grace) i p es (fun _ _ _ h => h)
    (fun _ _ w' h => (letGo_grace w' _).trans h) rfl

/-- A bulk close changes no resource but those of the entries it drains. -/
theorem closeEntries_other (w : World) (i : Nat) (p : Pool) (es : List Entry) {n : Nat}
    (hn : n ∉ es.map (·.handle.serial)) :
    (w.closeEntries i p es).2.backend.resources.find? n = w.backend.resources.find? n := by
  -- each entry left to drain is on another resource than `n`
  refine (w.closeEntries_induction
    (fun es w' => (∀ e ∈ es, n ≠ e.handle.serial) ∧
      w'.backend.resources.find? n = w.backend.resources.find? n) i p es
    (fun e _ w' h => ⟨h.1, ?_⟩)
    (fun e _ w' h => ⟨fun e' he' => h.1 e' (List.mem_cons_of_mem _ he'), ?_⟩)
    ⟨fun e he hne => hn (hne ▸ List.mem_map_of_mem he), rfl⟩).2
  · exact (Backend.find?_close_of_ne w'.backend (h.1 e List.mem_cons_self)).trans h.2
  · rcases letGo_backend w' e.handle with hb | hb <;> rw [hb]
    · exact h.2
    · exact (Backend.find?_close_of_ne w'.backend (h.1 e List.mem_cons_self)).trans h.2

/-- Draining entries on distinct resources: the panic is that of the first entry whose own
close panics. -/
theorem closeEntries_panic {es : List Entry} (hnd : (es.map (·.handle.serial)).Nodup) :
    (w.closeEntries i p es).1.panic =
      (es.filterMap fun e => (w.backend.close e.handle.serial).1.panic?).head? := by
  rw [closeEntries_eq_foldl]
  obtain ⟨hpanic, -⟩ := foldl_closeStep es ({}, w.setPool i { p with entries := [] }) rfl
  obtain ⟨hatt, -, -⟩ := w.backend.closeList_distinct hnd
  -- emptying the pool leaves the backend, so the closes meet the resources as they stood
  rw [hpanic]
  show ((w.backend.closeList (es.map (·.handle.serial))).1.filterMap CloseAttempt.panic?).head? = _
  rw [hatt, List.map_map, List.filterMap_map]
  rfl

/-- Draining entries on distinct resources none of whose own closes panics: the errors are those
of the entries' own closes, in the order drained, and the backend ends as closing their resources
in turn leaves it. -/
theorem closeEntries_of_no_panic {es : List Entry} (hnd : (es.map (·.handle.serial)).Nodup)
    (hnp : ∀ e ∈ es, (w.backend.close e.handle.serial).1.panic? = none) :
    (w.closeEntries i p es).1 =
      { errors := es.filterMap fun e => (w.backend.close e.handle.serial).1.error? } ∧
    (w.closeEntries i p es).2.backend = (w.backend.closeList (es.map (·.handle.serial))).2 := by
  rw [closeEntries_eq_foldl]
  obtain ⟨hpanic, hrest⟩ := foldl_closeStep es ({}, w.setPool i { p with entries := [] }) rfl
  obtain ⟨hatt, -, -⟩ := w.backend.closeList_distinct hnd
  -- the closes made in turn are the entries' own closes, none of which panics
  have hnone : (w.backend.closeList (es.map (·.handle.serial))).1.filterMap CloseAttempt.panic? =
      [] := by
    rw [hatt, List.filterMap_eq_nil_iff]
    simpa using hnp
  obtain ⟨herrs, hback⟩ := hrest hnone
  refine ⟨?_, hback⟩
  have hpanic' : (es.foldl closeStep ({}, w.setPool i { p with entries := [] })).1.panic = none := by
    rw [hpanic]
    exact congrArg List.head? hnone
  rcases hg : (es.foldl closeStep ({}, w.setPool i { p with entries := [] })).1 with ⟨errs, pn⟩
  rw [hg] at herrs hpanic'
  dsimp only at herrs hpanic'
  subst hpanic'
  rw [herrs, List.nil_append]
  have hfe : (w.backend.closeList (es.map (·.handle.serial))).1.filterMap CloseAttempt.error? =
      es.filterMap fun e => (w.backend.close e.handle.serial).1.error? := by
    rw [hatt, List.map_map, List.filterMap_map]
    rfl
  exact congrArg (fun l => ({ errors := l } : Gathered)) hfe

/-- What a list keeps first, through `f`, is `x` exactly when some element gives `x` and none
before it gives anything. -/
theorem exists_filterMap_eq_cons {α β : Type} (f : α → Option β) (l : List α) (x : β) :
    (∃ rest, l.filterMap f = x :: rest) ↔
      ∃ l₁ a l₂, l = l₁ ++ a :: l₂ ∧ (∀ a' ∈ l₁, f a' = none) ∧ f a = some x := by
  constructor
  · rintro ⟨rest, h⟩
    obtain ⟨l₁, a, l₂, hsplit, hnone, hsome, -⟩ := List.filterMap_eq_cons_iff.1 h
    exact ⟨l₁, a, l₂, hsplit, hnone, hsome⟩
  · rintro ⟨l₁, a, l₂, hsplit, hnone, hsome⟩
    exact ⟨_, List.filterMap_eq_cons_iff.2 ⟨l₁, a, l₂, hsplit, hnone, hsome, rfl⟩⟩

/-- Draining entries on distinct resources none of whose own closes panics gathers `err` first
exactly when some entry's own close failed with `err` and the closes of the entries drained
before it ended well. -/
theorem closeEntries_first_error {es : List Entry} (hnd : (es.map (·.handle.serial)).Nodup)
    (hnp : ∀ e ∈ es, (w.backend.close e.handle.serial).1.panic? = none) (err : Error) :
    (∃ rest, (w.closeEntries i p es).1.errors = err :: rest) ↔
      ∃ l₁ e l₂, es = l₁ ++ e :: l₂ ∧
        (∀ e' ∈ l₁, (w.backend.close e'.handle.serial).1.isOk) ∧
        (w.backend.close e.handle.serial).1 = .failed err := by
  rw [(closeEntries_of_no_panic hnd hnp).1]
  dsimp only
  rw [exists_filterMap_eq_cons]
  refine exists_congr fun l₁ => exists_congr fun e => exists_congr fun l₂ =>
    and_congr_right fun hsplit => and_congr (forall₂_congr fun e' he' => ?_)
      CloseAttempt.error?_eq_some
  -- an entry before it that did not fail ended well, since none panics
  rw [CloseAttempt.isOk_iff]
  exact (and_iff_left (hnp e' (hsplit ▸ List.mem_append_left _ he'))).symm

/-! ## The session step -/

/-- The answer of a bulk close in a session: the panic if a close panicked; otherwise success
when no close failed, or the first error, marked when there were several. -/
theorem act_closeAllShared (hp : w.pool? i = some p) :
    (w.act (.closeAllShared i)).2 = (w.closeAll i p).2 ∧
    ((w.act (.closeAllShared i)).1 = .value .unit ↔ (w.closeAll i p).1 = {}) ∧
    (∀ err, ((w.act (.closeAllShared i)).1 = .failed err ∨
        (w.act (.closeAllShared i)).1 = .failedSeveral err) ↔
      (w.closeAll i p).1.panic = none ∧ ∃ rest, (w.closeAll i p).1.errors = err :: rest) ∧
    ∀ m, (w.act (.closeAllShared i)).1 = .panicked m ↔ (w.closeAll i p).1.panic = some m := by
  simp only [act, onPool, hp]
  rcases w.closeAll i p with ⟨⟨errs, pn⟩, w'⟩
  rcases pn with _ | m <;> rcases errs with _ | ⟨e, _ | ⟨e', rest⟩⟩ <;> simp

/-- The entries of a pool in a world with a ledger are on distinct resources. -/
theorem Ledger.serials_nodup {D : List Handle} (hl : w.Ledger D) (hp : w.pool? i = some p) :
    (p.entries.map (·.handle.serial)).Nodup := by
  have hnd : p.entries.Nodup := (hl.keys i p hp).of_map _
  refine hnd.map_on fun e he e' he' hs => ?_
  exact (hl.single i i e e' ⟨p, hp, he⟩ ⟨p, hp, he'⟩ hs).2

section Ledger

variable {D : List Handle} (hl : w.Ledger D) (hp : w.pool? i = some p)
include hl hp

/-- A bulk close panics with the message of the first entry, in entry order, whose own close
panics. -/
theorem closeAll_panic :
    (w.closeAll i p).1.panic =
      (p.entries.filterMap fun e => (w.backend.close e.handle.serial).1.panic?).head? :=
  closeEntries_panic (hl.serials_nodup hp)

/-- A bulk close does not panic exactly when no entry's own close panics. -/
theorem closeAll_panic_eq_none :
    (w.closeAll i p).1.panic = none ↔
      ∀ e ∈ p.entries, (w.backend.close e.handle.serial).1.panic? = none := by
  rw [closeAll_panic hl hp, List.head?_eq_none_iff, List.filterMap_eq_nil_iff]

/-- A bulk close gathers nothing exactly when every entry's own close ends well. -/
theorem closeAll_no_error :
    (w.closeAll i p).1 = {} ↔ ∀ e ∈ p.entries, (w.backend.close e.handle.serial).1.isOk := by
  constructor
  · intro h
    have hnp := (closeAll_panic_eq_none hl hp).1 (by rw [h])
    have herrs := (closeEntries_of_no_panic (i := i) (p := p) (hl.serials_nodup hp) hnp).1
    rw [closeAll] at h
    rw [h, Gathered.mk.injEq] at herrs
    intro e he
    exact (CloseAttempt.isOk_iff _).2
      ⟨List.filterMap_eq_nil_iff.1 herrs.1.symm e he, hnp e he⟩
  · intro hok
    have hnp : ∀ e ∈ p.entries, (w.backend.close e.handle.serial).1.panic? = none :=
      fun e he => ((CloseAttempt.isOk_iff _).1 (hok e he)).2
    rw [closeAll, (closeEntries_of_no_panic (hl.serials_nodup hp) hnp).1,
      List.filterMap_eq_nil_iff.2 fun e he => ((CloseAttempt.isOk_iff _).1 (hok e he)).1]

/-- A bulk close ends on the error `err` first exactly when no entry's own close panics, some
entry's own close failed with `err`, and the closes of the entries before it ended well. -/
theorem closeAll_first_error (err : Error) :
    ((w.closeAll i p).1.panic = none ∧ ∃ rest, (w.closeAll i p).1.errors = err :: rest) ↔
      (∀ e ∈ p.entries, (w.backend.close e.handle.serial).1.panic? = none) ∧
      ∃ l₁ e l₂, p.entries = l₁ ++ e :: l₂ ∧
        (∀ e' ∈ l₁, (w.backend.close e'.handle.serial).1.isOk) ∧
        (w.backend.close e.handle.serial).1 = .failed err := by
  rw [closeAll_panic_eq_none hl hp]
  exact and_congr_right fun hnp => closeEntries_first_error (hl.serials_nodup hp) hnp err

/-- A bulk close panics with `m` exactly when some entry's own close panics with `m` and no
entry's before it panics. -/
theorem closeAll_panicked (m : String) :
    (w.closeAll i p).1.panic = some m ↔
      ∃ l₁ e l₂, p.entries = l₁ ++ e :: l₂ ∧
        (∀ e' ∈ l₁, (w.backend.close e'.handle.serial).1.panic? = none) ∧
        (w.backend.close e.handle.serial).1 = .panicked m := by
  rw [closeAll_panic hl hp, List.head?_eq_some_iff, exists_filterMap_eq_cons]
  simp only [CloseAttempt.panic?_eq_some]

/-- **The drain order does not matter.** A pool's map yields its entries in an order of its
own. In a world with a ledger, draining a live pool's entries in any order panics exactly when
draining them in the pool's order does, and leaves the pools and the grace queue alike. When no
entry's own close panics, it also leaves every resource alike and gathers the same errors in
another order: so the bulk close succeeds, fails once, or fails several times alike, and a
single error is the same error. The error it gathers first is that of the first entry, in the
order drained, whose close the backend refused. -/
theorem closeEntries_any_order {es : List Entry} (hes : es.Perm p.entries) :
    (w.closeEntries i p es).1.panic.isSome = (w.closeAll i p).1.panic.isSome ∧
    (w.closeEntries i p es).2.pools = (w.closeAll i p).2.pools ∧
    (w.closeEntries i p es).2.grace = (w.closeAll i p).2.grace ∧
    ((∀ e ∈ p.entries, (w.backend.close e.handle.serial).1.panic? = none) →
      (∀ n, (w.closeEntries i p es).2.backend.resources.find? n =
        (w.closeAll i p).2.backend.resources.find? n) ∧
      (w.closeEntries i p es).1.errors.Perm (w.closeAll i p).1.errors ∧
      ∀ err, (∃ rest, (w.closeEntries i p es).1.errors = err :: rest) ↔
        ∃ l₁ e l₂, es = l₁ ++ e :: l₂ ∧
          (∀ e' ∈ l₁, (w.backend.close e'.handle.serial).1.isOk) ∧
          (w.backend.close e.handle.serial).1 = .failed err) := by
  have hnd := hl.serials_nodup hp
  -- the resources drained are those of the pool in another order, so again distinct
  have hmap : (es.map (·.handle.serial)).Perm (p.entries.map (·.handle.serial)) := hes.map _
  have hnd' := hmap.nodup_iff.2 hnd
  refine ⟨?_, by rw [closeEntries_pools, closeAll_pools],
    by rw [closeEntries_grace, closeAll, closeEntries_grace], fun hnp => ?_⟩
  · -- some entry panics in one order exactly when some entry panics in the other
    have hempty := (hes.filterMap fun e => (w.backend.close e.handle.serial).1.panic?).isEmpty_eq
    rw [closeEntries_panic hnd', closeAll_panic hl hp]
    revert hempty
    cases List.filterMap (fun e => (w.backend.close e.handle.serial).1.panic?) es <;>
      cases List.filterMap (fun e => (w.backend.close e.handle.serial).1.panic?) p.entries <;> simp
  have hnp' : ∀ e ∈ es, (w.backend.close e.handle.serial).1.panic? = none :=
    fun e he => hnp e (hes.subset he)
  obtain ⟨herrs, hb⟩ := closeEntries_of_no_panic (i := i) (p := p) hnd' hnp'
  obtain ⟨herrs', hb'⟩ := closeEntries_of_no_panic (i := i) (p := p) hnd hnp
  refine ⟨fun n => ?_, ?_, closeEntries_first_error hnd' hnp'⟩
  · rw [hb, closeAll, hb', (w.backend.closeList_distinct hnd').2.2 n,
      (w.backend.closeList_distinct hnd).2.2 n]
    simp only [hmap.mem_iff]
  · rw [herrs, closeAll, herrs']
    exact hes.filterMap _

/-- After a bulk close of pool `i`, no live pool has a resource of an entry it had. -/
theorem uncached_closeAll {e : Entry} (he : e ∈ p.entries) :
    (w.closeAll i p).2.Uncached e.handle.serial := by
  intro j e' hc hs
  rw [cachedAt_congr (closeAll_pools w i p), cachedAt_setPool hp] at hc
  rcases hc with ⟨-, he'⟩ | ⟨hj, hc⟩
  · cases he'
  · exact hj (hl.single j i e' e hc ⟨p, hp, he⟩ hs).1

end Ledger

/-- A resource that was issued and is in no live pool is never leased again, along any run. -/
theorem never_leased_of_uncached {w w' : World} (hl : w.Ledger [])
    (hr : Relation.ReflTransGen (Move fun _ _ => True) w w') {n : Nat} (hi : w.Issued n)
    (hu : w.Uncached n) {j : Nat} {q : Pool} (hq : w'.pool? j = some q) (t : Target)
    (pr : Principal) (ex : Bool) (name : Option String) (cl : Bool) (tag : Option String) :
    (w'.lookupAs j q t pr ex name).1 ≠ .value (.lease n cl tag) := by
  have hway := oneWay_moves hl hr
  -- the resource stays out of every pool, and is older than anything a lookup opens
  have hu' := hway.uncached hi hu
  intro h
  rcases lookupAs_lease_cases hq h with ⟨e, he, hs⟩ | ⟨hlt, -⟩
  · exact hu' j e ⟨q, hq, he⟩ hs
  · have hle := hway.opened
    have hn := hi.2
    omega

/-- **Closing every handle of a pool.** In every reachable world, closing every handle of a live
pool empties that pool and leaves the other pools and the grace queue as they were, and changes
no resource but those of its entries. When no entry's close panics, the resource of every entry,
shared or exclusive, passes once through its close guard, whatever the others answered. The step
answers success exactly when every one of those closes ended well; it answers an error exactly
when none panics and one failed, the error of the first close, in entry order, that the backend
refused, which is a close error; and it answers a panic exactly when one of them panics, the panic
of the first that does. No resource of its entries is ever leased again. -/
theorem close_all_closes_every_entry {w : World} (hw : w.Reachable) {i : Nat} {p : Pool}
    (hp : w.pool? i = some p) :
    (w.act (.closeAllShared i)).2.pool? i = some { p with entries := [] } ∧
    (∀ j, j ≠ i → (w.act (.closeAllShared i)).2.pool? j = w.pool? j) ∧
    (w.act (.closeAllShared i)).2.grace = w.grace ∧
    (∀ n, n ∉ p.entries.map (·.handle.serial) →
      (w.act (.closeAllShared i)).2.backend.resources.find? n = w.backend.resources.find? n) ∧
    ((∀ e ∈ p.entries, (w.backend.close e.handle.serial).1.panic? = none) →
      ∀ n ∈ p.entries.map (·.handle.serial),
        (w.act (.closeAllShared i)).2.backend.resources.find? n =
          (w.backend.resources.find? n).map fun r => (r.closeOnce (w.backend.reply r)).2) ∧
    ((w.act (.closeAllShared i)).1 = .value .unit ↔
      ∀ e ∈ p.entries, (w.backend.close e.handle.serial).1.isOk) ∧
    (∀ err, ((w.act (.closeAllShared i)).1 = .failed err ∨
        (w.act (.closeAllShared i)).1 = .failedSeveral err) ↔
      (∀ e ∈ p.entries, (w.backend.close e.handle.serial).1.panic? = none) ∧
      ∃ l₁ e l₂, p.entries = l₁ ++ e :: l₂ ∧
        (∀ e' ∈ l₁, (w.backend.close e'.handle.serial).1.isOk) ∧
        (w.backend.close e.handle.serial).1 = .failed err) ∧
    (∀ err, (w.act (.closeAllShared i)).1 = .failed err ∨
        (w.act (.closeAllShared i)).1 = .failedSeveral err → ∃ res reason, err = .backendClose res reason) ∧
    (∀ m, (w.act (.closeAllShared i)).1 = .panicked m ↔
      ∃ l₁ e l₂, p.entries = l₁ ++ e :: l₂ ∧
        (∀ e' ∈ l₁, (w.backend.close e'.handle.serial).1.panic? = none) ∧
        (w.backend.close e.handle.serial).1 = .panicked m) ∧
    ∀ e ∈ p.entries, ∀ w', Relation.ReflTransGen (Move fun _ _ => True) (w.act (.closeAllShared i)).2 w' →
      ∀ j q t pr ex name cl tag, w'.pool? j = some q →
        (w'.lookupAs j q t pr ex name).1 ≠ .value (.lease e.handle.serial cl tag) := by
  have hl := ledger_of_reachable hw
  have hnd := hl.serials_nodup hp
  obtain ⟨hworld, hunit, hfail, hpanic⟩ := act_closeAllShared hp
  have hpools : ∀ j, (w.act (.closeAllShared i)).2.pool? j = (w.setPool i { p with entries := [] }).pool? j := by
    intro j
    unfold pool?
    rw [hworld, closeAll_pools]
  refine ⟨?_, fun j hj => ?_, ?_, fun n hn => ?_, fun hnp n hn => ?_, ?_, fun err => ?_,
    fun err ho => ?_, fun m => ?_, fun e he w' hr => ?_⟩
  · rw [hpools, pool?_setPool w hp, if_pos rfl]
  · rw [hpools, pool?_setPool w hp, if_neg hj]
  · rw [hworld, closeAll, closeEntries_grace]
  · rw [hworld]
    exact closeEntries_other w i p p.entries hn
  · -- with no panic the closes are those of the entries' resources in turn, each once
    rw [hworld, closeAll, (closeEntries_of_no_panic hnd hnp).2,
      (w.backend.closeList_distinct hnd).2.2 n, if_pos hn]
  · rw [hunit]
    exact closeAll_no_error hl hp
  · rw [hfail]
    exact closeAll_first_error hl hp err
  · -- the first error is that of a close the backend refused
    obtain ⟨-, -, e, -, -, -, hfailed⟩ := (closeAll_first_error hl hp err).1 ((hfail err).1 ho)
    exact Backend.error?_close (CloseAttempt.error?_eq_some.2 hfailed)
  · rw [hpanic]
    exact closeAll_panicked hl hp m
  · -- the resource was issued and has left every pool
    intro j q t pr ex name cl tag hq
    have hi : w.Issued e.handle.serial := (hl.handle e.handle (Or.inr ⟨i, e, ⟨p, hp, he⟩, rfl⟩)).2
    have hlen := (shrinks_closeAll hp).opened
    refine never_leased_of_uncached (ledger_of_reachable (hw.act _)) hr ?_ ?_ hq t pr ex name cl tag
    · rw [hworld]
      exact ⟨hi.1, hlen ▸ hi.2⟩
    · rw [hworld]
      exact uncached_closeAll hl hp he

/-- Two shared handles and the sessions' backend switched to refuse closing: the bulk close
reports the refusal of the first entry among several, hands nothing to the grace queue, and
closes both resources all the same. -/
theorem close_all_closes_every_entry_refused :
    let w := ((((World.create {} .manual none).act
      (.get 0 "hdfs://nn1" (.direct "a" .simple .empty) false none)).2.act
      (.get 0 "hdfs://nn2" (.direct "a" .simple .empty) false none)).2.act
      (.setSwitches none (some true))).2
    let err : Error := .backendClose "#1 (hdfs://nn1)" "close refused by nn1"
    w.Reachable ∧ (w.act (.closeAllShared 0)).2.grace = w.grace ∧
    (w.backend.close 1).1 = .failed err ∧
    ((w.act (.closeAllShared 0)).1 = .failed err ∨
      (w.act (.closeAllShared 0)).1 = .failedSeveral err) ∧
    (w.act (.closeAllShared 0)).2.backend.resources.map (·.closed) = [true, true] := by
  intro w err
  have hw : w.Reachable := (((Reachable.create {} .manual none .switched).act _).act _).act _
  obtain ⟨p, hp⟩ : ∃ p, w.pool? 0 = some p := Option.isSome_iff_exists.1 (by decide +kernel)
  -- the pool has two entries, on the resources 1 and 2, in the order they were opened
  have hser : p.entries.map (·.handle.serial) = [1, 2] := by
    have h : (w.pool? 0).map (·.entries.map (·.handle.serial)) = some [1, 2] := by decide +kernel
    rwa [hp, Option.map_some, Option.some.injEq] at h
  obtain ⟨e₁, l, hpe, h₁, hl⟩ := List.map_eq_cons_iff.1 hser
  obtain ⟨e₂, l', rfl, h₂, hl'⟩ := List.map_eq_cons_iff.1 hl
  rw [List.map_eq_nil_iff] at hl'
  subst hl'
  have h := close_all_closes_every_entry hw hp
  have herr : (w.backend.close 1).1 = .failed err := by decide +kernel
  -- neither close panics, and the first entry's close is refused, with nothing before it
  have hnp : ∀ e ∈ p.entries, (w.backend.close e.handle.serial).1.panic? = none := by
    have hp₁ : (w.backend.close 1).1.panic? = none := by decide +kernel
    have hp₂ : (w.backend.close 2).1.panic? = none := by decide +kernel
    intro e he
    rw [hpe, List.mem_cons, List.mem_singleton] at he
    rcases he with rfl | rfl
    · rwa [h₁]
    · rwa [h₂]
  have hfirst := (h.2.2.2.2.2.2.1 err).2 ⟨hnp, [], e₁, [e₂], hpe, (fun _ he => nomatch he), h₁ ▸ herr⟩
  exact ⟨hw, h.2.2.1, herr, hfirst, by decide +kernel⟩

end World

end HandlePool
