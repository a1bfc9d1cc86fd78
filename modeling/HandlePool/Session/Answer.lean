import HandlePool.Config.Basic
import HandlePool.Stats
/-!
# Sessions: scripted steps and their answers

A session drives one part of the library (a whole set of caches, a grace queue alone, or an
orphan tracker alone) through a list of steps and answers each step. An answer is the step's
outcome together with the session's gauges, named readings of its state such as how many
resources wait to be closed. While background workers run, the gauges could change at any
moment, so answers then carry none; a step that waits watches the gauges until they show
given readings.

Steps refer to resources and handles by names the script gives them. A step that names
something unknown, or asks for what the session cannot do, is refused with a `Fault`.
-/

namespace HandlePool

/-- Why a step was refused before it reached the library. -/
inductive Fault where
  /-- Nothing of this kind (a handle, a resource, a registration) has this name. -/
  | unknownName (kind name : String)
  /-- There is no cache with this index, or it was dropped. -/
  | unknownCache (index : Nat)
  /-- The system clock cannot be moved. -/
  | clockNotMovable
  /-- Only a manual clock reports its elapsed time. -/
  | clockNotManual
  /-- A wait names a gauge the session does not have. -/
  | unknownGauge (key : String)
  /-- The step itself is malformed. -/
  | malformed (message : String)
deriving DecidableEq, Repr

/-- The text of a fault. -/
def Fault.message : Fault → String
  | .unknownName k n => "no " ++ k ++ " named '" ++ n ++ "'"
  | .unknownCache i => "no cache " ++ toString i
  | .clockNotMovable => "the system clock cannot be moved"
  | .clockNotManual => "clock_elapsed needs the manual clock"
  | .unknownGauge k => "unknown wait key '" ++ k ++ "'"
  | .malformed m => m

/-- A gauge reading: a number, a missing value, or a list of readings. -/
inductive Reading where
  | num (n : Nat)
  | absent
  | list (items : List Reading)
deriving BEq, Repr

/-- Named readings of a session's state. -/
abbrev Gauges := List (String × Reading)

/-- A list of counts as a reading. -/
def Reading.counts (ns : List Nat) : Reading := .list (ns.map .num)

/-- How a scripted backend operation behaves: it succeeds, fails, or panics. -/
inductive Behavior where
  | succeeds
  | fails
  | panics
deriving DecidableEq, Repr

/-- The value a step produced. -/
inductive Value where
  /-- Nothing to report. -/
  | unit
  | flag (b : Bool)
  | count (n : Nat)
  | text (s : String)
  /-- A handle a cache handed out: its resource's serial, whether it is closed, and the
  tag the backend gave the resource. -/
  | lease (serial : Nat) (closed : Bool) (tag : Option String)
  | statistics (s : Statistics)
  /-- The counters of the grace queue and the finalizer. -/
  | workers (pending closed failed tracked completed finalizerFailed : Nat)
  /-- Whether the finalizer's loop and the grace queue's sweeper run. -/
  | running (finalizer sweeper : Bool)
  /-- What a handle shows of itself: its resource's serial, target and peer, whether it is
  closed, and its diagnostic text. -/
  | inspection (serial : Nat) (target peer : String) (closed : Bool) (debug : String)
  | config (c : Config)
deriving Repr

mutual

/-- What came of a step. -/
inductive Outcome where
  | value (v : Value)
  /-- The answers of the steps run in a nested scope. -/
  | nested (answers : List Answer)
  | failed (e : Error)
  /-- Several operations failed with errors of this kind; which of them comes first is not
  determined, so only the kind is reported. -/
  | failedSeveral (e : Error)
  | panicked (message : String)
  | refused (f : Fault)

/-- A step's outcome and, when no worker runs, the session's gauges after it. -/
inductive Answer where
  | mk (outcome : Outcome) (gauges : Option Gauges)

end

namespace Answer

/-- The outcome of an answer. -/
def outcome : Answer → Outcome
  | mk o _ => o

/-- The gauges of an answer. -/
def gauges : Answer → Option Gauges
  | mk _ g => g

end Answer

/-- Whether every expectation holds: each names a gauge that reads the expected value.
An expectation without a value (one no reading can equal) never holds. -/
def Gauges.meet (g : Gauges) (goal : List (String × Option Reading)) : Bool :=
  goal.all fun (k, r) =>
    match r, g.lookup k with
    | some r, some v => r == v
    | _, _ => false

/-- The first key of a goal that names no gauge. -/
def Gauges.unknownKey? (g : Gauges) (goal : List (String × Option Reading)) : Option String :=
  (goal.find? fun (k, _) => (g.lookup k).isNone).map (·.1)

/-- Watches a state until its gauges meet a goal: `settle` lets the workers act and `tick`
lets time pass between two looks. Answers whether the goal was met within `looks` looks. -/
def watch {σ : Type} (settle tick : σ → σ) (gauges : σ → Gauges)
    (goal : List (String × Option Reading)) : Nat → σ → Bool × σ
  | 0, s => (false, s)
  | n + 1, s =>
    let s := settle s
    if (gauges s).meet goal then (true, s) else watch settle tick gauges goal n (tick s)

/-- How many times a wait looks: once a millisecond for three seconds. -/
def waitLooks : Nat := 3000

/-- Runs steps in order, answering each with its outcome and the gauges `view` shows after it. -/
def runScript {σ τ : Type} (step : σ → τ → Outcome × σ) (view : σ → Option Gauges) :
    List τ → σ → List Answer × σ
  | [], s => ([], s)
  | t :: ts, s =>
    let (o, s) := step s t
    let a := Answer.mk o (view s)
    let (as, s) := runScript step view ts s
    (a :: as, s)

/-- Values a script holds under names. -/
abbrev Named (α : Type) := List (String × α)

namespace Named

variable {α : Type}

/-- Puts `v` under `name`; answers the value it replaces. -/
def bind (ns : Named α) (name : String) (v : α) : Named α × Option α :=
  match ns.lookup name with
  | some old => (ns.map fun (k, x) => if k == name then (k, v) else (k, x), some old)
  | none => (ns ++ [(name, v)], none)

/-- Takes away the value under `name`; answers it. -/
def unbind (ns : Named α) (name : String) : Named α × Option α :=
  (ns.filter (·.1 != name), ns.lookup name)

end Named

end HandlePool
