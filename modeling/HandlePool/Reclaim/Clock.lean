/-!
# Clocks

Evictions are stamped with a clock reading: whole milliseconds since the clock was made. A
manual clock moves only when told to, and setting its reading never moves it backwards. The
system clock moves by itself and cannot be set; here it moves one millisecond each time a
waiting caller looks again (`tick`).

* `le_setElapsed`, `le_advance`, `le_tick`: no operation moves a clock backwards.
-/

namespace HandlePool

/-- Which kind of clock a context runs on. -/
inductive ClockKind where
  /-- Moves only when told to. -/
  | manual
  /-- Moves with real time. -/
  | system
deriving DecidableEq, Repr

/-- A clock: its kind and the milliseconds elapsed since it was made. -/
structure Clock where
  kind : ClockKind := .manual
  elapsed : Nat := 0
deriving DecidableEq, Repr

namespace Clock

/-- Moves the clock forward by `ms`. -/
def advance (c : Clock) (ms : Nat) : Clock := { c with elapsed := c.elapsed + ms }

/-- Moves the clock to `ms` after its start, unless it already reads later. -/
def setElapsed (c : Clock) (ms : Nat) : Clock := { c with elapsed := max c.elapsed ms }

/-- Time passing while a caller waits: the system clock moves a millisecond, a manual clock
stays where it is. -/
def tick (c : Clock) : Clock :=
  match c.kind with
  | .manual => c
  | .system => c.advance 1

theorem le_advance (c : Clock) (ms : Nat) : c.elapsed ≤ (c.advance ms).elapsed := by
  simp [advance]

theorem le_setElapsed (c : Clock) (ms : Nat) : c.elapsed ≤ (c.setElapsed ms).elapsed :=
  Nat.le_max_left _ _

theorem le_tick (c : Clock) : c.elapsed ≤ c.tick.elapsed := by
  unfold tick
  split
  · exact Nat.le_refl _
  · exact le_advance c 1

end Clock

end HandlePool
