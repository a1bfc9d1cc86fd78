/-!
# Diagnostics output

Diagnostics go to one process-wide subscriber. Installing it succeeds once; every later
attempt fails and leaves the first in place.
-/

namespace HandlePool.Telemetry

/-- Why installing the subscriber failed. -/
def alreadySet : String := "a global default trace dispatcher has already been set"

/-- Installs the subscriber when none is installed yet; `installed` says whether one is. -/
def install (installed : Bool) : Except String Unit × Bool :=
  if installed then (.error alreadySet, true) else (.ok (), true)

/-- The outcomes of `n` installation attempts in a fresh process. -/
def installMany (n : Nat) : List (Except String Unit) :=
  ((List.range n).foldl (fun (acc : List (Except String Unit) × Bool) _ =>
    let (r, now) := install acc.2
    (acc.1 ++ [r], now)) ([], false)).1

end HandlePool.Telemetry
