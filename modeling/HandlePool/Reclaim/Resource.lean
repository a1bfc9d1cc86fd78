import HandlePool.Error
/-!
# Backend resources and their close guard

Every resource a backend opens gets a serial number, 1, 2, … in the order of opening, and a
one-shot close guard. The first close through the guard marks the resource closed and then
asks the backend to close it, whatever the backend answers; every later close does nothing
and says so. A refusal or a panic of the backend therefore still leaves the resource closed.

* `closeCalls_closeOnce`: a pass through the guard calls the backend at most once, and only
  on a resource that was open.
-/

namespace HandlePool

/-- How a backend answers a request to close one of its resources. -/
inductive CloseReply where
  /-- The resource is closed. -/
  | done
  /-- The backend refused, giving a reason. -/
  | refused (reason : String)
  /-- The backend's close panicked with a message. -/
  | panicked (message : String)
deriving DecidableEq, Repr

/-- What one pass through a close guard did. -/
inductive CloseAttempt where
  /-- The resource was already closed; the backend was not asked. -/
  | skipped
  /-- This pass closed the resource. -/
  | closed
  /-- The backend refused; the resource counts as closed all the same. -/
  | failed (error : Error)
  /-- The backend panicked; the resource counts as closed all the same. -/
  | panicked (message : String)
deriving DecidableEq, Repr

/-- Whether an attempt ended without an error or a panic. -/
def CloseAttempt.isOk : CloseAttempt → Bool
  | .skipped | .closed => true
  | .failed _ | .panicked _ => false

/-- A resource opened by a backend. -/
structure Resource where
  /-- Its place in the order of opening, from 1. -/
  serial : Nat
  /-- What it is open on, as displayed. -/
  target : String
  /-- The address the backend names in its own messages about it. -/
  peer : String
  /-- A label the backend attached when opening it. -/
  tag : Option String := none
  /-- Whether its close guard has been passed. -/
  closed : Bool := false
  /-- How many times the backend was asked to close it. -/
  closeCalls : Nat := 0
deriving DecidableEq, Repr

namespace Resource

/-- `#serial (target)`, the resource as errors name it. -/
def describe (r : Resource) : String := "#" ++ toString r.serial ++ " (" ++ r.target ++ ")"

/-- One pass through the close guard, the backend answering `reply` if it is asked. -/
def closeOnce (r : Resource) (reply : CloseReply) : CloseAttempt × Resource :=
  if r.closed then (.skipped, r)
  else
    let shut := { r with closed := true, closeCalls := r.closeCalls + 1 }
    match reply with
    | .done => (.closed, shut)
    | .refused reason => (.failed (.backendClose r.describe reason), shut)
    | .panicked message => (.panicked message, shut)

theorem closeOnce_closed (r : Resource) (reply : CloseReply) :
    (r.closeOnce reply).2.closed = true := by
  unfold closeOnce
  split
  · assumption
  · split <;> rfl

theorem closeCalls_closeOnce (r : Resource) (reply : CloseReply) :
    (r.closeOnce reply).2.closeCalls = r.closeCalls + (if r.closed then 0 else 1) := by
  unfold closeOnce
  split
  · simp_all
  · split <;> simp_all

end Resource

/-- The resources a backend opened, in serial order. -/
abbrev Resources := List Resource

namespace Resources

/-- The resource with a serial number. -/
def find? (rs : Resources) (serial : Nat) : Option Resource := List.find? (·.serial == serial) rs

/-- Passes the resource `serial` through its guard, the backend answering as `reply` says
for that resource. An unknown serial is left alone. -/
def closeOnce (rs : Resources) (serial : Nat) (reply : Resource → CloseReply) :
    CloseAttempt × Resources :=
  match rs with
  | [] => (.skipped, [])
  | r :: rest =>
    if r.serial == serial then
      let (a, r') := r.closeOnce (reply r)
      (a, r' :: rest)
    else
      let (a, rest') := closeOnce rest serial reply
      (a, r :: rest')

/-- Whether the resource `serial` is closed. -/
def isClosed (rs : Resources) (serial : Nat) : Bool :=
  match rs.find? serial with
  | some r => r.closed
  | none => false

/-- How many times the backend was asked to close each resource, in serial order. -/
def closeCounts (rs : Resources) : List Nat := rs.map (·.closeCalls)

end Resources

end HandlePool
