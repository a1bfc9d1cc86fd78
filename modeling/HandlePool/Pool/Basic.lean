import HandlePool.Key
import HandlePool.Stats
import HandlePool.Identity.Scope
/-!
# Pools of cached handles

A pool maps cache keys to handles. A handle stands for one backend resource, named by the
resource's serial, and for the registration that closes the resource once nobody holds the
handle any more. Each entry also keeps the credentials its handle was opened with, so that a
lookup with other credentials can replace it.

Entries are kept in the order they were added. No answer of a pool depends on that order,
except which of several failures of one bulk close would be reported first.
-/

namespace HandlePool

/-- A shared handle on a backend resource. -/
structure Handle where
  /-- The resource's serial. -/
  serial : Nat
  /-- The number of the registration that closes the resource once no holder is left. -/
  registration : UInt64
deriving DecidableEq, Repr

/-- One cached handle and the credentials it was opened with. -/
structure Entry where
  key : CacheKey
  handle : Handle
  credentials : TokenSet
deriving DecidableEq, Repr

/-- A cache of handles. -/
structure Pool where
  /-- Where lookups "as the current user" take their principal from. -/
  identity : Option IdentitySource := none
  /-- The unique number of the next exclusive lookup; it wraps like a 64-bit word. -/
  nextUnique : UInt64 := 1
  entries : List Entry := []
  counters : Recorder := {}
deriving DecidableEq, Repr

namespace Pool

/-- The entry under a key. -/
def find? (p : Pool) (k : CacheKey) : Option Entry := p.entries.find? (·.key == k)

/-- The pool without the entry under a key. -/
def erase (p : Pool) (k : CacheKey) : Pool := { p with entries := p.entries.filter (·.key != k) }

/-- Adds an entry under a key that has none. -/
def insert (p : Pool) (e : Entry) : Pool := { p with entries := p.entries ++ [e] }

/-- How many entries the pool has. -/
def size (p : Pool) : Nat := p.entries.length

/-- Updates the counters. -/
def count (p : Pool) (f : Recorder → Recorder) : Pool := { p with counters := f p.counters }

/-- Takes out the entry whose handle is on the resource `serial`, if there is one. -/
def take (p : Pool) (serial : Nat) : Option Entry × Pool :=
  match p.entries.find? (·.handle.serial == serial) with
  | some e => (some e, { p with entries := p.entries.filter (·.handle.serial != serial) })
  | none => (none, p)

/-- Whether an entry holds the handle. -/
def holds (p : Pool) (h : Handle) : Bool := p.entries.any (·.handle == h)

/-- Draws the unique number of an exclusive lookup. -/
def drawUnique (p : Pool) : Nat × Pool :=
  (p.nextUnique.toNat, { p with nextUnique := p.nextUnique + 1 })

theorem size_insert (p : Pool) (e : Entry) : (p.insert e).size = p.size + 1 := by
  simp [insert, size]

end Pool

end HandlePool
