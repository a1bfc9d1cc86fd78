import HandlePool.Decimal.Text
/-!
# Lookup statistics

Counters a cache keeps about its lookups, as 64-bit words that wrap (`Recorder`), and the
snapshot a caller reads of them (`Counters`), with the two figures derived from it: the hit
rate, the percentage of hits among hits and misses computed in double precision (zero when
there was neither), and the number of lookups that were served, counting rotations. A
snapshot of a cache's statistics adds its size and the counters of the workers it shares.
-/

namespace HandlePool

/-- A snapshot of what a cache has counted since it was made. -/
structure Counters where
  hits : Nat := 0
  misses : Nat := 0
  creations : Nat := 0
  creationFailures : Nat := 0
  rotations : Nat := 0
  evictions : Nat := 0
  capacityRejections : Nat := 0
deriving DecidableEq, Repr

namespace Counters

/-- `hits / (hits + misses) · 100` in double precision, each count first rounded to the
nearest double; zero when both counts are zero. -/
def hitRate (hits misses : Nat) : Float :=
  if hits + misses = 0 then 0.0
  else (Decimal.Binary64.ofNat hits).toFloat / (Decimal.Binary64.ofNat (hits + misses)).toFloat
    * 100.0

/-- Lookups that were answered from the cache or by a creation, rotations included. -/
def totalLookups (hits misses rotations : Nat) : Nat := hits + misses + rotations

end Counters

/-- The counters a cache bumps as it serves lookups, removes and closes: 64-bit words, each
bump adding one and wrapping at `2 ^ 64`. -/
structure Recorder where
  hits : UInt64 := 0
  misses : UInt64 := 0
  creations : UInt64 := 0
  creationFailures : UInt64 := 0
  rotations : UInt64 := 0
  evictions : UInt64 := 0
  capacityRejections : UInt64 := 0
deriving DecidableEq, Repr

namespace Recorder

/-- A hit counted. -/
def hit (c : Recorder) : Recorder := { c with hits := c.hits + 1 }

/-- A miss counted. -/
def miss (c : Recorder) : Recorder := { c with misses := c.misses + 1 }

/-- A creation counted. -/
def creation (c : Recorder) : Recorder := { c with creations := c.creations + 1 }

/-- A failed creation counted. -/
def creationFailure (c : Recorder) : Recorder :=
  { c with creationFailures := c.creationFailures + 1 }

/-- A rotation counted; it is also an eviction. -/
def rotation (c : Recorder) : Recorder :=
  { c with rotations := c.rotations + 1, evictions := c.evictions + 1 }

/-- An eviction counted. -/
def eviction (c : Recorder) : Recorder := { c with evictions := c.evictions + 1 }

/-- A lookup refused for want of room counted. -/
def capacityRejection (c : Recorder) : Recorder :=
  { c with capacityRejections := c.capacityRejections + 1 }

/-- The counters as a snapshot reads them. -/
def snapshot (c : Recorder) : Counters :=
  { hits := c.hits.toNat, misses := c.misses.toNat, creations := c.creations.toNat,
    creationFailures := c.creationFailures.toNat, rotations := c.rotations.toNat,
    evictions := c.evictions.toNat, capacityRejections := c.capacityRejections.toNat }

end Recorder

/-- A cache's counters with its size and the counters of its finalizer and grace queue. -/
structure Statistics where
  counters : Counters
  entries : Nat
  finalizerTracked : Nat
  finalizerCompleted : Nat
  finalizerFailed : Nat
  pendingCloses : Nat
  deferredClosed : Nat
  deferredCloseFailures : Nat
deriving DecidableEq, Repr

namespace Statistics

/-- The hit rate of the snapshot, in percent. -/
def hitRate (s : Statistics) : Float := Counters.hitRate s.counters.hits s.counters.misses

/-- The lookups of the snapshot that were served. -/
def totalLookups (s : Statistics) : Nat :=
  Counters.totalLookups s.counters.hits s.counters.misses s.counters.rotations

end Statistics

end HandlePool
