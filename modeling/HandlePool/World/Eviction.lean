import HandlePool.World.Basic
/-!
# Evicting and closing handles

A handle leaves its pool in three ways besides rotation. Removing it hands its resource to
the grace queue. Closing it closes the resource now, through the same one-shot guard, whether
or not a pool still had it; a panic of the backend reaches the caller. Closing a whole pool
empties the pool and closes the resource of every entry, going on past failures; a panic stops
it there, and the entries left are let go unclosed as the panic unwinds. Dropping a pool lets go
of all its entries at once.
-/

namespace HandlePool

/-- The bulk closes a pool keeps for its interface; none is supported. -/
inductive CloseFilter where
  /-- Only handles flagged for automatic close. -/
  | automaticOnly
  /-- Only handles opened for one principal. -/
  | principal (p : Principal)
deriving DecidableEq, Repr

/-- How a filtered bulk close is named in errors. -/
def CloseFilter.describe : CloseFilter → String
  | .automaticOnly => "close_all(automatic only)"
  | .principal p => "close_all(principal " ++ p.display ++ ")"

namespace World

/-- Removes from pool `i` (state `p`) the entry on the resource of `h` and hands the resource
to the grace queue; answers whether there was one. -/
def remove (w : World) (i : Nat) (p : Pool) (h : Handle) : Bool × World :=
  match p.take h.serial with
  | (some e, p) => (true, ((w.setPool i (p.count Recorder.eviction)).evict e.handle.serial).letGo e.handle)
  | (none, _) => (false, w)

/-- Removes from pool `i` (state `p`) the entry on the resource of `h`, if any, and closes the
resource now. -/
def close (w : World) (i : Nat) (p : Pool) (h : Handle) : CloseAttempt × World :=
  let w := match p.take h.serial with
    | (some e, p) => (w.setPool i (p.count Recorder.eviction)).letGo e.handle
    | (none, _) => w
  w.closeResource h.serial

/-- What a bulk close gathered: the errors of the closes that failed, in order, and the message
of the close that panicked, if one did. -/
structure Gathered where
  errors : List Error := []
  panic : Option String := none
deriving DecidableEq, Repr

/-- Adds what one close did. -/
def Gathered.add (g : Gathered) : CloseAttempt → Gathered
  | .failed err => { g with errors := g.errors ++ [err] }
  | .panicked m => { g with panic := some m }
  | _ => g

/-- Empties pool `i` (state `p`), then closes the resource of each entry of `es` in turn and
lets go of its handle, gathering what the closes did. Once a close has panicked no other is
made: the entries after it are only let go. -/
def closeEntries (w : World) (i : Nat) (p : Pool) (es : List Entry) : Gathered × World :=
  es.foldl (fun (acc : Gathered × World) e =>
      match acc.1.panic with
      | some _ => (acc.1, acc.2.letGo e.handle)
      | none =>
        let (a, w) := acc.2.closeResource e.handle.serial
        (acc.1.add a, w.letGo e.handle))
    ({}, w.setPool i { p with entries := [] })

/-- Closes the resource of every entry of pool `i` (state `p`) and empties it. The pool's map
yields its entries in an order of its own; the entries are taken here in the order the pool
keeps them. -/
def closeAll (w : World) (i : Nat) (p : Pool) : Gathered × World := w.closeEntries i p p.entries

/-- Drops pool `i` (state `p`), letting go of every entry. -/
def dropPool (w : World) (i : Nat) (p : Pool) : World :=
  { w with pools := w.pools.set i none }.letGoAll (p.entries.map Entry.handle)

end World

end HandlePool
