import HandlePool.World.Basic
/-!
# Looking up a handle

A lookup for a target and a principal in one pool derives the key (the unique number is zero
for a shared handle and freshly drawn for an exclusive one) and the principal's credentials;
either failure ends the lookup before anything changes. Then, in order:

1. an entry under the key whose resource is closed is discarded;
2. an entry under the key opened with other credentials, on a scheme that binds handles to
   credentials, is rotated out: the entry is removed and its resource handed to the grace
   queue, and a new handle is opened without a capacity check;
3. any other entry under the key is a hit and its handle is returned;
4. without an entry, a full pool first discards its entries on closed resources; if it is
   still full the lookup is refused, otherwise it is a miss and a new handle is opened.

Opening asks the backend for a resource, registers the handle with the orphan tracker and
adds the entry. If the backend refuses, nothing is added; a rotated-out resource stays with
the grace queue.
-/

namespace HandlePool

namespace World

/-- Opens a new handle for `key` and adds its entry to pool `i`, whose state before is `p`. -/
def openHandle (w : World) (i : Nat) (p : Pool) (key : CacheKey) (t : Target) (creds : TokenSet) :
    Except Error Handle × World :=
  match w.backend.openOn t w.config.backend with
  | .error reason =>
    (.error (.backendCreateFailed t.display reason), w.setPool i (p.count Recorder.creationFailure))
  | .ok (r, b) =>
    let (reg, o) := w.orphans.register
    let h : Handle := ⟨r.serial, reg⟩
    let p := (p.insert ⟨key, h, creds⟩).count Recorder.creation
    (.ok h, { w with backend := b, orphans := o }.setPool i p)

/-- Discards the entries of pool `i` (state `p`) whose resources are closed. -/
def purge (w : World) (i : Nat) (p : Pool) : Pool × World :=
  let shut := fun (e : Entry) => w.backend.resources.isClosed e.handle.serial
  let p' := { p with entries := p.entries.filter fun e => !shut e }
  (p', (w.setPool i p').letGoAll ((p.entries.filter shut).map (·.handle)))

/-- Discards the entry under `key` if its resource is closed. -/
def discardClosed (w : World) (i : Nat) (p : Pool) (key : CacheKey) : Pool × World :=
  match p.find? key with
  | some e =>
    if w.backend.resources.isClosed e.handle.serial then
      let p := p.erase key
      (p, (w.setPool i p).letGo e.handle)
    else (p, w)
  | none => (p, w)

/-- Looks up a handle for target `t` and principal `pr` in pool `i` (state `p`), with unique
number `unique`. -/
def lookup (w : World) (i : Nat) (p : Pool) (t : Target) (pr : Principal) (unique : Nat) :
    Except Error Handle × World :=
  match CacheKey.derive t pr unique, credentialTokens pr with
  | .error e, _ => (.error e, w)
  | .ok _, .error e => (.error e, w)
  | .ok key, .ok creds =>
    let (p, w) := w.discardClosed i p key
    match p.find? key with
    | some e =>
      if w.config.isIdentitySensitive key.scheme && e.credentials != creds then
        let p := (p.erase key).count Recorder.rotation
        let w := ((w.setPool i p).evict e.handle.serial).letGo e.handle
        w.openHandle i p key t creds
      else (.ok e.handle, w.setPool i (p.count Recorder.hit))
    | none =>
      let (p, w) := if w.config.maxCacheSize ≤ p.size then w.purge i p else (p, w)
      if w.config.maxCacheSize ≤ p.size then
        (.error (.cacheFull w.config.maxCacheSize), w.setPool i (p.count Recorder.capacityRejection))
      else w.openHandle i (p.count Recorder.miss) key t creds

end World

end HandlePool
