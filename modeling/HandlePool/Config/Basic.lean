import HandlePool.Error
import HandlePool.Text.Case
/-!
# Cache configuration

The settings of a handle cache: how many distinct keys may be active, the grace delay between
evicting a handle and closing it, how often evicted handles are swept, how long the finalizer
waits between checks, which schemes bind handles to credentials, whether pending closes run at
shutdown, and the properties handed to the backend.

Durations are whole milliseconds. Backend properties form a map sorted by key, where setting
a key again replaces its value.

* `Properties.get_insert`: a property reads back as it was last set.
-/

namespace HandlePool

/-- String properties sorted by key, each key once. -/
structure Properties where
  entries : List (String × String) := []
  deriving DecidableEq, Repr

namespace Properties

/-- Sets `key` to `value`, keeping the keys sorted. -/
def insertEntry (key value : String) : List (String × String) → List (String × String)
  | [] => [(key, value)]
  | (k, v) :: rest =>
    if key < k then (key, value) :: (k, v) :: rest
    else if key = k then (key, value) :: rest
    else (k, v) :: insertEntry key value rest

/-- Sets a property. -/
def insert (p : Properties) (key value : String) : Properties :=
  ⟨insertEntry key value p.entries⟩

/-- The value of a property. -/
def get? (p : Properties) (key : String) : Option String :=
  (p.entries.find? (·.1 == key)).map (·.2)

/-- The properties given by a list of settings, later ones winning. -/
def ofList (kvs : List (String × String)) : Properties :=
  kvs.foldl (fun p (k, v) => p.insert k v) {}

theorem find_insertEntry (key value : String) (es : List (String × String)) :
    (insertEntry key value es).find? (·.1 == key) = some (key, value) := by
  induction es with
  | nil => simp [insertEntry]
  | cons e rest ih =>
    obtain ⟨k, v⟩ := e
    unfold insertEntry
    by_cases h1 : key < k
    · simp [h1]
    · by_cases h2 : key = k
      · simp [h2]
      · have : (k == key) = false := by simp; exact fun h => h2 h.symm
        simp [h1, h2, this, ih]

theorem get_insert (p : Properties) (key value : String) :
    (p.insert key value).get? key = some value := by
  simp [get?, insert, find_insertEntry]

end Properties

/-- The settings of a handle cache. -/
structure Config where
  maxCacheSize : Nat := 1000
  deferredCloseDelayMs : Nat := 300000
  sweepIntervalMs : Nat := 60000
  finalizerWaitTimeoutMs : Nat := 5000
  identitySensitiveSchemes : List String := ["hdfs", "viewfs"]
  closePendingOnShutdown : Bool := true
  backend : Properties := {}
  deriving DecidableEq, Repr

namespace Config

/-- Whether handles for `scheme` must be replaced when credentials rotate: the scheme equals
a configured one up to ASCII case. -/
def isIdentitySensitive (c : Config) (scheme : String) : Bool :=
  c.identitySensitiveSchemes.any (Text.eqIgnoreAsciiCase · scheme)

/-- Refuses settings the background workers cannot run with; a zero delay is allowed. -/
def validate (c : Config) : Except Error Unit :=
  if c.maxCacheSize = 0 then .error (.configuration "max_cache_size must be greater than 0")
  else if c.sweepIntervalMs = 0 then
    .error (.configuration "deferred_close_sweep_interval must be greater than 0")
  else if c.finalizerWaitTimeoutMs = 0 then
    .error (.configuration "finalizer_wait_timeout must be greater than 0")
  else .ok ()

/-- The configuration, if it is valid. -/
def build (c : Config) : Except Error Config := do
  c.validate
  pure c

theorem validate_ok_iff (c : Config) :
    c.validate = .ok () ↔
      c.maxCacheSize ≠ 0 ∧ c.sweepIntervalMs ≠ 0 ∧ c.finalizerWaitTimeoutMs ≠ 0 := by
  unfold validate
  split
  · simp_all
  · split
    · simp_all
    · split
      · simp_all
      · simp_all

end Config

/-- Settings to lay over a configuration; an absent field keeps the value below it. -/
structure ConfigPatch where
  maxCacheSize : Option Nat := none
  deferredCloseDelayMs : Option Nat := none
  sweepIntervalMs : Option Nat := none
  finalizerWaitTimeoutMs : Option Nat := none
  identitySensitiveSchemes : Option (List String) := none
  closePendingOnShutdown : Option Bool := none
  backend : Option (List (String × String)) := none
  deriving DecidableEq, Repr

/-- Whether a patch sets anything. -/
def ConfigPatch.setsAny (p : ConfigPatch) : Bool :=
  p.maxCacheSize.isSome || p.deferredCloseDelayMs.isSome || p.sweepIntervalMs.isSome ||
  p.finalizerWaitTimeoutMs.isSome || p.identitySensitiveSchemes.isSome ||
  p.closePendingOnShutdown.isSome || p.backend.isSome

namespace Config

/-- Lays the fields of `p` over `c`. Backend properties are set one by one over those of `c`
when `merge` holds, and replace them otherwise. -/
def overlay (c : Config) (p : ConfigPatch) (merge : Bool) : Config :=
  { maxCacheSize := p.maxCacheSize.getD c.maxCacheSize
    deferredCloseDelayMs := p.deferredCloseDelayMs.getD c.deferredCloseDelayMs
    sweepIntervalMs := p.sweepIntervalMs.getD c.sweepIntervalMs
    finalizerWaitTimeoutMs := p.finalizerWaitTimeoutMs.getD c.finalizerWaitTimeoutMs
    identitySensitiveSchemes := p.identitySensitiveSchemes.getD c.identitySensitiveSchemes
    closePendingOnShutdown := p.closePendingOnShutdown.getD c.closePendingOnShutdown
    backend := match p.backend with
      | some kvs =>
        if merge then kvs.foldl (fun b (k, v) => b.insert k v) c.backend else .ofList kvs
      | none => c.backend }

end Config

end HandlePool
