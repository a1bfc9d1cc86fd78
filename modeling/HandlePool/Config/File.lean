import HandlePool.Config.Basic
import HandlePool.Json.Field
/-!
# The configuration file

The file is a JSON object whose `cache` member holds the cache settings under their own
names (durations as `*_ms`). Keys other than `cache` are ignored; inside `cache` an unknown
key is refused. Every setting is optional and `null` means absent. Either record may also be
written as a list of its fields in order.

Settings read from the file replace those below them, the backend properties as a whole.
A file that is not UTF-8, or not such a document, is refused with the reason.
-/

namespace HandlePool.Config

open Json

/-- The keys of the cache section, in order. -/
def sectionFields : List String :=
  ["max_cache_size", "deferred_close_delay_ms", "deferred_close_sweep_interval_ms",
   "finalizer_wait_timeout_ms", "identity_sensitive_schemes", "close_pending_on_shutdown",
   "backend"]

/-- Reads the value of the `i`-th key of the cache section into the settings. -/
def readSectionField (i : Nat) (p : ConfigPatch) (cs : List UInt8) : Step ConfigPatch :=
  match i with
  | 0 => (readOptional (readUnsigned "usize") cs).map fun (v, r) => ({ p with maxCacheSize := v }, r)
  | 1 => (readOptional (readUnsigned "u64") cs).map fun (v, r) =>
    ({ p with deferredCloseDelayMs := v }, r)
  | 2 => (readOptional (readUnsigned "u64") cs).map fun (v, r) => ({ p with sweepIntervalMs := v }, r)
  | 3 => (readOptional (readUnsigned "u64") cs).map fun (v, r) =>
    ({ p with finalizerWaitTimeoutMs := v }, r)
  | 4 => (readOptional readTexts cs).map fun (v, r) => ({ p with identitySensitiveSchemes := v }, r)
  | 5 => (readOptional readBool cs).map fun (v, r) => ({ p with closePendingOnShutdown := v }, r)
  | _ => (readOptional readTextMap cs).map fun (v, r) => ({ p with backend := v }, r)

/-- The cache section: a closed record. -/
def sectionShape : RecordShape ConfigPatch :=
  ⟨"struct CacheSection", sectionFields, true, readSectionField⟩

/-- The whole file: an open record with the single key `cache`. -/
def fileShape : RecordShape ConfigPatch :=
  ⟨"struct FileConfig", ["cache"], false, fun _ _ cs => readRecord sectionShape {} cs⟩

/-- The settings a document holds; nothing but whitespace may follow it. -/
def readDocument (doc : List UInt8) : Except Failure ConfigPatch :=
  match readRecord fileShape {} doc with
  | .error e => .error e
  | .ok (p, rest) =>
    match skipSpace rest with
    | [] => .ok p
    | more => .error (.ahead .trailingCharacters more)

/-- What the file system holds at the configuration path. -/
inductive FileState where
  | absent
  | directory
  | bytes (content : List UInt8)
  deriving Repr

/-- Lays the file at `path` over `c`; the flag tells whether there was a file. -/
def applyFile (path : String) (file : FileState) (c : Config) : Except Error (Bool × Config) :=
  let readFailed := fun (reason : String) => Error.fileSystem path "read config file" reason
  match file with
  | .absent => .ok (false, c)
  | .directory => .error (readFailed "Is a directory (os error 21)")
  | .bytes content =>
    match String.fromUTF8? (ByteArray.mk content.toArray) with
    | none => .error (readFailed "stream did not contain valid UTF-8")
    | some _ =>
      match readDocument content with
      | .ok p => .ok (true, c.overlay p false)
      | .error e => .error (.json (e.describe content))

end HandlePool.Config
