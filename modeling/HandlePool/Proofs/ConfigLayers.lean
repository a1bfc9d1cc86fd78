import HandlePool.Config.Load
/-!
# Where each setting of a loaded configuration comes from

A configuration is loaded in three layers: the defaults, the configuration file, and the
`FSPOOL_*` variables of the environment, each laid over the one below; the result is checked
last. What each layer gives is stated here on its own terms: the file gives the settings of the
document it holds (`FileState.Gives`), and each variable gives nothing when unset and otherwise
its text trimmed, lowercased and parsed (`Environment.Reads`, `Environment.Gives`). The
configuration they make together (`Config.layered`) takes each setting from the environment if
it gives one, else from the file, else the default; the backend properties come from the file
or the default only.

* `setting_eq_ok_iff`, `envPatch_eq_ok_iff`, `applyFile_of_gives`: each layer is read exactly as
  stated.
* `overlay_overlay`: laying the file and then the environment over the defaults makes the
  layered configuration.
* `load_of_gives`: when both layers read, loading is checking the layered configuration.
* `config_load_precedence`: the whole statement.
-/

namespace HandlePool.Config

/-- The setting `v` the variable `name` gives when read by `parse`: none when the variable is
unset (a value that is not UTF-8 counts as unset), else the parse of its text trimmed of blank
characters and lowercased. -/
def Environment.Reads {α : Type} (env : Environment) (name : String)
    (parse : String → Except String α) : Option α → Prop
  | none => env.get? name = none
  | some v => ∃ raw, env.get? name = some raw ∧ parse (Text.toLower (Text.trimBlank raw)) = .ok v

/-- The settings the environment gives: the numbers and the flag as their variables read, the
schemes as their variable's text split at commas, each part trimmed and lowercased and the
empty parts dropped, and no backend properties. -/
structure Environment.Gives (env : Environment) (ep : ConfigPatch) : Prop where
  maxCacheSize : env.Reads maxSizeVar parseUnsigned ep.maxCacheSize
  deferredCloseDelayMs : env.Reads delayVar parseUnsigned ep.deferredCloseDelayMs
  sweepIntervalMs : env.Reads sweepVar parseUnsigned ep.sweepIntervalMs
  finalizerWaitTimeoutMs : env.Reads finalizerVar parseUnsigned ep.finalizerWaitTimeoutMs
  identitySensitiveSchemes : ep.identitySensitiveSchemes = (env.get? schemesVar).map fun raw =>
    (((raw.splitOn ",").map Text.trimBlank).filter (!·.isEmpty)).map Text.toLower
  closePendingOnShutdown : env.Reads closePendingVar parseBool ep.closePendingOnShutdown
  backend : ep.backend = none

/-- The settings a file gives: none when there is no file; for a file of UTF-8 text, the
settings of the document it holds. A directory gives none: it cannot be read. -/
def FileState.Gives : FileState → ConfigPatch → Prop
  | .absent, fp => fp = {}
  | .directory, _ => False
  | .bytes content, fp =>
    (String.fromUTF8? (ByteArray.mk content.toArray)).isSome ∧ readDocument content = .ok fp

/-- Whether something is at the configuration path; a directory counts. -/
def FileState.present : FileState → Bool
  | .absent => false
  | _ => true

/-- The configuration the layers make: each setting from the environment's settings `ep` if
they have it, else from the file's `fp`, else the default; the backend properties from the
file, else the default. -/
def layered (fp ep : ConfigPatch) : Config :=
  let d : Config := {}
  { maxCacheSize := ep.maxCacheSize.getD (fp.maxCacheSize.getD d.maxCacheSize)
    deferredCloseDelayMs := ep.deferredCloseDelayMs.getD
      (fp.deferredCloseDelayMs.getD d.deferredCloseDelayMs)
    sweepIntervalMs := ep.sweepIntervalMs.getD (fp.sweepIntervalMs.getD d.sweepIntervalMs)
    finalizerWaitTimeoutMs := ep.finalizerWaitTimeoutMs.getD
      (fp.finalizerWaitTimeoutMs.getD d.finalizerWaitTimeoutMs)
    identitySensitiveSchemes := ep.identitySensitiveSchemes.getD
      (fp.identitySensitiveSchemes.getD d.identitySensitiveSchemes)
    closePendingOnShutdown := ep.closePendingOnShutdown.getD
      (fp.closePendingOnShutdown.getD d.closePendingOnShutdown)
    backend := (fp.backend.map Properties.ofList).getD d.backend }

/-! ## The environment -/

theorem setting_eq_ok_iff {α : Type} (env : Environment) (name : String)
    (parse : String → Except String α) (v : Option α) :
    setting env name parse = .ok v ↔ env.Reads name parse v := by
  unfold setting
  cases hget : env.get? name with
  | none => cases v <;> simp [Environment.Reads, hget]
  | some raw =>
    cases hp : parse (Text.toLower (Text.trimBlank raw)) with
    | error e => cases v <;> simp [Environment.Reads, hget, hp]
    | ok x => cases v <;> simp [Environment.Reads, hget, hp]

/-- A variable gives a setting exactly when it is set. -/
theorem Environment.Reads.isSome_eq {α : Type} {env : Environment} {name : String}
    {parse : String → Except String α} {v : Option α} (h : env.Reads name parse v) :
    v.isSome = (env.get? name).isSome := by
  cases v with
  | none => simp only [Environment.Reads] at h; simp [h]
  | some x =>
    obtain ⟨raw, hget, -⟩ := h
    simp [hget]

theorem envPatch_eq_ok_iff (env : Environment) (ep : ConfigPatch) :
    envPatch env = .ok ep ↔ env.Gives ep := by
  constructor
  · intro h
    unfold envPatch at h
    -- each variable is read in turn, and the reading goes on only past one that reads
    obtain ⟨m, h1, h⟩ := bind_eq_ok h
    obtain ⟨d, h2, h⟩ := bind_eq_ok h
    obtain ⟨s, h3, h⟩ := bind_eq_ok h
    obtain ⟨f, h4, h⟩ := bind_eq_ok h
    obtain ⟨b, h5, h⟩ := bind_eq_ok h
    cases h
    exact ⟨(setting_eq_ok_iff _ _ _ _).1 h1, (setting_eq_ok_iff _ _ _ _).1 h2,
      (setting_eq_ok_iff _ _ _ _).1 h3, (setting_eq_ok_iff _ _ _ _).1 h4, rfl,
      (setting_eq_ok_iff _ _ _ _).1 h5, rfl⟩
  · intro h
    obtain ⟨h1, h2, h3, h4, hs, h5, hb⟩ := h
    unfold envPatch
    rw [(setting_eq_ok_iff _ _ _ _).2 h1, (setting_eq_ok_iff _ _ _ _).2 h2,
      (setting_eq_ok_iff _ _ _ _).2 h3, (setting_eq_ok_iff _ _ _ _).2 h4,
      (setting_eq_ok_iff _ _ _ _).2 h5]
    obtain ⟨m, d, s, f, i, b, k⟩ := ep
    simp only at hs hb
    subst hs hb
    rfl

/-- The environment applies exactly when one of its variables is set. -/
theorem Environment.Gives.setsAny (h : Environment.Gives env ep) :
    ep.setsAny = [maxSizeVar, delayVar, sweepVar, finalizerVar, schemesVar, closePendingVar].any
      fun v => (env.get? v).isSome := by
  have hs : ep.identitySensitiveSchemes.isSome = (env.get? schemesVar).isSome := by
    rw [h.identitySensitiveSchemes, Option.isSome_map]
  simp only [ConfigPatch.setsAny, h.maxCacheSize.isSome_eq, h.deferredCloseDelayMs.isSome_eq,
    h.sweepIntervalMs.isSome_eq, h.finalizerWaitTimeoutMs.isSome_eq, hs,
    h.closePendingOnShutdown.isSome_eq, h.backend, List.any_cons, List.any_nil, Option.isSome_none,
    Bool.or_false, Bool.or_assoc]

/-! ## The file -/

theorem applyFile_of_gives {path : String} {file : FileState} {fp : ConfigPatch}
    (hf : file.Gives fp) (c : Config) :
    applyFile path file c = .ok (file.present, c.overlay fp false) := by
  cases file with
  | absent =>
    simp only [FileState.Gives] at hf
    subst hf
    rfl
  | directory => exact hf.elim
  | bytes content =>
    obtain ⟨hutf, hdoc⟩ := hf
    obtain ⟨text, htext⟩ := Option.isSome_iff_exists.1 hutf
    simp only [applyFile, htext, hdoc, FileState.present]

theorem gives_of_applyFile {path : String} {file : FileState} {c c' : Config} {b : Bool}
    (h : applyFile path file c = .ok (b, c')) : ∃ fp, file.Gives fp := by
  cases file with
  | absent => exact ⟨{}, rfl⟩
  | directory => cases h
  | bytes content =>
    simp only [applyFile] at h
    split at h
    · cases h
    · rename_i text htext
      split at h
      · rename_i fp hdoc
        exact ⟨fp, by simp [htext], hdoc⟩
      · cases h

/-! ## The layers together -/

/-- Laying the file's settings and then the environment's over the defaults makes the layered
configuration: the environment sets no backend properties, so those of the file stay. -/
theorem overlay_overlay (fp ep : ConfigPatch) (hb : ep.backend = none) :
    (({} : Config).overlay fp false).overlay ep false = layered fp ep := by
  unfold Config.overlay layered
  rw [hb]
  cases fp.backend <;> rfl

/-- When the file and the environment both read, loading checks the layered configuration and
reports the highest layer that applied. -/
theorem load_of_gives {path : String} {file : FileState} {env : Environment} {fp ep : ConfigPatch}
    (hf : file.Gives fp) (he : env.Gives ep) :
    load path file env = (do
      (layered fp ep).validate
      pure (if ep.setsAny then Source.environment
        else if file.present then .file else .defaults, layered fp ep)) := by
  unfold load applyEnv
  rw [applyFile_of_gives hf, (envPatch_eq_ok_iff env ep).2 he]
  simp only [bind, Except.bind, pure, Except.pure]
  rw [overlay_overlay fp ep he.backend]

theorem gives_of_load {path : String} {file : FileState} {env : Environment}
    {r : Source × Config} (h : load path file env = .ok r) :
    ∃ fp ep, file.Gives fp ∧ env.Gives ep := by
  unfold load at h
  obtain ⟨⟨b, c₁⟩, hf, h⟩ := bind_eq_ok h
  obtain ⟨fp, hfp⟩ := gives_of_applyFile hf
  -- the environment is read whatever the file gave
  obtain ⟨⟨b', c₂⟩, hp, -⟩ := bind_eq_ok h
  obtain ⟨ep, hep, -⟩ := bind_eq_ok hp
  exact ⟨fp, ep, hfp, (envPatch_eq_ok_iff env ep).1 hep⟩

/-- The checks of a configuration, in order: the first that fails gives the error. -/
theorem validate_eq_error_iff (c : Config) (e : Error) :
    c.validate = .error e ↔
      c.maxCacheSize = 0 ∧ e = .configuration "max_cache_size must be greater than 0" ∨
      c.maxCacheSize ≠ 0 ∧ c.sweepIntervalMs = 0 ∧
        e = .configuration "deferred_close_sweep_interval must be greater than 0" ∨
      c.maxCacheSize ≠ 0 ∧ c.sweepIntervalMs ≠ 0 ∧ c.finalizerWaitTimeoutMs = 0 ∧
        e = .configuration "finalizer_wait_timeout must be greater than 0" := by
  unfold Config.validate
  by_cases h1 : c.maxCacheSize = 0
  · simp [h1, eq_comm]
  · by_cases h2 : c.sweepIntervalMs = 0
    · simp [h1, h2, eq_comm]
    · by_cases h3 : c.finalizerWaitTimeoutMs = 0
      · simp [h1, h2, h3, eq_comm]
      · simp [h1, h2, h3]

/-- **Configuration precedence.** A configuration loads exactly when the file (if there is one)
holds a settings document, every `FSPOOL_*` variable that is set reads, and the layered
configuration passes its checks. Each setting of the loaded configuration is then the one its
variable gives (trimmed, lowercased and parsed; the schemes split at commas), else the file's,
else the default; the backend properties are the file's or the default. The source reported is
the environment when one of the variables is set, else the file when there is one, else the
defaults. So an unparsable variable, a file that cannot be read, or a failed check gives no
configuration: when both layers read, the error is that of the first failed check, in the order
maximum size, sweep interval, finalizer timeout. -/
theorem config_load_precedence (path : String) (file : FileState) (env : Environment) :
    (∀ (src : Source) (c : Config), load path file env = .ok (src, c) ↔
      ∃ fp ep, file.Gives fp ∧ env.Gives ep ∧ c = layered fp ep ∧ c.validate = .ok () ∧
        src = if [maxSizeVar, delayVar, sweepVar, finalizerVar, schemesVar, closePendingVar].any
            (fun v => (env.get? v).isSome) then .environment
          else if file.present then .file else .defaults) ∧
    (∀ fp ep, file.Gives fp → env.Gives ep →
      ∀ e, load path file env = .error e ↔ (layered fp ep).validate = .error e) ∧
    (∀ (c : Config) (e : Error), c.validate = .error e ↔
      c.maxCacheSize = 0 ∧ e = .configuration "max_cache_size must be greater than 0" ∨
      c.maxCacheSize ≠ 0 ∧ c.sweepIntervalMs = 0 ∧
        e = .configuration "deferred_close_sweep_interval must be greater than 0" ∨
      c.maxCacheSize ≠ 0 ∧ c.sweepIntervalMs ≠ 0 ∧ c.finalizerWaitTimeoutMs = 0 ∧
        e = .configuration "finalizer_wait_timeout must be greater than 0") := by
  -- the source the loader reports, in the terms of the statement
  have hsource : ∀ {ep : ConfigPatch}, env.Gives ep →
      (if ep.setsAny then Source.environment else if file.present then .file else .defaults) =
      if [maxSizeVar, delayVar, sweepVar, finalizerVar, schemesVar, closePendingVar].any
          (fun v => (env.get? v).isSome) then .environment
        else if file.present then .file else .defaults := by
    intro ep he
    rw [he.setsAny]
  refine ⟨fun src c => ⟨fun h => ?_, ?_⟩, ?_, validate_eq_error_iff⟩
  · obtain ⟨fp, ep, hf, he⟩ := gives_of_load h
    rw [load_of_gives hf he] at h
    obtain ⟨u, hv, h⟩ := bind_eq_ok h
    cases h
    exact ⟨fp, ep, hf, he, rfl, hv, hsource he⟩
  · rintro ⟨fp, ep, hf, he, rfl, hv, rfl⟩
    rw [load_of_gives hf he, hv, hsource he]
    rfl
  · intro fp ep hf he e
    rw [load_of_gives hf he]
    cases (layered fp ep).validate with
    | error e' => simp only [bind, Except.bind, Except.error.injEq]
    | ok u =>
      -- both sides are false: the configuration passes its checks and loads
      constructor <;> intro h <;> simp [bind, Except.bind, pure, Except.pure] at h

/-- A file of UTF-8 text gives the settings its document holds; the reading is stated as an
option, which can be evaluated. -/
theorem FileState.gives_bytes {content : List UInt8} {fp : ConfigPatch}
    (hutf : (String.fromUTF8? (ByteArray.mk content.toArray)).isSome = true)
    (hdoc : (readDocument content).toOption = some fp) : (FileState.bytes content).Gives fp := by
  refine ⟨hutf, ?_⟩
  revert hdoc
  cases readDocument content with
  | error e => intro h; cases h
  | ok p => intro h; cases h; rfl

/-- A file that sets the maximum size and the identity-sensitive schemes, under variables that set
both again: the configuration loads, reports the environment, and takes both settings from the
variables, the number read trimmed, not from the file. -/
theorem config_load_precedence_variable_over_file :
    let file := FileState.bytes ("\x7b\"cache\": \x7b\"max_cache_size\": 5, " ++
      "\"identity_sensitive_schemes\": [\"hdfs\"]\x7d\x7d").toUTF8.toList
    let env : Environment :=
      ⟨[(maxSizeVar, " 7 ".toUTF8.toList), (schemesVar, " s3, ".toUTF8.toList)]⟩
    ∃ fp ep, file.Gives fp ∧ env.Gives ep ∧
      fp.maxCacheSize = some 5 ∧ fp.identitySensitiveSchemes = some ["hdfs"] ∧
      load "config.json" file env = .ok (.environment, layered fp ep) ∧
      (layered fp ep).maxCacheSize = 7 ∧
      (layered fp ep).identitySensitiveSchemes = schemeList " s3, " := by
  intro file env
  have hf : file.Gives { maxCacheSize := some 5, identitySensitiveSchemes := some ["hdfs"] } :=
    FileState.gives_bytes (by decide +kernel) (by decide +kernel)
  -- the two variables are set, to UTF-8 text
  have hsize : env.get? maxSizeVar = some " 7 " := by decide +kernel
  have hschemes : env.get? schemesVar = some " s3, " := by decide +kernel
  have htext : Text.toLower (Text.trimBlank " 7 ") = "7" := by decide +kernel
  have he : env.Gives { maxCacheSize := some 7, identitySensitiveSchemes := some (schemeList " s3, ") } :=
    ⟨⟨" 7 ", hsize, by rw [htext]; rfl⟩, rfl, rfl, rfl, by rw [hschemes]; rfl, rfl, rfl⟩
  exact ⟨_, _, hf, he, rfl, rfl,
    ((config_load_precedence "config.json" file env).1 _ _).2
      ⟨_, _, hf, he, rfl, rfl, (if_pos (by decide +kernel)).symm⟩, rfl, rfl⟩

end HandlePool.Config
