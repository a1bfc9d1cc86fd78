import HandlePool.Config.File
import HandlePool.Config.Env
/-!
# Loading a configuration

Defaults, then the file, then the environment, each laid over the one before; the result is
validated last. The source reported is the highest layer that applied.
-/

namespace HandlePool.Config

/-- The highest layer that contributed to a configuration. -/
inductive Source where
  | defaults
  | file
  | environment
  deriving DecidableEq, Repr

/-- Loads the configuration from the file at `path` and the environment. -/
def load (path : String) (file : FileState) (env : Environment) : Except Error (Source × Config) := do
  let (fromFile, c) ← applyFile path file {}
  let (fromEnv, c) ← applyEnv env c
  c.validate
  let source := if fromEnv then Source.environment else if fromFile then .file else .defaults
  pure (source, c)

end HandlePool.Config
