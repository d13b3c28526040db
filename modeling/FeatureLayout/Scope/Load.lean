import FeatureLayout.Disk.Basic
import FeatureLayout.Scope.Config
import FeatureLayout.Toml.Reader

/-!
# Loading a scope

A scope is read from a configuration file in TOML. Paths in it start at the folder of the file.
-/

namespace FeatureLayout.Scope

open FileSystem

variable {m : Type → Type} [Monad m] [MonadExceptOf Fault m] [FileSystem m]

/-- The configuration in a file, which messages call `shown`. -/
def readConfig (folder : Location) (path shown : String) : m Value := do
  if Path.isBroken path then throw (.setting .brokenPath)
  let document ←
    try readText (← walk folder path)
    catch problem =>
      match problem with
      | .disk .missing => throw (.config (.noConfigFile shown))
      | problem => throw problem
  match Toml.parse document with
  | .ok config => return config
  | .error problem => throw (.config (.malformed shown problem.message))

/-- The scope of a configuration file at a path that starts at a folder. -/
def load (folder : Location) (path shown : String) : m Scope := do
  let config ← readConfig folder path shown
  let place := folder.follow path
  match ofValue place.dropLast config with
  | .ok scope => return { scope with configFile := some place }
  | .error problem => throw (Fault.ofScope problem)

end FeatureLayout.Scope
