import FeatureLayout.Path
import FeatureLayout.Scope.Value
import FeatureLayout.Text.Order

/-!
# Refused configurations

A configuration is refused for a reason that can be told to its author, or because a setting holds a
value that cannot be used at all. A request is refused for the same kind of reason when it names a
destination or a file that does not fit its scope.
-/

namespace FeatureLayout

open Text

/-- Why a destination is refused. -/
inductive DestinationProblem where
  /-- It is the source root or lies inside of it. -/
  | insideRoot
  /-- The source root lies inside of it. -/
  | containsRoot
  /-- The configuration file lies inside of it. -/
  | containsConfig (config : Location)
  /-- It is a file. -/
  | notFolder
  /-- It holds files and does not come from an earlier run. -/
  | foreign
  deriving DecidableEq, Repr

/-- Why a configuration or a request is refused. -/
inductive ConfigProblem where
  | noFeatures
  | badFeatureName (name : String)
  | noEntryPoints (feature : String)
  | excludedEntryPoint (entry feature : String)
  /-- Two features list one resource. -/
  | sharedResource (resource : Value) (owner feature : String)
  | unknownBucketKind (name : String)
  | tooFewJobs
  | unknownOperation (value : Value)
  | missingField (field : String) (entry : Value)
  | unknownFeatures (names : List String)
  | noConfigFile (path : String)
  /-- The configuration file is not well formed. -/
  | malformed (path detail : String)
  | notIndexed (path : String) (root : Location)
  | destination (destination root : Location) (problem : DestinationProblem)
  deriving Repr

/-- The wording of a refusal. -/
def ConfigProblem.message : ConfigProblem → String
  | noFeatures => "At least one feature must be configured"
  | badFeatureName name => "Invalid feature name: " ++ quoted name
  | noEntryPoints feature => "Feature " ++ quoted feature ++ " has no entry points"
  | excludedEntryPoint entry feature =>
    "Entry point " ++ entry ++ " of " ++ quoted feature ++ " is in an excluded folder"
  | sharedResource resource owner feature =>
    "Resource " ++ resource.shown ++ " owned by both " ++ quoted owner ++ " and " ++ quoted feature
  | unknownBucketKind name => "Unknown kind in kind_buckets: " ++ quoted name
  | tooFewJobs => "jobs must be at least 1"
  | unknownOperation value => "Unknown persistence operation: " ++ value.shown
  | missingField field entry =>
    "Contract entry missing field " ++ quoted field ++ ": " ++ entry.shown
  | unknownFeatures names => "Unknown features: " ++ joinWith ", " names
  | noConfigFile path => "Config file not found: " ++ path
  | malformed path detail => "Invalid TOML in " ++ path ++ ": " ++ detail
  | notIndexed path root => path ++ " is not an indexed file under " ++ root.text
  | destination place root problem =>
    "Destination " ++ place.text ++
      match problem with
      | .insideRoot => " is inside the source root " ++ root.text
      | .containsRoot => " contains the source root " ++ root.text
      | .containsConfig config => " contains the config file " ++ config.text
      | .notFolder => " exists and is not a directory"
      | .foreign => " is not empty and was not written by featureslice"

/-- How a setting's value cannot be used. -/
inductive SettingProblem where
  /-- The value is of a kind that cannot be used in this place. -/
  | wrongKind
  /-- The value has none of the parts that are asked for. -/
  | noParts
  /-- The value does not stand for a number. -/
  | notNumber
  /-- The value is an infinite number. -/
  | endless
  /-- The value is a path that no disk has. -/
  | brokenPath
  deriving DecidableEq, Repr

/-- Why no scope can be made of a configuration. -/
inductive ScopeProblem where
  | refused (problem : ConfigProblem)
  | unusable (problem : SettingProblem)
  deriving Repr

end FeatureLayout
