import FeatureLayout.Migration
import FeatureLayout.Scope.Load

/-!
# Tools for assistants

Two tools give assistants the plan of a source tree and the reasons for one file; neither writes
anything. A tool answers with a document, and when it is called wrongly or its configuration is
refused, with a document that holds the error.
-/

namespace FeatureLayout

/-- A tool: its name, what it does, and the arguments it takes. -/
structure Tool where
  name : String
  description : String
  /-- The arguments with their descriptions; all of them should be texts. -/
  arguments : List (String × String)
  required : List String

namespace Tool

/-- The argument that names the configuration. -/
def configArgument : String × String :=
  ("config", "Path to the migration config (TOML), relative to the working directory")

/-- The tool that plans. -/
def plan : Tool :=
  { name := "featureslice_plan"
    description :=
      "Dry-run the feature classification of a source tree. Returns, for every file, its owning " ++
      "feature (or SHARED) and its planned destination, plus unreached files, cycles and any " ++
      "plan violations. Writes nothing."
    arguments :=
      [configArgument, ("feature", "Only list files owned by this feature or SHARED")]
    required := ["config"] }

/-- The tool that explains. -/
def explain : Tool :=
  { name := "featureslice_explain"
    description :=
      "Explain why a file is owned by a feature, SHARED, or unreached: the set of features " ++
      "reaching it and one import chain from each entry point."
    arguments :=
      [configArgument, ("file", "Source path relative to the configured source root")]
    required := ["config", "file"] }

/-- All tools. -/
def all : List Tool := [plan, explain]

/-- The description of a tool's arguments. -/
def schema (tool : Tool) : Json :=
  let argument (entry : String × String) : String × Json :=
    (entry.1, .object [("type", .text "string"), ("description", .text entry.2)])
  .object [
    ("type", .text "object"),
    ("properties", .object (tool.arguments.map argument)),
    ("required", .texts tool.required)]

/-- A tool as a document. -/
def toJson (tool : Tool) : Json :=
  .object [
    ("name", .text tool.name),
    ("description", .text tool.description),
    ("inputSchema", tool.schema)]

end Tool

namespace ToolServer

/-- The document of an error. -/
def errorJson (message : String) : Json := .object [("error", .text message)]

/-- The plan of an analysis, for one feature and what is shared, or for all. -/
def planJson (analysis : Analysis) (feature : Value) : Json :=
  let shown (owner : Owner) : Bool :=
    !feature.isGiven || feature.text? == some owner.text || owner == .shared
  .object (analysis.planMembers shown ++
    [("violations", analysis.violationsJson Violation.isFatal)])

variable {m : Type → Type} [Monad m] [MonadExceptOf Fault m] [FileSystem m]

/-- Loads the scope of a configuration at a path that starts at a folder. -/
def load (folder : Location) (config : Value) : m Scope :=
  match config with
  | .text path => Scope.load folder path (Path.clean (Path.join folder.text path))
  | _ => throw (.setting .wrongKind)

/-- Runs the tool that plans. -/
def runPlan (folder : Location) (config feature : Value) : m Json := do
  return planJson (← Migration.analyze (← load folder config)) feature

/-- The reasons for one file. What is no text is no file either, and what has no key cannot be
looked for. -/
def explainJson (analysis : Analysis) (scope : Scope) (file : Value) : Except Fault Json :=
  match file with
  | .text path => (analysis.explain scope path).map Explanation.toJson
  | file =>
    if file.key?.isNone then .error (.setting .wrongKind)
    else .error (.config (.notIndexed file.display scope.root))

/-- Runs the tool that explains. -/
def runExplain (folder : Location) (config file : Value) : m Json := do
  let scope ← load folder config
  Migration.orThrow (explainJson (← Migration.analyze scope) scope file)

/-- The answer to a call, or the fault that ended it. -/
def answerOf (actions : m Json) : m String := do
  try return (← actions).pretty
  catch problem =>
    match problem with
    | .config refused => return (errorJson refused.message).line
    | .diagnostic found => return (errorJson found.message).line
    | problem => throw problem

/-- Answers an argument that is missing. -/
def missing (name : String) : String :=
  (errorJson ("Missing argument " ++ Text.quoted name)).line

/-- Answers a call of a tool in a folder. -/
def call (folder : Location) (tool : String) (arguments : List (String × Value)) : m String :=
  let argument := Value.setting? arguments
  if tool = Tool.plan.name then
    match argument "config" with
    | none => return missing "config"
    | some config => answerOf (runPlan folder config ((argument "feature").getD .null))
  else if tool = Tool.explain.name then
    match argument "config", argument "file" with
    | none, _ => return missing "config"
    | _, none => return missing "file"
    | some config, some file => answerOf (runExplain folder config file)
  else return (errorJson ("Unknown tool: " ++ tool)).pretty

end ToolServer

end FeatureLayout
