import FeatureLayout.Console.Markup
import FeatureLayout.Diagnostic
import FeatureLayout.Scope.Problem
import FeatureLayout.Template.Basic

/-!
# Faults

A fault ends a run. Refused configurations are faults, and so are failed disk operations; the others
come from configurations and texts that no pass is prepared for.
-/

namespace FeatureLayout

open Text

/-- Why a disk operation fails. -/
inductive DiskProblem where
  /-- Nothing exists at the place. -/
  | missing
  /-- Something else exists at the place already. -/
  | occupied
  /-- A folder is expected, and there is a file. -/
  | notFolder
  /-- A file is expected, and there is a folder. -/
  | isFolder
  /-- The bytes of a file are not the encoding of a text. -/
  | notText
  /-- The device refuses. -/
  | refused
  deriving DecidableEq, Repr

/-- Why a run ends. -/
inductive Fault where
  | config (problem : ConfigProblem)
  | setting (problem : SettingProblem)
  | diagnostic (diagnostic : Diagnostic)
  | template (problem : TemplateProblem)
  /-- A call was found of a function that the storage interface does not have. -/
  | unknownFunction
  | disk (problem : DiskProblem)
  /-- A text that is printed cannot be shown. -/
  | markup (problem : MarkupProblem)
  deriving Repr

namespace Fault

/-- The wording of a fault. -/
def message : Fault → String
  | .config problem => problem.message
  | .diagnostic found => found.message
  | .setting _ => "a setting holds a value that cannot be used"
  | .template _ => "a call template cannot be filled"
  | .unknownFunction => "a call matches no function of the storage interface"
  | .disk .missing => "a file does not exist"
  | .disk .occupied => "something stands in the way of a file or folder"
  | .disk .notFolder => "a file stands where a folder is expected"
  | .disk .isFolder => "a folder stands where a file is expected"
  | .disk .notText => "a file is not encoded in UTF-8"
  | .disk .refused => "the disk refuses an operation"
  | .markup .notOpen => "a printed text closes a style that is not open"
  | .markup .badParameters => "a printed text has a handler whose parameters are no literal"
  | .markup .noNumber => "a printed text has a colour without a number"

/-- The fault of a text that cannot be scanned. -/
def ofScan (path : String) (problem : Code.ScanProblem) : Fault :=
  .diagnostic (.unscannable path problem)

/-- The fault of a text whose storage calls cannot be listed. A scan of arguments does not know the
path of its text. -/
def ofSearch (path : String) : SearchProblem → Fault
  | .unscannable problem => ofScan path problem
  | .openArgument => ofScan "<text>" .openTemplate
  | .unknownFunction => .unknownFunction

/-- The fault of a configuration. -/
def ofScope : ScopeProblem → Fault
  | .refused problem => .config problem
  | .unusable problem => .setting problem

end Fault

end FeatureLayout
