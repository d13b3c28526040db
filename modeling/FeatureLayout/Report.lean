import FeatureLayout.Json
import FeatureLayout.Layout

/-!
# Reports

A report tells what a run did: its status, the planned moves, the files that nobody reaches, the
groups of files that import each other, what became of storage calls, and all findings. As a
document it depends on what was collected only, and not on the order in which it was.
-/

namespace FeatureLayout

open Text

/-- How a run ended. -/
inductive RunStatus where
  | success
  | failed
  deriving DecidableEq, Repr, Inhabited

/-- The written name of a status. -/
def RunStatus.text : RunStatus → String
  | success => "SUCCESS"
  | failed => "FAILED"

mutual

/-- A value as it stands in documents; a moment stands as its text. -/
def Json.ofValue : Value → Json
  | .null => .null
  | .flag set => .flag set
  | .integer whole => .number whole
  | .decimal value => .decimal value
  | .text content => .text content
  | .moment given => .text given.display
  | .list items => .array (Json.ofValues items)
  | .table settings => .object (Json.ofSettings settings)

/-- The items of a list as they stand in documents. -/
def Json.ofValues : List Value → List Json
  | [] => []
  | item :: rest => Json.ofValue item :: Json.ofValues rest

/-- The settings of a table as they stand in documents. -/
def Json.ofSettings : List (String × Value) → List (String × Json)
  | [] => []
  | (key, value) :: rest => (key, Json.ofValue value) :: Json.ofSettings rest

end

/-- A finding as a document. -/
def Violation.toJson (violation : Violation) : Json :=
  .object [
    ("code", .text violation.code.text),
    ("message", .text violation.message),
    ("fatal", .flag violation.isFatal),
    ("paths", .texts violation.paths)]

/-- A planned move as a document. -/
def Move.toJson (move : Move) : Json :=
  .object [
    ("source", .text move.source),
    ("destination", .text move.destination),
    ("classification", .text move.owner.text),
    ("kind", .text move.kind.text)]

/-- What a report tells about a storage call: where it stands, and more. -/
structure CallRecord where
  file : String
  line : Int
  details : List (String × Value)
  deriving Repr, Inhabited

namespace CallRecord

/-- The record of a call. -/
def ofCall (call : StorageCall) (more : List (String × Value)) : CallRecord :=
  { file := call.file
    line := call.line
    details := ("operation", .text call.operation.text) :: ("resource", call.resource) :: more }

/-- The record of a call that was replaced. -/
def ofSubstituted (call : StorageCall) (entry : ContractEntry) : CallRecord :=
  ofCall call [("entry", entry.name), ("signature", .text entry.signature)]

/-- A record as a document. -/
def toJson (record : CallRecord) : Json :=
  .object (("file", .text record.file) :: ("line", .number record.line) ::
    record.details.map fun detail => (detail.1, Json.ofValue detail.2))

/-- Whether a record tells a moment, which documents have no form for. -/
def tellsMoment (record : CallRecord) : Bool := record.details.any (·.2.holdsMoment)

/-- The order of records: by file, then by line. -/
def atMost (first second : CallRecord) : Bool :=
  if first.file = second.file then first.line ≤ second.line else Text.atMost first.file second.file

/-- Records in order. -/
def ordered (records : List CallRecord) : List CallRecord := records.mergeSort atMost

end CallRecord

/-- What a run did. -/
structure Report where
  status : RunStatus
  dryRun : Bool
  moves : List Move
  unreached : List String
  cycles : List (List String)
  substituted : List CallRecord
  flagged : List CallRecord
  violations : List Violation

namespace Report

/-- Whether a report can be written as a document. -/
def isWritable (report : Report) : Bool :=
  !(report.substituted ++ report.flagged).any CallRecord.tellsMoment

/-- The findings that keep a run from writing anything. -/
def fatal (report : Report) : List Violation := report.violations.filter Violation.isFatal

/-- The other findings. -/
def warnings (report : Report) : List Violation := report.violations.filter (!·.isFatal)

/-- The moved files of each owner, both sorted. -/
def filesByOwner (report : Report) : List (String × List String) :=
  (sortedDistinct (report.moves.map (·.owner.text))).map fun owner =>
    (owner, sorted ((report.moves.filter (·.owner.text == owner)).map (·.source)))

/-- A report as a document. -/
def toJson (report : Report) : Json :=
  .object [
    ("status", .text report.status.text),
    ("dry_run", .flag report.dryRun),
    ("files", .array ((sortedBy (·.source) report.moves).map Move.toJson)),
    ("by_owner", .object (report.filesByOwner.map fun group => (group.1, .texts group.2))),
    ("unreached", .texts (sorted report.unreached)),
    ("cycles", .array (((report.cycles.map sorted).mergeSort listAtMost).map Json.texts)),
    ("substituted", .array ((CallRecord.ordered report.substituted).map CallRecord.toJson)),
    ("flagged", .array ((CallRecord.ordered report.flagged).map CallRecord.toJson)),
    ("warnings", .array ((Violation.ordered report.warnings).map Violation.toJson)),
    ("violations", .array ((Violation.ordered report.fatal).map Violation.toJson))]

/-- A report in one line. -/
def summary (report : Report) : String :=
  "MigrationReport(status=" ++ report.status.text ++ ", files=" ++ toString report.moves.length ++
    ", substituted=" ++ toString report.substituted.length ++ ", warnings=" ++
    toString report.warnings.length ++ ", fatal=" ++ toString report.fatal.length ++ ")"

end Report

end FeatureLayout
