import FeatureLayout.Text.Order

/-!
# Violations

A violation is one finding of a migration: a code that says what kind of finding it is, a message,
and the paths it is about. Findings of some kinds are fatal and keep a run from writing anything;
the others are reported.

`sorted` lists violations by code, then paths, then message, so that a report does not depend on the
order in which they were found.
-/

namespace FeatureLayout

open Text

/-- The kinds of findings. -/
inductive ViolationCode where
  /-- A finding without a kind of its own. -/
  | general
  | parse
  | deadCode
  | outOfScopeCall
  | unreferencedShared
  | planConflict
  | crossFeatureImport
  | boundary
  | missingEntryPoint
  | unmappedCall
  | contractConflict
  | contractShape
  | residualPersistence
  | missingPage
  deriving DecidableEq, Repr, Inhabited

namespace ViolationCode

/-- All kinds of findings. -/
def all : List ViolationCode :=
  [general, parse, deadCode, outOfScopeCall, unreferencedShared, planConflict, crossFeatureImport,
    boundary, missingEntryPoint, unmappedCall, contractConflict, contractShape, residualPersistence,
    missingPage]

/-- The written name of a kind of findings. -/
def text : ViolationCode → String
  | general => "MigrationError"
  | parse => "ParseError"
  | deadCode => "DeadCodeWarning"
  | outOfScopeCall => "OutOfScopePersistenceCall"
  | unreferencedShared => "UnreferencedShared"
  | planConflict => "PlanConflict"
  | crossFeatureImport => "CrossFeatureImportError"
  | boundary => "BoundaryViolation"
  | missingEntryPoint => "MissingEntryPoint"
  | unmappedCall => "UnmappedPersistenceCall"
  | contractConflict => "ContractConflict"
  | contractShape => "ContractShapeMismatch"
  | residualPersistence => "ResidualPersistence"
  | missingPage => "MissingPage"

/-- The kind with a written name. -/
def ofText? (name : String) : Option ViolationCode := all.find? (·.text == name)

theorem ofText?_text (code : ViolationCode) : ofText? code.text = some code := by
  cases code <;> decide

/-- Whether a finding of a kind keeps a run from writing anything. -/
def isFatal : ViolationCode → Bool
  | parse | deadCode | outOfScopeCall | unreferencedShared => false
  | _ => true

end ViolationCode

/-- A finding of a migration. -/
structure Violation where
  code : ViolationCode
  message : String
  paths : List String
  deriving DecidableEq, Repr, Inhabited

namespace Violation

/-- Whether a finding keeps a run from writing anything. -/
def isFatal (violation : Violation) : Bool := violation.code.isFatal

/-- The order of violations: by code, then paths, then message. -/
def atMost (first second : Violation) : Bool :=
  if first.code ≠ second.code then Text.atMost first.code.text second.code.text
  else if first.paths ≠ second.paths then listAtMost first.paths second.paths
  else Text.atMost first.message second.message

/-- Violations in order. -/
def ordered (violations : List Violation) : List Violation := violations.mergeSort atMost

end Violation

end FeatureLayout
