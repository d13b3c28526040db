import FeatureLayout.Graph.Chain
import FeatureLayout.Graph.Components
import FeatureLayout.Json

/-!
# Classification

Every file belongs to one feature, is shared, or is reached by nobody. A file reached from the entry
points of exactly one feature belongs to that feature, and one reached by several features is
shared. A file that no feature reaches is shared when it is retained, or when a retained file
reaches it; otherwise it is dead code.

`Classification.explain` gives the reasons for one file: the features that reach it, with a shortest
chain of imports for each, and the files that use its symbols.
-/

namespace FeatureLayout

open Text

/-- Who owns a file. -/
inductive Owner where
  | feature (name : String)
  | shared
  deriving DecidableEq, Repr, Inhabited

namespace Owner

/-- The written form of an owner. -/
def text : Owner → String
  | feature name => name
  | shared => "SHARED"

/-- The owner with a written form. -/
def ofText (name : String) : Owner := if name = shared.text then shared else feature name

/-- The feature that owns a file alone. -/
def feature? : Owner → Option String
  | feature name => some name
  | shared => none

/-- The owner of a file that some features reach. -/
def ofReaching : List String → Option Owner
  | [] => none
  | [name] => some (ofText name)
  | _ => some shared

end Owner

/-- Who owns which file, and why. -/
structure Classification where
  /-- The owned files, sorted by path. -/
  owners : Ledger String Owner
  /-- The features that reach each file, in the order of the scope. -/
  reaching : Ledger String (List String)
  /-- The files without owner, sorted. -/
  unreached : List String
  /-- The files that are shared although no feature reaches them. -/
  retained : List String
  /-- The groups of files that import each other. -/
  cycles : List (List String)
  errors : List Diagnostic

namespace Classification

/-- The owner of a file. -/
def owner? (classification : Classification) (path : String) : Option Owner :=
  classification.owners.find? path

/-- The feature that owns a file alone. -/
def featureOf (classification : Classification) (path : String) : Option String :=
  (classification.owner? path).bind Owner.feature?

/-- The files of an owner. -/
def filesOf (classification : Classification) (owner : Owner) : List String :=
  (classification.owners.entries.filter (·.2 = owner)).map (·.1)

/-- The features that reach a file. -/
def reachingOf (classification : Classification) (path : String) : List String :=
  (classification.reaching.find? path).getD []

/-- The entry points that are not in the graph. -/
def missingEntryPoints (scope : Scope) (graph : UsageGraph) : List Diagnostic :=
  scope.features.flatMap fun feature =>
    (feature.entryPoints.filter fun entry => !graph.contains entry).map fun entry =>
      .missingEntryPoint entry feature.name

/-- The nodes that each feature reaches from its entry points, as far as these are in the graph. -/
def reachedNodes (scope : Scope) (condensation : Condensation) : List (String × List Nat) :=
  scope.features.map fun feature =>
    (feature.name, condensation.reach (feature.entryPoints.filterMap condensation.node?))

/-- The features that reach a node, each once. -/
def featuresOfNode (reached : List (String × List Nat)) (node : Nat) : List String :=
  ((reached.filter fun entry => entry.2.contains node).map (·.1)).eraseDups

/-- The entries of a table that gives every member of a group the value of the group. -/
def spread (members : List (List String)) (value : Nat → List String) :
    List (String × List String) :=
  members.zipIdx.flatMap fun entry => entry.1.map fun path => (path, value entry.2)

/-- The features that reach each file of the graph: those that reach the node of the file. -/
def reachingIn (scope : Scope) (graph : UsageGraph) : Ledger String (List String) :=
  let condensation := Condensation.ofGraph graph
  let reached := reachedNodes scope condensation
  Ledger.ofList (spread condensation.members (featuresOfNode reached))

/-- The files that are shared although no feature reaches them. -/
def retainedIn (scope : Scope) (graph : UsageGraph) (reaching : Ledger String (List String)) :
    List String :=
  let isReached (path : String) := !(reaching.next path).isEmpty
  let roots := graph.files.filter fun path => !isReached path && scope.isRetained path
  (graph.reach roots).filter fun path => !isReached path

/-- The owner of a file, given the features that reach the files and the files that are kept. -/
def ownerIn (reaching : Ledger String (List String)) (retained : List String) (path : String) :
    Option Owner :=
  if retained.contains path then some .shared else Owner.ofReaching (reaching.next path)

/-- The imports of owned files into excluded folders. -/
def boundaryErrors (graph : UsageGraph) (owned : List String) : List Diagnostic :=
  owned.flatMap fun path =>
    (graph.boundaryRefs path).map fun ref => .boundary path ref.specifier ref.line ref.target

/-- Classifies every file of a graph. -/
def ofGraph (scope : Scope) (graph : UsageGraph) : Classification :=
  let reaching := reachingIn scope graph
  let retained := retainedIn scope graph reaching
  let owner := ownerIn reaching retained
  let owners :=
    (sorted graph.files).filterMap fun path => (owner path).map fun owner => (path, owner)
  let unreached := sorted (graph.files.filter fun path => (owner path).isNone)
  { owners := Ledger.ofList owners
    reaching := reaching
    unreached := unreached
    retained := retained
    cycles := (Condensation.ofGraph graph).cycles
    errors := missingEntryPoints scope graph ++ unreached.map .unreached ++
      boundaryErrors graph (owners.map Prod.fst) }

/-- Classifies every file of a graph, unless it cannot be told whether a file that no feature
reaches is kept. -/
def decided (scope : Scope) (graph : UsageGraph) : Except SettingProblem Classification :=
  let classification := ofGraph scope graph
  let unreached := graph.files.filter fun path => (classification.reachingOf path).isEmpty
  match unreached.findSome? scope.retainProblem? with
  | some problem => .error problem
  | none => .ok classification

end Classification

/-- Why a file is classified the way it is. -/
structure Explanation where
  file : String
  owner : Option Owner
  /-- The features that reach the file, sorted. -/
  reaching : List String
  retained : Bool
  /-- For each of these features a chain of imports from an entry point to the file. -/
  chains : List (String × List String)
  /-- The files that use each symbol of the file. -/
  usedBy : List (String × List String)
  deriving DecidableEq, Repr

namespace Explanation

/-- The written form of the owner of a file that may have none. -/
def ownerText : Option Owner → String
  | some owner => owner.text
  | none => "UNREACHED"

/-- An explanation as a document. -/
def toJson (explanation : Explanation) : Json :=
  let lists (entries : List (String × List String)) : Json :=
    .object (entries.map fun entry => (entry.1, .texts entry.2))
  .object [
    ("file", .text explanation.file),
    ("classification", .text (ownerText explanation.owner)),
    ("reaching", .texts explanation.reaching),
    ("retained", .flag explanation.retained),
    ("chains", lists explanation.chains),
    ("used_by", lists explanation.usedBy)]

end Explanation

namespace Classification

/-- For each feature that reaches a file, the chain from the first entry point that has one. -/
def chainsTo (scope : Scope) (graph : UsageGraph) (reaching : List String) (path : String) :
    List (String × List String) :=
  (scope.features.filter (reaching.contains ·.name)).filterMap fun feature =>
    (feature.entryPoints.findSome? fun entry => graph.shortestChain? entry path).map
      fun chain => (feature.name, chain)

/-- The reasons for the classification of a file. -/
def explain (classification : Classification) (scope : Scope) (graph : UsageGraph)
    (path : String) : Explanation :=
  let reaching := classification.reachingOf path
  { file := path
    owner := classification.owner? path
    reaching := sorted reaching
    retained := classification.retained.contains path
    chains := chainsTo scope graph reaching path
    usedBy := (graph.symbolsOf path).map fun symbol =>
      (symbol.name, graph.usersOf symbol.qualified) }

end Classification

end FeatureLayout
