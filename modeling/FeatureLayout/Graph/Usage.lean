import FeatureLayout.Graph.Basic

/-!
# The usage graph of an index

All files are added first, with the symbols they define. Then every resolved import adds an edge to
its target and the uses of the imported symbols: one named symbol, or for a whole module all of its
symbols. Imports into excluded folders are recorded apart.
-/

namespace FeatureLayout

namespace UsageGraph

/-- Adds a file and its symbols. -/
def addSource (graph : UsageGraph) (file : SourceFile) : UsageGraph :=
  file.exports.foldl define (graph.addFile file.path)

/-- The symbols of a file that an imported name stands for. -/
def usedSymbols (file : SourceFile) (name : String) : List String :=
  if name = "*" then file.exports.map (·.qualified)
  else if file.exportedNames.contains name then [file.path ++ "#" ++ name]
  else []

/-- Adds an import. -/
def addImport (index : SourceIndex) (graph : UsageGraph) (ref : ImportRef) : UsageGraph :=
  match ref.target with
  | none => graph
  | some target =>
    if index.excluded.contains target then graph.addBoundary ref
    else
      match index.file? target with
      | none => graph
      | some file =>
        (usedSymbols file ref.name).foldl (fun graph symbol => graph.use symbol ref.source)
          (graph.addEdge ref.source target)

/-- The usage graph of an index. -/
def ofIndex (index : SourceIndex) : UsageGraph :=
  let files := index.files.values
  (files.flatMap (·.imports)).foldl (addImport index) (files.foldl addSource empty)

end UsageGraph

end FeatureLayout
