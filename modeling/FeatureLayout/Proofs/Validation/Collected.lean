import FeatureLayout.Proofs.Validation.Residues

/-!
# Which texts a validation can process

A staged text whose comments cannot be blanked is collected while the imports are read, and the
checks go on with the other texts. The search for storage objects collects nothing: it scans the
features' files again, their literals and the arguments of their calls too, and the first text that
it cannot process ends the validation. A validation answers exactly when there is no such text, and
then its result is that of the other texts with the collected findings in front.
-/

namespace FeatureLayout

open Text Code

namespace Validation

section Reading

/-- What is collected of a staged text: that it cannot be scanned, if that is so. -/
def unread? (entry : String × String) : Option Diagnostic :=
  match maskComments entry.2.toList with
  | .error problem => some (.unscannable entry.1 problem)
  | .ok _ => none

/-- What is collected of the staged texts, by source. -/
def unread (staged : Ledger String String) : List Diagnostic :=
  (sortedBy Prod.fst staged.entries).filterMap unread?

/-- The staged texts whose comments can be blanked. -/
def readable (staged : Ledger String String) : Ledger String String :=
  staged.filter fun entry => (unread? entry).isNone

variable {staged : Ledger String String}

/-- What is collected names the texts whose comments cannot be blanked. -/
theorem mem_unread_iff {problem : Diagnostic} :
    problem ∈ unread staged ↔ ∃ source content trouble, staged.find? source = some content ∧
      maskComments content.toList = .error trouble ∧ problem = .unscannable source trouble := by
  simp only [unread, List.mem_filterMap, (sortedBy_perm _ _).mem_iff, Prod.exists,
    ← Ledger.find?_eq_some_iff, unread?]
  refine exists_congr fun source => exists_congr fun content => ?_
  cases maskComments content.toList with
  | ok masked => simp
  | error trouble => simp [eq_comm]

/-- The readable texts are those whose comments can be blanked. -/
theorem find?_readable_iff {source content : String} :
    (readable staged).find? source = some content ↔
      staged.find? source = some content ∧ ∃ masked, maskComments content.toList = .ok masked := by
  rw [Ledger.find?_eq_some_iff, readable, Ledger.filter, List.mem_filter,
    ← Ledger.find?_eq_some_iff, unread?]
  cases maskComments content.toList with
  | ok masked => simp
  | error trouble => simp

/-- The edges after those of a staged text are entered. -/
def putEdges (shorthand : String) (byModulePath : Ledger String String)
    (edges : Ledger String (List String)) (entry : String × String) : Ledger String (List String) :=
  match Code.Module.ofText entry.2.toList entry.1 with
  | .error _ => edges
  | .ok found => edges.put entry.1 (targetsOf shorthand byModulePath found)

/-- The imports of a text can be read exactly when its comments can be blanked. -/
theorem ofText_eq_error_iff {text : List Char} {path : String} {problem : ScanProblem} :
    Code.Module.ofText text path = .error problem ↔ maskComments text = .error problem := by
  unfold Code.Module.ofText
  cases maskComments text with
  | ok masked => simp [bind, Except.bind, pure, Except.pure]
  | error other => simp [bind, Except.bind]

/-- Reading a text enters its edges and collects what is wrong with it. -/
theorem addText_eq (shorthand : String) (byModulePath : Ledger String String)
    (validation : Validation) (entry : String × String) :
    addText shorthand byModulePath validation entry =
      ⟨putEdges shorthand byModulePath validation.edges entry,
        validation.errors ++ (unread? entry).toList⟩ := by
  unfold addText putEdges unread?
  cases read : Code.Module.ofText entry.2.toList entry.1 with
  | error problem => rw [ofText_eq_error_iff.mp read]; rfl
  | ok found =>
    obtain ⟨masked, blanked, -⟩ := bind_eq_ok.mp read
    rw [blanked]
    simp

/-- Reading texts enters their edges and collects what is wrong with them. -/
theorem foldl_addText (shorthand : String) (byModulePath : Ledger String String)
    (texts : List (String × String)) (validation : Validation) :
    texts.foldl (addText shorthand byModulePath) validation =
      ⟨texts.foldl (putEdges shorthand byModulePath) validation.edges,
        validation.errors ++ texts.filterMap unread?⟩ := by
  induction texts generalizing validation with
  | nil => simp
  | cons entry rest inductionHypothesis =>
    rw [List.foldl_cons, inductionHypothesis, addText_eq, List.foldl_cons]
    cases unread : unread? entry <;> simp [unread]

/-- Texts that cannot be read enter no edges. -/
theorem foldl_putEdges_filter (shorthand : String) (byModulePath : Ledger String String)
    (texts : List (String × String)) (edges : Ledger String (List String)) :
    (texts.filter fun entry => (unread? entry).isNone).foldl (putEdges shorthand byModulePath)
      edges = texts.foldl (putEdges shorthand byModulePath) edges := by
  induction texts generalizing edges with
  | nil => rfl
  | cons entry rest inductionHypothesis =>
    rw [List.filter_cons, List.foldl_cons]
    split
    · rw [List.foldl_cons, inductionHypothesis]
    · next failed =>
      have same : putEdges shorthand byModulePath edges entry = edges := by
        unfold unread? at failed
        unfold putEdges
        cases blanked : maskComments entry.2.toList with
        | ok masked => simp [blanked] at failed
        | error problem => rw [ofText_eq_error_iff.mpr blanked]
      rw [same, inductionHypothesis]

/-- The edges of the staged texts are those of the readable ones; the others are collected. -/
theorem edgesOf_eq (scope : Scope) (layout : Layout) (staged : Ledger String String) :
    edgesOf scope layout staged =
        ⟨(edgesOf scope layout (readable staged)).edges, unread staged⟩ ∧
      (edgesOf scope layout (readable staged)).errors = [] := by
  have order : sortedBy Prod.fst (readable staged).entries =
      (sortedBy Prod.fst staged.entries).filter fun entry => (unread? entry).isNone :=
    sortedBy_filter Prod.fst _ staged.distinct
  have silent : ((sortedBy Prod.fst staged.entries).filter fun entry =>
      (unread? entry).isNone).filterMap unread? = [] := by
    refine List.filterMap_eq_nil_iff.mpr fun entry listed => ?_
    simpa using (List.mem_filter.mp listed).2
  simp only [edgesOf, foldl_addText, order, silent, foldl_putEdges_filter, List.append_nil,
    List.nil_append, unread, and_self]

end Reading

section Searching

variable {scope : Scope} {classification : Classification} {layout : Layout}
  {staged : Ledger String String} {validation : Validation}

/-- A text that the search for storage objects can process: its calls, its comments and the contents
of its literals are found, and of each call whether it is out of scope. -/
def Searchable (scope : Scope) (source : String) (text : List Char) : Prop :=
  ∃ calls masked code, Searched scope source text calls masked code ∧
    ∀ call ∈ calls, ∃ outside, isOutOfScope scope call = .ok outside

/-- What is searched for storage objects can be processed: there are none to search for, or every
staged text of a feature is searchable. -/
def Processable (scope : Scope) (layout : Layout) (staged : Ledger String String) : Prop :=
  storagePattern? scope.storage = none ∨
    ∀ move ∈ layout.moves.values, ∀ feature content, move.owner = .feature feature →
      staged.find? move.source = some content → Searchable scope move.source content.toList

/-- A text is prepared for the search exactly when it is searchable. -/
theorem exists_checkedText_iff {source : String} {text : List Char} :
    (∃ checked, checkedText scope source text = .ok checked) ↔ Searchable scope source text := by
  constructor
  · rintro ⟨checked, run⟩
    obtain ⟨calls, found, run⟩ := bind_eq_ok.mp run
    obtain ⟨allowed, tested, run⟩ := bind_eq_ok.mp run
    obtain ⟨code, shown, -⟩ := bind_eq_ok.mp run
    obtain ⟨masked, read, hidden⟩ := bind_eq_ok.mp (eq_ok_of_mapError shown)
    exact ⟨calls, masked, code, ⟨eq_ok_of_mapError found, read, hidden⟩,
      exists_filterM_eq_ok_iff.mp ⟨allowed, eq_ok_of_mapError tested⟩⟩
  · rintro ⟨calls, masked, code, searched, decided⟩
    obtain ⟨allowed, tested⟩ := exists_filterM_eq_ok_iff.mpr decided
    refine ⟨(allowed.map (·.span)).foldl blankSpan code, ?_⟩
    simp [checkedText, searched.found, tested, searched.read, searched.shown, bind, Except.bind,
      Except.mapError, pure, Except.pure]

/-- What is left in a file is found exactly when its text can be prepared. -/
theorem residuesOf_eq (pattern : Pattern Unit) (move : Move) (content : String) :
    residuesOf scope pattern move content =
      (checkedText scope move.source content.toList).map fun checked =>
        (pattern.search checked).map fun found =>
          .residual move.destination move.source (lineAt checked found.span.start)
            (String.ofList found.text) := by
  unfold residuesOf
  cases checkedText scope move.source content.toList <;> rfl

/-- What is left in the file of a move, if it is a feature's file and has a staged text. -/
def leftIn (scope : Scope) (pattern : Pattern Unit) (staged : Ledger String String) (move : Move) :
    Except Fault (List Diagnostic) :=
  match move.owner, staged.find? move.source with
  | .feature _, some content => residuesOf scope pattern move content
  | _, _ => .ok []

/-- A file is searched when it is a feature's file and has a staged text. -/
theorem leftIn_cases (scope : Scope) (pattern : Pattern Unit) (staged : Ledger String String)
    (move : Move) :
    (∃ feature content, move.owner = .feature feature ∧ staged.find? move.source = some content ∧
      leftIn scope pattern staged move = residuesOf scope pattern move content) ∨
    ((∀ feature content, move.owner = .feature feature → staged.find? move.source ≠ some content) ∧
      leftIn scope pattern staged move = .ok []) := by
  unfold leftIn
  cases owned : move.owner with
  | shared => exact Or.inr ⟨by simp, rfl⟩
  | feature name =>
    cases holds : staged.find? move.source with
    | none => exact Or.inr ⟨by simp, rfl⟩
    | some content => exact Or.inl ⟨name, content, rfl, rfl, rfl⟩

/-- The files are searched one after another. -/
theorem residues_eq {pattern : Pattern Unit} (known : storagePattern? scope.storage = some pattern) :
    residues scope layout staged =
      (layout.moves.values.mapM (leftIn scope pattern staged)).map List.flatten := by
  rw [residues, known]
  rfl

/-- The search answers exactly when its texts can be processed. -/
theorem exists_residues_iff :
    (∃ left, residues scope layout staged = .ok left) ↔ Processable scope layout staged := by
  cases known : storagePattern? scope.storage with
  | none => simp [residues, Processable, known]
  | some pattern =>
    have each (move : Move) : (∃ found, leftIn scope pattern staged move = .ok found) ↔
        ∀ feature content, move.owner = .feature feature →
          staged.find? move.source = some content →
            Searchable scope move.source content.toList := by
      rcases leftIn_cases scope pattern staged move with
        ⟨name, text, owned, holds, same⟩ | ⟨spared, same⟩
      · rw [same, residuesOf_eq]
        rw [exists_map_eq_ok_iff, exists_checkedText_iff, owned, holds]
        constructor
        · rintro searchable feature content - ⟨⟩
          exact searchable
        · exact fun searchable => searchable name text rfl rfl
      · exact ⟨fun _ feature content owned holds => absurd holds (spared feature content owned),
          fun _ => ⟨[], same⟩⟩
    simp only [residues_eq known, exists_map_eq_ok_iff, exists_mapM_eq_ok_iff, each, Processable,
      known, reduceCtorEq, false_or]

/-- The search fails as it fails on one of its texts. -/
theorem exists_of_residues_eq_error {fault : Fault}
    (failed : residues scope layout staged = .error fault) :
    ∃ move ∈ layout.moves.values, ∃ feature content, move.owner = .feature feature ∧
      staged.find? move.source = some content ∧
      checkedText scope move.source content.toList = .error fault := by
  cases known : storagePattern? scope.storage with
  | none => simp [residues, known] at failed
  | some pattern =>
    rw [residues_eq known] at failed
    obtain ⟨move, listed, problem⟩ := exists_of_mapM_eq_error (eq_error_of_map failed)
    rcases leftIn_cases scope pattern staged move with
      ⟨name, text, owned, holds, same⟩ | ⟨-, same⟩
    · rw [same, residuesOf_eq] at problem
      exact ⟨move, listed, name, text, owned, holds, eq_error_of_map problem⟩
    · rw [same] at problem
      cases problem

/-- Texts whose comments cannot be blanked are not among those that are searched. -/
theorem residues_readable (processable : Processable scope layout staged) :
    residues scope layout (readable staged) = residues scope layout staged := by
  rcases processable with nothing | searchable
  · simp only [residues, nothing]
  · cases known : storagePattern? scope.storage with
    | none => simp only [residues, known]
    | some pattern =>
      have each : ∀ move ∈ layout.moves.values,
          leftIn scope pattern (readable staged) move = leftIn scope pattern staged move := by
        intro move listed
        unfold leftIn
        cases owned : move.owner with
        | shared => rfl
        | feature name =>
          have same : (readable staged).find? move.source = staged.find? move.source := by
            ext content
            refine find?_readable_iff.trans (and_iff_left_of_imp fun holds => ?_)
            obtain ⟨_, masked, _, searched, -⟩ := searchable move listed name content owned holds
            exact ⟨masked, searched.read⟩
          rw [same]
      rw [residues_eq known, residues_eq known, mapM_congr_left each]

theorem ofStaged_eq (usable : aliasProblem? scope staged = none) :
    ofStaged scope classification layout staged = (residues scope layout staged).map fun left =>
      { edges := (edgesOf scope layout staged).edges
        errors := (edgesOf scope layout staged).errors ++
          crossings classification (edgesOf scope layout staged).edges ++ left ++
            missingPages scope layout (edgesOf scope layout staged).edges ++
              unreferenced layout (edgesOf scope layout staged).edges } := by
  rw [ofStaged, usable]
  cases residues scope layout staged <;> rfl

/-- Whether imports can be looked up depends on the readable texts only. -/
theorem aliasProblem?_readable (scope : Scope) (staged : Ledger String String) :
    aliasProblem? scope (readable staged) = aliasProblem? scope staged := by
  have importing : (readable staged).entries.any hasImport = staged.entries.any hasImport := by
    rw [readable, Ledger.filter, List.any_filter]
    refine congrArg staged.entries.any (funext fun entry => ?_)
    unfold unread? hasImport
    cases blanked : maskComments entry.2.toList with
    | ok masked => rfl
    | error problem => rw [ofText_eq_error_iff.mpr blanked, Bool.and_false]
  rw [aliasProblem?, aliasProblem?, importing]

/-- A validation answers exactly when imports can be looked up and the staged texts of the features
can be processed. Otherwise it ends with the problem of the alias or of one such text. When it
answers, the texts whose comments cannot be blanked are collected, and all checks have the results
that they have on the other texts alone. -/
theorem ofStaged_collects (scope : Scope) (classification : Classification) (layout : Layout)
    (staged : Ledger String String) :
    ((∃ validation, ofStaged scope classification layout staged = .ok validation) ↔
      aliasProblem? scope staged = none ∧ Processable scope layout staged) ∧
    (∀ fault, ofStaged scope classification layout staged = .error fault →
      (∃ problem, aliasProblem? scope staged = some problem ∧ fault = .setting problem) ∨
      ∃ move ∈ layout.moves.values, ∃ feature content, move.owner = .feature feature ∧
        staged.find? move.source = some content ∧
        checkedText scope move.source content.toList = .error fault) ∧
    ∀ validation, ofStaged scope classification layout staged = .ok validation →
      ∃ others, ofStaged scope classification layout (readable staged) = .ok others ∧
        validation = ⟨others.edges, unread staged ++ others.errors⟩ := by
  cases usable : aliasProblem? scope staged with
  | some problem =>
    have failed : ofStaged scope classification layout staged = .error (.setting problem) := by
      rw [ofStaged, usable]
      rfl
    rw [failed]
    refine ⟨by simp, fun fault same => Or.inl ⟨problem, rfl, (Except.error.inj same).symm⟩, by simp⟩
  | none =>
    rw [ofStaged_eq usable]
    refine ⟨?_, fun fault failed => Or.inr (exists_of_residues_eq_error (eq_error_of_map failed)),
      fun validation ran => ?_⟩
    · rw [exists_map_eq_ok_iff, exists_residues_iff, and_iff_right rfl]
    · obtain ⟨left, searched, rfl⟩ := map_eq_ok.mp ran
      have usableToo := (aliasProblem?_readable scope staged).trans usable
      have alone := residues_readable (exists_residues_iff.mp ⟨left, searched⟩)
      obtain ⟨edges, silent⟩ := edgesOf_eq scope layout staged
      rw [ofStaged_eq usableToo, alone, searched]
      refine ⟨_, rfl, ?_⟩
      rw [edges, silent]
      simp only [List.nil_append, List.append_assoc]

end Searching

section Interrupted

/-- A template with an expression in which a quote stands in a regular expression. -/
def quotingText : String := "`$\x7b/'/\x7d`"

/-- The staged text of a page. -/
def pageText (text : String) : Ledger String String := Ledger.ofList [("pages/OnePage.tsx", text)]

/-- A page whose staged text cannot be processed ends the validation. -/
theorem ofStaged_pageText {text : String} {fault : Fault}
    (failed : checkedText nestedScope nestedMove.source text.toList = .error fault)
    (usable : aliasProblem? nestedScope (pageText text) = none) :
    ofStaged nestedScope nestedClassification nestedLayout (pageText text) = .error fault := by
  have names : sorted nestedScope.storage.identifiers = ["localStorage"] := by cbv
  have known := storagePattern?_eq isWhole_nested
  rw [names, if_neg (by decide)] at known
  have moves : nestedLayout.moves.values = [nestedMove] := rfl
  have left : leftIn nestedScope (Pattern.oneOf ["localStorage"]) (pageText text) nestedMove =
      residuesOf nestedScope (Pattern.oneOf ["localStorage"]) nestedMove text := rfl
  rw [ofStaged_eq usable, residues_eq known, moves, List.mapM_cons, left, residuesOf_eq, failed]
  rfl

/-- Texts that one of the scanners cannot process end the validation: a template that only the
search reads into, and a comment that is never closed, although this one has been collected before. -/
theorem ofStaged_interrupted :
    (∃ masked, maskComments quotingText.toList = .ok masked) ∧
      ofStaged nestedScope nestedClassification nestedLayout (pageText quotingText) =
        .error (.diagnostic (.unscannable "pages/OnePage.tsx" .openTemplate)) ∧
      (edgesOf nestedScope nestedLayout (pageText "/*")).errors =
        [.unscannable "pages/OnePage.tsx" .openComment] ∧
      ofStaged nestedScope nestedClassification nestedLayout (pageText "/*") =
        .error (.diagnostic (.unscannable "pages/OnePage.tsx" .openComment)) := by
  refine ⟨⟨quotingText.toList, by cbv⟩, ofStaged_pageText (by cbv) rfl, ?_,
    ofStaged_pageText (by cbv) rfl⟩
  rw [(edgesOf_eq _ _ _).1]
  cbv

end Interrupted

end Validation

end FeatureLayout
