import FeatureLayout.Proofs.Migration

/-!
# Where a migration writes

A destination is made of the folder of a kind, the name of a feature and the name of a source. Names
cannot lead anywhere else, so a destination is contained in the folder it is followed from exactly
when the folder of its kind is contained. The folders of the kinds are settings that nothing checks:
an accepted configuration can lead out of the staged tree. When all of them are contained, a run
writes nothing outside its destination.
-/

namespace FeatureLayout

open Text DiskM

/-- The only feature of a scope can own each of its entry points. -/
theorem Scope.canOwn_of_alone {base : Location} {config : Value} {scope : Scope}
    (accepted : Scope.ofValue base config = .ok scope) {feature : Feature}
    (alone : scope.features = [feature]) (nothing : scope.retain = []) {entry : String}
    (listed : entry ∈ feature.entryPoints) : scope.CanOwn (.feature feature.name) := by
  let graph := UsageGraph.empty.addFile entry
  have built : graph.Built := .addFile entry .empty
  have inside : entry ∈ graph.files := by simp [graph, UsageGraph.mem_files_addFile]
  have decided := Classification.decided_of_nil nothing graph
  have exactly := Classification.exact_ofGraph scope built fun feature declared =>
    (Scope.ofValue_admitted accepted feature declared).named
  have reached : Classification.ReachedBy scope graph entry feature.name :=
    ⟨feature, by simp [alone], rfl, entry, listed, inside, Relation.ReflTransGen.refl⟩
  have single : (Classification.ofGraph scope graph).reachingOf entry = [feature.name] := by
    refine List.perm_singleton.mp ((List.perm_ext_iff_of_nodup (exactly.once entry)
      (List.nodup_singleton _)).mpr fun name => ?_)
    rw [exactly.reaching entry inside name, List.mem_singleton]
    constructor
    · rintro ⟨other, declared, rfl, -⟩
      rw [alone, List.mem_singleton] at declared
      rw [declared]
    · rintro rfl
      exact reached
  exact ⟨graph, _, entry, built, decided, exactly.owned entry inside _ single⟩

namespace Layout

variable {scope : Scope} {source : String} {owner : Owner}

/-- A destination is contained exactly when the folder of its kind is. -/
theorem isContained_destinationOf_iff (plain : Path.IsPlain source)
    (named : ∀ name, owner = .feature name → Path.IsName name) (kind : SymbolKind) :
    Path.IsContained (destinationOf scope source owner kind) ↔
      Path.IsContained (scope.bucket kind).display := by
  have last := plain.baseName.isPlain.isContained
  unfold destinationOf
  cases owner with
  | shared => simp only [Path.isContained_append_iff, last, and_true]
  | feature name =>
    have outer : Path.IsContained featuresFolder := by decide
    have inner := (named name rfl).isPlain.isContained
    simp only [Path.isContained_append_iff, outer, inner, last, true_and, and_true]

/-- A destination leads to some place: it ends in a name. -/
theorem segments_destinationOf_ne_nil (plain : Path.IsPlain source) (kind : SymbolKind) :
    Path.segments (destinationOf scope source owner kind) ≠ [] := by
  obtain ⟨folder, same⟩ := exists_folder scope source owner kind
  obtain ⟨full, dot, -, apart⟩ := plain.baseName
  refine List.ne_nil_of_mem (a := Path.baseName source) (List.mem_filter.mpr ⟨?_, by simp [full, dot]⟩)
  rw [same, Path.fieldsOf_folder folder apart]
  exact List.mem_append_right _ List.mem_cons_self

end Layout

namespace Migration

section Writing

variable {scope : Scope} {layout : Layout} {staged : Staged} {start : Disk} {scratch : Location}

/-- Some tree is staged on a disk. -/
def Staging (scratch : Location) (start disk : Disk) : Prop :=
  ∃ written, StagingArea.Holding scratch start written disk

/-- Looking for the bytes of a planned file changes nothing. -/
theorem meets_contentOf_staging (move : Move) :
    Meets (Staging scratch start) (contentOf scope staged move : DiskM ByteArray)
      (fun _ => Staging scratch start) (fun problem _ => ¬ problem.IsRefusal) := by
  unfold contentOf
  cases staged.texts.find? move.source with
  | some text => exact meets_answer fun _ staging => staging
  | none => exact (meets_look _).regardless.answered fun _ _ both => both.1

/-- Planned files with contained destinations are written into the staged tree, and nowhere else. -/
theorem meets_writeAll_contained (area : StagingArea)
    (contained : ∀ move ∈ layout.moves.values,
      Path.IsContained move.destination ∧ Path.segments move.destination ≠ []) :
    Meets (Staging area.scratch start) (writeAll scope layout staged area : DiskM Unit)
      (fun _ => Staging area.scratch start) (fun problem _ => ¬ problem.IsRefusal) := by
  have wrote {path : String} (inside : Path.IsContained path) (some : Path.segments path ≠ [])
      (content : ByteArray) : Meets (Staging area.scratch start)
        (area.writeFile path content : DiskM Unit) (fun _ => Staging area.scratch start)
        (fun problem _ => ¬ problem.IsRefusal) := by
    rintro disk ⟨written, holding⟩
    exact ((StagingArea.meets_writeBelow some (inside.follow area.scratch) content).answered
      fun _ _ holding => ⟨_, holding⟩) disk holding
  have step : ∀ earlier move later, [] ++ layout.moves.values = earlier ++ move :: later →
      Meets (Staging area.scratch start)
        (contentOf scope staged move >>= fun content => area.writeFile move.destination content)
        (fun _ => Staging area.scratch start) (fun problem _ => ¬ problem.IsRefusal) := by
    intro earlier move later split
    have listed : move ∈ layout.moves.values := by
      rw [show layout.moves.values = _ from split]
      simp
    exact (meets_contentOf_staging move).bind fun content =>
      wrote (contained move listed).1 (contained move listed).2 content
  let holds (_ : List Move) (disk : Disk) : Prop := Staging area.scratch start disk
  have moves : Meets (holds []) _ (fun _ => holds layout.moves.values)
      (fun problem _ => ¬ problem.IsRefusal) := meets_forM _ layout.moves.values [] step
  exact moves.bind fun _ => wrote (by decide) (by decide) markerText.toUTF8

end Writing

/-- A run that writes into contained folders only changes nothing outside its destination. -/
theorem meets_run_contained {base : Location} {config : Value} {scope : Scope}
    (accepted : Scope.ofValue base config = .ok scope)
    (buckets : ∀ kind, Path.IsContained (scope.bucket kind).display) {disk : Disk}
    (rooted : disk.Rooted) (proper : disk.Proper) (destination : Location) (dryRun : Bool) :
    Meets (· = disk) (run scope destination dryRun)
      (fun _ after => ∀ place, ¬ destination <+: place → after.file? place = disk.file? place)
      fun problem after => problem.IsRefusal → after = disk := by
  have unharmed (problem : Fault) : problem.IsRefusal → disk = disk := fun _ => rfl
  unfold run
  split
  · have refused : Reads disk (throw (.setting .brokenPath) : DiskM PUnit) fun _ => False :=
      reads_throw _
    exact refused.followed unharmed fun _ impossible => impossible.elim
  refine (reads_checkDestination scope disk destination).followed unharmed fun _ free => ?_
  refine (reads_analyze scope disk).followed unharmed fun analysis found => ?_
  obtain ⟨read, index, built, analysed⟩ := found
  refine (answers_orThrow disk _).reads.followed unharmed fun answer _ => ?_
  dsimp only
  split
  · exact meets_answer fun _ same _ _ => same ▸ rfl
  · obtain ⟨classification, decided, same⟩ := bind_eq_ok.mp analysed
    obtain rfl := Except.ok.inj same
    have contained : ∀ move ∈ (Layout.ofOwners scope index classification.owners).moves.values,
        Path.IsContained move.destination ∧ Path.segments move.destination ≠ [] := by
      intro move listed
      obtain ⟨owner, file, owned, found, same⟩ := Layout.exists_file_of_mem listed
      have plain := (exists_of_indexed proper built found).1
      rw [same]
      refine ⟨(Layout.isContained_destinationOf_iff plain ?_ file.kind).mpr (buckets file.kind),
        Layout.segments_destinationOf_ne_nil plain file.kind⟩
      rintro name rfl
      exact Scope.CanOwn.isName accepted
        ⟨_, classification, _, UsageGraph.ofIndex_built index, decided, owned⟩
    obtain ⟨parent, name, rfl⟩ := exists_concat_of_placeProblem? free
    have filled := StagingArea.meets_fill disk rooted parent name
      (writeAll scope (Layout.ofOwners scope index classification.owners) answer.2)
      (fun _ => True) fun area area_disk ⟨_, holding⟩ =>
        ((meets_writeAll_contained area contained).answered
          fun _ _ ⟨written, holding⟩ => ⟨written, trivial, holding⟩) area_disk ⟨_, holding⟩
    refine (filled.ended fun _ _ other refusal => absurd refusal other).bind fun _ =>
      meets_answer fun after published => ?_
    obtain ⟨written, -, published⟩ := published
    exact published.others

/-- The destination of an indexed file is contained exactly when the folder of its kind is. It then
lies below the folder that it is followed from, and when the folders of all kinds are contained, a
run that answers changes no file outside its destination. -/
theorem writes_contained {base : Location} {config : Value} {scope : Scope}
    (accepted : Scope.ofValue base config = .ok scope) {disk : Disk} (rooted : disk.Rooted)
    (proper : disk.Proper) :
    (∀ index, indexOf scope disk = .ok index → ∀ path file, index.file? path = some file →
      ∀ owner, scope.CanOwn owner → ∀ kind,
        (Path.IsContained (Layout.destinationOf scope path owner kind) ↔
          Path.IsContained (scope.bucket kind).display) ∧
        (Path.IsContained (scope.bucket kind).display → ∀ folder : Location, ∃ below, below ≠ [] ∧
          folder.follow (Layout.destinationOf scope path owner kind) = folder ++ below)) ∧
    ((∀ kind, Path.IsContained (scope.bucket kind).display) →
      ∀ destination dryRun outcome after,
        runOn (run scope destination dryRun) disk = (.ok outcome, after) →
          ∀ place, ¬ destination <+: place → after.file? place = disk.file? place) := by
  constructor
  · intro index built path file found owner owns kind
    have plain := (exists_of_indexed proper built found).1
    have exactly : Path.IsContained (Layout.destinationOf scope path owner kind) ↔
        Path.IsContained (scope.bucket kind).display :=
      Layout.isContained_destinationOf_iff plain (by rintro name rfl; exact owns.isName accepted)
        kind
    refine ⟨exactly, fun contained folder => ?_⟩
    exact ⟨_, Layout.segments_destinationOf_ne_nil plain kind, (exactly.mpr contained).follow folder⟩
  · intro buckets destination dryRun outcome after ran
    rcases meets_run_contained accepted buckets rooted proper destination dryRun disk rfl with
      ⟨answer, left, same, outside⟩ | ⟨problem, left, same, -⟩
    · rw [runOn, same] at ran
      obtain ⟨-, rfl⟩ := Prod.mk.inj ran
      exact outside
    · rw [runOn, same] at ran
      exact absurd (Prod.mk.inj ran).1 (by simp)

/-- The scope of a page whose pages go to a folder that is contained but not written plainly. -/
def viewsScope : Scope :=
  { pageScope "pages/Home.tsx" with
    bucket := fun kind => if kind = .page then .text "views/./pages" else .text kind.usualBucket }

/-- The page of one feature is written below the destination, although the folder of its kind has a
dot in it. -/
theorem writes_contained_selfPage :
    Scope.ofValue ["app", "src"] (.table [
        ("features", .table [
          ("home", .table [("entry_points", .list [.text "pages/Home.tsx"])])]),
        ("kind_buckets", .table [("page", .text "views/./pages")]),
        ("persistence", .table [("calls", .table [])])]) = .ok viewsScope ∧
      selfPage.Rooted ∧ selfPage.Proper ∧
      (∃ index file, indexOf viewsScope selfPage = .ok index ∧
        index.file? "pages/Home.tsx" = some file ∧ viewsScope.CanOwn (.feature "home")) ∧
      Layout.destinationOf viewsScope "pages/Home.tsx" (.feature "home") .page =
        "features/home/views/./pages/Home.tsx" ∧
      Path.IsContained "features/home/views/./pages/Home.tsx" ∧
      (∀ folder : Location, ∃ below, below ≠ [] ∧
        folder.follow "features/home/views/./pages/Home.tsx" = folder ++ below) ∧
      ∃ outcome after, runOn (run viewsScope ["app", "out"] false) selfPage = (.ok outcome, after) ∧
        outcome.report.status = .success ∧
        after.file? ["app", "out", "features", "home", "views", "pages", "Home.tsx"] =
          some "import '@/features/home/views/./pages/Home';\n".toUTF8 ∧
        ∀ place, ¬ ["app", "out"] <+: place → after.file? place = selfPage.file? place := by
  have accepted : Scope.ofValue ["app", "src"] (.table [
      ("features", .table [
        ("home", .table [("entry_points", .list [.text "pages/Home.tsx"])])]),
      ("kind_buckets", .table [("page", .text "views/./pages")]),
      ("persistence", .table [("calls", .table [])])]) = .ok viewsScope := rfl
  have contained (kind : SymbolKind) : Path.IsContained (viewsScope.bucket kind).display := by
    cases kind <;> decide
  have rooted : selfPage.Rooted := Disk.rooted_of_keys (by decide)
  have proper : selfPage.Proper := Disk.proper_of_keys (by decide)
  have owns : viewsScope.CanOwn (.feature "home") :=
    Scope.canOwn_of_alone accepted rfl rfl (List.mem_singleton_self "pages/Home.tsx")
  have spelled : Layout.destinationOf viewsScope "pages/Home.tsx" (.feature "home") .page =
      "features/home/views/./pages/Home.tsx" := by
    decide
  obtain ⟨index, file, built, found⟩ : ∃ index file, indexOf viewsScope selfPage = .ok index ∧
      index.file? "pages/Home.tsx" = some file := by
    have indexed : ((indexOf viewsScope selfPage).toOption.bind
        (·.file? "pages/Home.tsx")).isSome = true := by
      decide +kernel
    obtain ⟨file, same⟩ := Option.isSome_iff_exists.mp indexed
    obtain ⟨index, built, found⟩ := Option.bind_eq_some_iff.mp same
    exact ⟨index, file, eq_ok_of_toOption built, found⟩
  obtain ⟨destinations, outside⟩ := writes_contained accepted rooted proper
  obtain ⟨exactly, below⟩ := destinations index built _ file found _ owns .page
  rw [spelled] at exactly below
  have reports : (runOn (run viewsScope ["app", "out"] false)
      selfPage).1.toOption.map (·.report.status) = some .success := by
    decide +kernel
  obtain ⟨outcome, after, ran, success⟩ := exists_of_status reports
  have arrived : (runOn (run viewsScope ["app", "out"] false) selfPage).2.file?
      ["app", "out", "features", "home", "views", "pages", "Home.tsx"] =
        some "import '@/features/home/views/./pages/Home';\n".toUTF8 := by
    decide +kernel
  rw [ran] at arrived
  exact ⟨accepted, rooted, proper, ⟨index, file, built, found, owns⟩, spelled,
    exactly.mpr (contained .page), below (contained .page), outcome, after, ran, success, arrived,
    outside contained _ _ _ _ ran⟩

/-- An accepted folder of a kind leads out of the staged tree: the style sheet of a feature is
written beside the scratch folder. -/
theorem writes_contained_climbing :
    ∃ scope index, Scope.ofValue ["app", "src"] (.table [
        ("features", .table [
          ("home", .table [("entry_points", .list [.text "home.css"])])]),
        ("kind_buckets", .table [("asset", .text "../../..")])]) = .ok scope ∧
      SourceIndex.ofTree scope ["home.css"] (fun _ => .error .missing) = .ok index ∧
      (index.file? "home.css").isSome ∧ scope.CanOwn (.feature "home") ∧
      ¬ Path.IsContained (Layout.destinationOf scope "home.css" (.feature "home") .asset) ∧
      Location.follow ["app", ".out.staging-0"]
        (Layout.destinationOf scope "home.css" (.feature "home") .asset) = ["app", "home.css"] := by
  obtain ⟨scope, feature, accepted, climbs, alone, entry, name, nothing, within, text⟩ :
      ∃ scope feature, Scope.ofValue ["app", "src"] (.table [
        ("features", .table [
          ("home", .table [("entry_points", .list [.text "home.css"])])]),
        ("kind_buckets", .table [("asset", .text "../../..")])]) = .ok scope ∧
        scope.bucket .asset = .text "../../.." ∧ scope.features = [feature] ∧
        "home.css" ∈ feature.entryPoints ∧ feature.name = "home" ∧ scope.retain = [] ∧
        scope.excluded = [] ∧ scope.sourceAlias.isMisfit = false :=
    ⟨_, _, rfl, rfl, rfl, by decide, rfl, rfl, rfl, rfl⟩
  let read : String → Except ReadProblem String := fun _ => .error .missing
  obtain ⟨index, built⟩ : ∃ index, SourceIndex.ofTree scope ["home.css"] read = .ok index :=
    ⟨_, if_neg (by simp [text])⟩
  have discovered : "home.css" ∈ (Discovery.ofPaths scope ["home.css"]).inScope :=
    Discovery.mem_inScope.mpr ⟨⟨List.mem_singleton_self _, by decide⟩,
      by simp [Scope.isExcluded, within], by decide⟩
  refine ⟨scope, index, accepted, built, ?_, ?_, ?_, ?_⟩
  · exact (SourceIndex.file?_isSome_iff built _).mpr
      (Or.inr (List.mem_filter.mpr ⟨discovered, by decide⟩))
  · exact name ▸ Scope.canOwn_of_alone accepted alone nothing entry
  · rw [Layout.destinationOf, climbs]
    decide
  · rw [Layout.destinationOf, climbs]
    decide

end Migration

end FeatureLayout
