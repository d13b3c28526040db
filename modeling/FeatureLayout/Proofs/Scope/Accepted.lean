import FeatureLayout.Proofs.Scope.Config
import Mathlib.Data.List.Pairwise

/-!
# Which configurations are accepted

A configuration whose values have the expected types is accepted when it passes all checks, and is
refused otherwise. The checks are spread over many functions: each of them is shown to be decided by
a condition on its part of the configuration, and the conditions of functions that run one after the
other add up.

There is one name that is accepted although it should not be: a line break may follow the name of a
feature. And the folder of the source tree has to be a path that a disk can have: no other check
looks at it, and nothing can be made of it otherwise.

In an accepted scope no entry point lies in an excluded folder, and each resource is owned by the
one feature that lists it, in whatever order the features stand.
-/

namespace FeatureLayout

open Text

namespace Scope

/-- A step that succeeds under a condition, with a result, and is refused otherwise. -/
structure Decides {α : Type} (attempt : Except ScopeProblem α) (holds : Prop)
    (result : α → Prop) : Prop where
  accepts : holds → ∃ value, attempt = .ok value ∧ result value
  refuses : ¬ holds → ∃ problem, attempt = .error (.refused problem)

namespace Decides

variable {α β : Type} {attempt : Except ScopeProblem α} {further : α → Except ScopeProblem β}
  {holds also : Prop} {result : α → Prop} {final : β → Prop}

theorem of_ok {value : α} (given : result value) : Decides (.ok value) True result where
  accepts _ := ⟨value, rfl, given⟩
  refuses none := absurd trivial none

/-- A step is decided by any condition that comes to the same. -/
theorem congr (decides : Decides attempt holds result) (same : also ↔ holds) :
    Decides attempt also result where
  accepts given := decides.accepts (same.mp given)
  refuses none := decides.refuses (mt same.mpr none)

theorem imp {weaker : α → Prop} (decides : Decides attempt holds result)
    (implies : ∀ value, result value → weaker value) : Decides attempt holds weaker where
  accepts given :=
    have ⟨value, same, has⟩ := decides.accepts given
    ⟨value, same, implies value has⟩
  refuses := decides.refuses

/-- The conditions of two steps add up. -/
theorem bind (first : Decides attempt holds result)
    (second : ∀ value, result value → Decides (further value) also final) :
    Decides (attempt >>= further) (holds ∧ also) final where
  accepts := by
    rintro ⟨given, more⟩
    obtain ⟨value, same, has⟩ := first.accepts given
    rw [same]
    exact (second value has).accepts more
  refuses := by
    intro failed
    by_cases given : holds
    · obtain ⟨value, same, has⟩ := first.accepts given
      rw [same]
      exact (second value has).refuses fun more => failed ⟨given, more⟩
    · obtain ⟨problem, same⟩ := first.refuses given
      rw [same]
      exact ⟨problem, rfl⟩

/-- What cannot fail adds no condition. -/
theorem finish {rest : α → β} (first : Decides attempt holds result)
    (gives : ∀ value, result value → final (rest value)) :
    Decides (attempt >>= fun value => .ok (rest value)) holds final :=
  (first.bind fun value has => of_ok (gives value has)).congr (iff_of_eq (and_true holds).symm)

/-- A step with a known result has no condition. -/
theorem bind_ok {value : α} (same : attempt = .ok value)
    (second : Decides (further value) also final) : Decides (attempt >>= further) also final := by
  rw [same]
  exact second

/-- A check adds that it does not find what it refuses. -/
theorem guard {test : Prop} [Decidable test] {problem : ConfigProblem}
    {onwards : Unit → Except ScopeProblem α} (next : ¬ test → Decides attempt holds result) :
    Decides (if test then refuse problem >>= onwards else attempt) (¬ test ∧ holds) result := by
  split
  · next found =>
    exact ⟨fun both => absurd found both.1, fun _ => ⟨problem, rfl⟩⟩
  · next free => exact (next free).congr (and_iff_right free)

/-- A result is mapped. -/
theorem map {change : α → β} (decides : Decides attempt holds result)
    (gives : ∀ value, result value → final (change value)) :
    Decides (attempt.map change) holds final where
  accepts given := by
    obtain ⟨value, same, has⟩ := decides.accepts given
    rw [same]
    exact ⟨change value, rfl, gives value has⟩
  refuses none := by
    obtain ⟨problem, same⟩ := decides.refuses none
    rw [same]
    exact ⟨problem, rfl⟩

/-- The conditions of a step for each item of a list add up. -/
theorem mapM {step : α → Except ScopeProblem β} {needs : α → Prop} {items : List α}
    (each : ∀ item ∈ items, Decides (step item) (needs item) fun _ => True) :
    Decides (items.mapM step) (∀ item ∈ items, needs item) fun _ => True := by
  induction items with
  | nil => exact (of_ok trivial).congr (by simp)
  | cons item rest inductionHypothesis =>
    obtain ⟨one, others⟩ := List.forall_mem_cons.mp each
    rw [List.mapM_cons, List.forall_mem_cons]
    have remaining (read : β) : Decides (do return read :: (← rest.mapM step))
        (∀ item ∈ rest, needs item) fun _ => True :=
      (inductionHypothesis others).finish fun _ _ => trivial
    exact one.bind fun read _ => remaining read

/-- A step succeeds exactly under its condition. -/
theorem exists_ok_iff (decides : Decides attempt holds result) :
    (∃ value, attempt = .ok value) ↔ holds := by
  constructor
  · rintro ⟨value, same⟩
    by_contra none
    obtain ⟨problem, other⟩ := decides.refuses none
    rw [same] at other
    cases other
  · intro given
    obtain ⟨value, same, -⟩ := decides.accepts given
    exact ⟨value, same⟩

/-- What a step results in. -/
theorem of_eq_ok (decides : Decides attempt holds result) {value : α}
    (same : attempt = .ok value) : result value := by
  obtain ⟨other, again, has⟩ := decides.accepts (decides.exists_ok_iff.mp ⟨value, same⟩)
  obtain rfl := Except.ok.inj (same.symm.trans again)
  exact has

end Decides

section Settings

/-- What is set has a kind, if it is set at all. -/
def Kinded (settings : List (String × Value)) (key : String) (kind : Value → Prop) : Prop :=
  ∀ value, Value.setting? settings key = some value → kind value

theorem Kinded.of_some {settings : List (String × Value)} {key : String} {kind : Value → Prop}
    {value : Value} (given : Value.setting? settings key = some value) (has : kind value) :
    Kinded settings key kind := by
  intro other also
  obtain rfl := Option.some.inj (given.symm.trans also)
  exact has

theorem Kinded.of_none {settings : List (String × Value)} {key : String} {kind : Value → Prop}
    (missing : Value.setting? settings key = none) : Kinded settings key kind := by
  intro other also
  rw [missing] at also
  cases also

def IsText (value : Value) : Prop := ∃ content, value = .text content

def IsInteger (value : Value) : Prop := ∃ number, value = .integer number

def IsList (value : Value) : Prop := ∃ items, value = .list items

def IsTexts (value : Value) : Prop := ∃ texts : List String, value = .list (texts.map .text)

def IsTable (value : Value) : Prop := ∃ settings, value = .table settings

/-- Null stands for an empty table where one is expected. -/
def IsTableOrNull (value : Value) : Prop := value = .null ∨ IsTable value

/-- The settings of a table. -/
def partsOf : Value → List (String × Value)
  | .table settings => settings
  | _ => []

/-- The settings of the table that is set; none when there is no such table. -/
def tableIn (settings : List (String × Value)) (key : String) : List (String × Value) :=
  ((Value.setting? settings key).map partsOf).getD []

/-- The items of the list that is set; none when there is no such list. -/
def listIn (settings : List (String × Value)) (key : String) : List Value :=
  match Value.setting? settings key with
  | some (.list items) => items
  | _ => []

/-- The texts of the list that is set. -/
def textsIn (settings : List (String × Value)) (key : String) : List String :=
  (listIn settings key).filterMap Value.text?

variable {settings : List (String × Value)} {key : String}

theorem itemsAt_eq (typed : Kinded settings key IsList) :
    itemsAt settings key = .ok (listIn settings key) := by
  unfold itemsAt listIn
  cases given : Value.setting? settings key with
  | none => rfl
  | some value =>
    obtain ⟨items, rfl⟩ := typed value given
    rfl

/-- A list of texts has nothing but its texts. -/
theorem itemsAt_eq_texts (typed : Kinded settings key IsTexts) :
    itemsAt settings key = .ok ((textsIn settings key).map .text) := by
  have isList : Kinded settings key IsList := fun value given =>
    have ⟨texts, same⟩ := typed value given
    ⟨_, same⟩
  rw [itemsAt_eq isList, textsIn, listIn]
  cases given : Value.setting? settings key with
  | none => rfl
  | some value =>
    obtain ⟨texts, rfl⟩ := typed value given
    simp [List.filterMap_map, Function.comp_def, Value.text?]

theorem textsAt_eq (typed : Kinded settings key IsTexts) :
    textsAt settings key = .ok (textsIn settings key) := by
  rw [textsAt, itemsAt_eq_texts typed]
  exact mapM_eq_ok.mpr (List.forall₂_map_left_iff.mpr (List.forall₂_same.mpr fun _ _ => rfl))

theorem tableAt_eq (typed : Kinded settings key IsTableOrNull) :
    tableAt settings key = .ok (tableIn settings key) := by
  unfold tableAt settingOrNull tableIn
  cases given : Value.setting? settings key with
  | none => rfl
  | some value =>
    rcases typed value given with rfl | ⟨inner, rfl⟩
    · rfl
    · cases inner <;> rfl

end Settings

section Features

/-- What may name a feature: a plain name, which a line break may follow. -/
def IsName (name : String) : Prop :=
  isPlainName name.toList = true ∨
    ∃ plain, name.toList = plain ++ ['\n'] ∧ isPlainName plain = true

/-- There is no line break in a plain name. -/
theorem ne_of_isPlainName {name : List Char} (plain : isPlainName name = true) {c : Char}
    (listed : c ∈ name) : c ≠ '\n' := by
  rintro rfl
  cases name with
  | nil => cases plain
  | cons first rest =>
    obtain ⟨letter, others⟩ := Bool.and_eq_true_iff.mp plain
    rcases List.mem_cons.mp listed with rfl | later
    · exact absurd letter (by decide)
    · exact absurd (List.all_eq_true.mp others _ later) (by decide)

theorem isFeatureName_iff (name : String) : isFeatureName name = true ↔ IsName name := by
  unfold isFeatureName IsName
  dsimp only
  split
  · next last =>
    have whole := List.dropLast_append_getLast? _ last
    constructor
    · exact fun plain => Or.inr ⟨_, whole.symm, plain⟩
    · rintro (plain | ⟨front, same, plain⟩)
      · exact absurd rfl (ne_of_isPlainName plain (List.mem_of_getLast? last))
      · rwa [same, List.dropLast_concat]
  · next last =>
    refine (or_iff_left ?_).symm
    rintro ⟨front, same, -⟩
    rw [same, List.getLast?_concat] at last
    exact last rfl

/-- The entry points that a feature lists. -/
def entriesOf (feature : String × Value) : List String := textsIn (partsOf feature.2) "entry_points"

/-- The resources that a feature lists. -/
def resourcesOf (feature : String × Value) : List String := textsIn (partsOf feature.2) "resources"

/-- What a feature has to be like on its own. -/
structure Welcome (excluded : List String) (feature : String × Value) : Prop where
  named : IsName feature.1
  entered : entriesOf feature ≠ []
  outside : ∀ entry ∈ entriesOf feature, ∀ folder ∈ excluded,
    liesIn (Path.relative entry) (Path.relative folder) = false

/-- The kinds of values of a feature. -/
structure WellTypedFeature (feature : String × Value) : Prop where
  table : IsTable feature.2
  entries : Kinded (partsOf feature.2) "entry_points" IsTexts
  resources : Kinded (partsOf feature.2) "resources" IsTexts

/-- A feature of a scope is what the configuration says of it. -/
structure Reads (entry : String × Value) (feature : Feature) : Prop where
  name : feature.name = entry.1
  entries : feature.entryPoints = (entriesOf entry).map Path.relative
  resources : ∀ resource, .text resource ∈ feature.resources ↔ resource ∈ resourcesOf entry

/-- The resources that have an owner so far. -/
def Claims (owners : Owners) (claimed : String → Prop) : Prop :=
  ∀ resource, (∃ owner, owners.find? (some (.text resource)) = some owner) ↔ claimed resource

theorem Claims.congr {owners : Owners} {claimed also : String → Prop}
    (claims : Claims owners claimed) (same : ∀ resource, claimed resource ↔ also resource) :
    Claims owners also :=
  fun resource => (claims resource).trans (same resource)

/-- One more resource has an owner. -/
theorem Claims.put {owners : Owners} {claimed : String → Prop} (claims : Claims owners claimed)
    (feature text : String) : Claims (owners.put (some (.text text)) feature)
      fun resource => claimed resource ∨ resource = text := by
  intro resource
  dsimp only
  rw [Ledger.find?_put, ← claims resource]
  by_cases same : text = resource
  · simp [same]
  · have other : resource ≠ text := fun equal => same equal.symm
    simp [same, other]

/-- Resources that are told apart are listed once each. -/
theorem distinctResources_eq (keys : List Value.Key) (texts : List String) :
    ∃ kept : List String, distinctResources keys (texts.map .text) = .ok (kept.map .text) ∧
      kept.Nodup ∧ ∀ text, text ∈ kept ↔ text ∈ texts ∧ .text text ∉ keys := by
  induction texts generalizing keys with
  | nil => exact ⟨[], rfl, .nil, by simp⟩
  | cons text rest inductionHypothesis =>
    rw [List.map_cons, distinctResources, Value.key?_text]
    by_cases among : .text text ∈ keys
    · obtain ⟨kept, same, distinct, listed⟩ := inductionHypothesis keys
      refine ⟨kept, ?_, distinct, fun other => ?_⟩
      · simpa [among] using same
      · rw [listed, List.mem_cons]
        constructor
        · exact fun ⟨later, apart⟩ => ⟨Or.inr later, apart⟩
        · rintro ⟨rfl | later, apart⟩
          · exact absurd among apart
          · exact ⟨later, apart⟩
    · obtain ⟨kept, same, distinct, listed⟩ := inductionHypothesis (.text text :: keys)
      refine ⟨text :: kept, ?_, ?_, fun other => ?_⟩
      · simp [among, same, Except.map]
      · refine List.nodup_cons.mpr ⟨fun also => ?_, distinct⟩
        exact ((listed text).mp also).2 List.mem_cons_self
      · rw [List.mem_cons, List.mem_cons, listed, List.mem_cons]
        by_cases same : other = text
        · simp [same, among]
        · simp [same]

/-- Resources are claimed when none of them has an owner. -/
theorem claimResources_decides (feature : String) {texts : List String} (distinct : texts.Nodup)
    {owners : Owners} {claimed : String → Prop} (claims : Claims owners claimed) :
    Decides (claimResources feature owners (texts.map .text)) (∀ text ∈ texts, ¬ claimed text)
      fun later => Claims later fun resource => claimed resource ∨ resource ∈ texts := by
  induction texts generalizing owners claimed with
  | nil =>
    have kept := claims.congr fun resource =>
      (or_iff_left (List.not_mem_nil (a := resource))).symm
    exact ⟨fun _ => ⟨owners, rfl, kept⟩, fun failed => absurd (by simp) failed⟩
  | cons text rest inductionHypothesis =>
    obtain ⟨fresh, others⟩ := List.nodup_cons.mp distinct
    rw [List.map_cons, claimResources, Value.key?_text]
    cases found : owners.find? (some (.text text)) with
    | some owner =>
      have taken := (claims text).mp ⟨owner, found⟩
      exact ⟨fun free => absurd taken (free text List.mem_cons_self), fun _ => ⟨_, rfl⟩⟩
    | none =>
      have free : ¬ claimed text := by
        intro taken
        obtain ⟨owner, other⟩ := (claims text).mpr taken
        rw [found] at other
        cases other
      refine ((inductionHypothesis others (claims.put feature text)).congr ?_).imp ?_
      · rw [List.forall_mem_cons, and_iff_right free]
        refine forall₂_congr fun other listed => not_congr (or_iff_left ?_).symm
        rintro rfl
        exact fresh listed
      · exact fun later claims => claims.congr fun resource => by rw [List.mem_cons, or_assoc]

/-- Two features list no resource both. -/
def Apart (first second : String × Value) : Prop :=
  ∀ resource ∈ resourcesOf first, resource ∉ resourcesOf second

variable {excluded : List String} {owners : Owners} {claimed : String → Prop}

/-- A feature is read when it is welcome and lists no resource that has an owner. -/
theorem featureOf_decides {entry : String × Value} (typed : WellTypedFeature entry)
    (claims : Claims owners claimed) :
    Decides (featureOf (excluded.map Path.relative) owners entry.1 entry.2)
      (Welcome excluded entry ∧ ∀ resource ∈ resourcesOf entry, ¬ claimed resource)
      fun read => Reads entry read.1 ∧
        Claims read.2 fun resource => claimed resource ∨ resource ∈ resourcesOf entry := by
  obtain ⟨name, value⟩ := entry
  obtain ⟨spec, rfl⟩ : IsTable value := typed.table
  have entries : textsAt spec "entry_points" = .ok (entriesOf (name, .table spec)) :=
    textsAt_eq typed.entries
  have items : itemsAt spec "resources" = .ok ((resourcesOf (name, .table spec)).map .text) :=
    itemsAt_eq_texts typed.resources
  obtain ⟨kept, distinct, nodup, listed⟩ :=
    distinctResources_eq [] (resourcesOf (name, .table spec))
  have claiming := claimResources_decides name nodup claims
  have decides : Decides (featureOf (excluded.map Path.relative) owners name (.table spec))
      (¬ (!isFeatureName name) = true ∧
        ¬ ((entriesOf (name, .table spec)).map Path.relative).isEmpty = true ∧
        ((entriesOf (name, .table spec)).map Path.relative).find?
          (fun entry => (excluded.map Path.relative).any (liesIn entry)) = none ∧
        ∀ resource ∈ kept, ¬ claimed resource)
      fun read => Reads (name, .table spec) read.1 ∧ Claims read.2 fun resource =>
        claimed resource ∨ resource ∈ resourcesOf (name, .table spec) := by
    unfold featureOf
    refine .guard fun _ => .bind_ok rfl (.bind_ok entries (.guard fun _ => ?_))
    dsimp only
    cases found : ((entriesOf (name, .table spec)).map Path.relative).find?
        (fun entry => (excluded.map Path.relative).any (liesIn entry)) with
    | some entry => exact ⟨fun both => by simp at both, fun _ => ⟨_, rfl⟩⟩
    | none =>
      refine Decides.congr ?_ (and_iff_right rfl)
      refine .bind_ok items (.bind_ok distinct (claiming.finish fun later claims => ?_))
      refine ⟨⟨rfl, rfl, fun resource => ?_⟩, claims.congr fun resource => ?_⟩
      · simp [listed]
      · simp [listed]
  refine decides.congr ?_
  have checks : Welcome excluded (name, .table spec) ↔ isFeatureName name = true ∧
      entriesOf (name, .table spec) ≠ [] ∧ ∀ entry ∈ entriesOf (name, .table spec),
        ∀ folder ∈ excluded, liesIn (Path.relative entry) (Path.relative folder) = false := by
    rw [isFeatureName_iff]
    exact ⟨fun welcome => ⟨welcome.named, welcome.entered, welcome.outside⟩,
      fun ⟨named, entered, outside⟩ => ⟨named, entered, outside⟩⟩
  rw [checks]
  simp [listed, and_assoc]

/-- Features are read when each of them is welcome and no two list one resource. -/
theorem featuresOf_decides {named : List (String × Value)}
    (typed : ∀ entry ∈ named, WellTypedFeature entry) (claims : Claims owners claimed) :
    Decides (featuresOf (excluded.map Path.relative) owners named)
      ((∀ entry ∈ named, Welcome excluded entry) ∧ named.Pairwise Apart ∧
        ∀ entry ∈ named, ∀ resource ∈ resourcesOf entry, ¬ claimed resource)
      fun features => List.Forall₂ Reads named features := by
  induction named generalizing owners claimed with
  | nil => exact (Decides.of_ok .nil).congr (by simp)
  | cons entry rest inductionHypothesis =>
    obtain ⟨one, others⟩ := List.forall_mem_cons.mp typed
    have decides : Decides (featuresOf (excluded.map Path.relative) owners (entry :: rest))
        ((Welcome excluded entry ∧ ∀ resource ∈ resourcesOf entry, ¬ claimed resource) ∧
          ((∀ other ∈ rest, Welcome excluded other) ∧ rest.Pairwise Apart ∧ ∀ other ∈ rest,
            ∀ resource ∈ resourcesOf other, ¬ (claimed resource ∨ resource ∈ resourcesOf entry)))
        fun features => List.Forall₂ Reads (entry :: rest) features :=
      (featureOf_decides one claims).bind fun read result =>
        (inductionHypothesis others result.2).finish fun features reads => .cons result.1 reads
    refine decides.congr ?_
    have apart : (∀ other ∈ rest, Apart entry other) ↔ ∀ other ∈ rest,
        ∀ resource ∈ resourcesOf other, resource ∉ resourcesOf entry :=
      forall₂_congr fun other _ =>
        ⟨fun apart resource listed also => apart resource also listed,
          fun apart resource also listed => apart resource listed also⟩
    rw [List.forall_mem_cons, List.forall_mem_cons, List.pairwise_cons, apart]
    simp only [not_or, forall_and]
    tauto

end Features

section Others

/-- A known operation is named. -/
def NamesOperation (value : Value) : Prop :=
  ∃ name operation, value = .text name ∧ Operation.ofText? name = some operation

theorem operationOf_decides (value : Value) :
    Decides (operationOf value) (NamesOperation value) fun _ => True := by
  cases value with
  | text name =>
    rw [operationOf]
    cases known : Operation.ofText? name with
    | some operation => exact ⟨fun _ => ⟨operation, rfl, trivial⟩, fun unknown =>
        absurd ⟨name, operation, rfl, known⟩ unknown⟩
    | none =>
      refine ⟨?_, fun _ => ⟨_, rfl⟩⟩
      rintro ⟨other, operation, same, also⟩
      obtain rfl := Value.text.inj same
      rw [known] at also
      cases also
  | _ =>
    constructor
    · rintro ⟨name, operation, same, -⟩
      cases same
    · exact fun _ => ⟨_, rfl⟩

theorem callsOf_decides (calls : List (String × Value)) :
    Decides (callsOf calls) (∀ call ∈ calls, NamesOperation call.2) fun _ => True := by
  induction calls with
  | nil => exact (Decides.of_ok trivial).congr (by simp)
  | cons call rest inductionHypothesis =>
    rw [callsOf, List.forall_mem_cons]
    have remaining (operation : Operation) :
        Decides (do return (call.1, operation) :: (← callsOf rest))
          (∀ other ∈ rest, NamesOperation other.2) fun _ => True :=
      inductionHypothesis.finish fun _ _ => trivial
    exact (operationOf_decides call.2).bind fun operation _ => remaining operation

theorem bucketsOf_decides (bucket : SymbolKind → Value) (folders : List (String × Value)) :
    Decides (bucketsOf bucket folders)
      (∀ folder ∈ folders, ∃ kind, SymbolKind.ofText? folder.1 = some kind) fun _ => True := by
  induction folders generalizing bucket with
  | nil => exact (Decides.of_ok trivial).congr (by simp)
  | cons folder rest inductionHypothesis =>
    rw [List.forall_mem_cons, bucketsOf]
    cases known : SymbolKind.ofText? folder.1 with
    | some kind => exact (inductionHypothesis _).congr (by simp)
    | none => exact ⟨fun both => by simp at both, fun _ => ⟨_, rfl⟩⟩

/-- The storage interface is read when all of its operations are known. -/
theorem storageOf_decides {inner : List (String × Value)} (typed : Kinded inner "calls" IsTable) :
    Decides (storageOf (.table inner)) (∀ call ∈ tableIn inner "calls", NamesOperation call.2)
      fun _ => True := by
  unfold storageOf tableIn
  dsimp only
  cases given : Value.setting? inner "calls" with
  | none => exact (Decides.of_ok trivial).congr (by simp)
  | some value =>
    obtain ⟨calls, rfl⟩ := typed value given
    have decides : Decides ((callsOf calls).map Ledger.ofList)
        (∀ call ∈ calls, NamesOperation call.2) fun _ => True :=
      (callsOf_decides calls).map fun _ _ => trivial
    exact .bind_ok rfl (decides.finish fun _ _ => trivial)

theorem fieldOf_decides (fields : List (String × Value)) (key : String) :
    Decides (fieldOf fields key) (∃ value, Value.setting? fields key = some value)
      fun value => Value.setting? fields key = some value := by
  rw [fieldOf]
  cases given : Value.setting? fields key with
  | some value => exact ⟨fun _ => ⟨value, rfl, rfl⟩, fun missing => absurd ⟨value, rfl⟩ missing⟩
  | none => exact ⟨fun ⟨_, same⟩ => (by cases same), fun _ => ⟨_, rfl⟩⟩

/-- What a contract entry has to say. -/
structure Complete (fields : List (String × Value)) : Prop where
  name : ∃ value, Value.setting? fields "name" = some value
  operation : ∃ value, Value.setting? fields "operation" = some value ∧ NamesOperation value
  resource : ∃ value, Value.setting? fields "resource" = some value
  path : ∃ value, Value.setting? fields "path" = some value

/-- The kinds of values of a contract entry. -/
structure WellTypedEntry (entry : Value) : Prop where
  table : IsTable entry
  method : Kinded (partsOf entry) "method" IsText
  params : Kinded (partsOf entry) "params" IsList

/-- A contract entry is read when it is complete. -/
theorem entryOf_decides {entry : Value} (typed : WellTypedEntry entry) :
    Decides (entryOf entry) (Complete (partsOf entry)) fun _ => True := by
  obtain ⟨fields, rfl⟩ := typed.table
  obtain ⟨method, capitals⟩ : ∃ method, methodOf fields = .ok method := by
    unfold methodOf
    cases given : Value.setting? fields "method" with
    | none => exact ⟨_, rfl⟩
    | some value =>
      obtain ⟨content, rfl⟩ := typed.method value given
      exact ⟨_, rfl⟩
  have params : itemsAt fields "params" = _ := itemsAt_eq typed.params
  have field (key : String) := fieldOf_decides fields key
  have decides : Decides (entryOf (.table fields))
      ((∃ value, Value.setting? fields "name" = some value) ∧
        (∃ value, Value.setting? fields "operation" = some value) ∧
        (∃ value, Value.setting? fields "operation" = some value ∧ NamesOperation value) ∧
        (∃ value, Value.setting? fields "resource" = some value) ∧
        (∃ value, Value.setting? fields "path" = some value) ∧ True) fun _ => True := by
    refine (field "name").bind fun name _ => (field "operation").bind fun operation given => ?_
    have known : Decides (operationOf operation)
        (∃ value, Value.setting? fields "operation" = some value ∧ NamesOperation value)
        fun _ => True := (operationOf_decides operation).congr (by simp [given])
    exact known.bind fun _ _ => (field "resource").bind fun resource _ => .bind_ok capitals
      ((field "path").bind fun path _ => .bind_ok params (.of_ok trivial))
  refine decides.congr ⟨fun complete => ?_, fun fields => ?_⟩
  · obtain ⟨value, given, names⟩ := complete.operation
    exact ⟨complete.name, ⟨value, given⟩, complete.operation, complete.resource, complete.path,
      trivial⟩
  · exact ⟨fields.1, fields.2.2.1, fields.2.2.2.1, fields.2.2.2.2.1⟩

end Others

section Whole

variable {settings : List (String × Value)}

/-- The number of jobs that is set, or the usual one. -/
def jobsIn (settings : List (String × Value)) : Int :=
  match Value.setting? settings "jobs" with
  | some (.integer number) => number
  | _ => 4

/-- The kinds of values of a configuration. Values that are only passed on may be of any kind. -/
structure WellTyped (settings : List (String × Value)) : Prop where
  root : Kinded settings "source_root" IsText
  excluded : Kinded settings "excluded" IsTexts
  features : Kinded settings "features" IsTableOrNull
  each : ∀ feature ∈ tableIn settings "features", WellTypedFeature feature
  buckets : Kinded settings "kind_buckets" IsTableOrNull
  jobs : Kinded settings "jobs" IsInteger
  retain : Kinded settings "retain" IsList
  persistence : Kinded settings "persistence" IsTableOrNull
  calls : Kinded (tableIn settings "persistence") "calls" IsTable
  contract : Kinded settings "contract" IsList
  entries : ∀ entry ∈ listIn settings "contract", WellTypedEntry entry

/-- The folder of the source tree is a path that a disk can have. -/
def IsUsableRoot (settings : List (String × Value)) : Prop :=
  Kinded settings "source_root" fun value => Path.isBroken value.content = false

/-- What is checked of a configuration. -/
structure Acceptable (settings : List (String × Value)) : Prop where
  filled : tableIn settings "features" ≠ []
  each : ∀ feature ∈ tableIn settings "features", Welcome (textsIn settings "excluded") feature
  apart : (tableIn settings "features").Pairwise Apart
  buckets : ∀ folder ∈ tableIn settings "kind_buckets",
    ∃ kind, SymbolKind.ofText? folder.1 = some kind
  jobs : 1 ≤ jobsIn settings
  operations : ∀ call ∈ tableIn (tableIn settings "persistence") "calls", NamesOperation call.2
  contract : ∀ entry ∈ listIn settings "contract", Complete (partsOf entry)

/-- What the features of a scope are, and which folders are excluded. -/
structure Describes (settings : List (String × Value)) (scope : Scope) : Prop where
  features : List.Forall₂ Reads (tableIn settings "features") scope.features
  excluded : scope.excluded = (textsIn settings "excluded").map Path.relative

/-- A storage interface is read off its table; there is none in an empty table. -/
theorem persistence_cases (typed : WellTyped settings) :
    ((settingOrNull settings "persistence").isGiven = true ∧
      settingOrNull settings "persistence" = .table (tableIn settings "persistence")) ∨
    ((settingOrNull settings "persistence").isGiven = false ∧
      tableIn settings "persistence" = []) := by
  unfold settingOrNull tableIn
  cases given : Value.setting? settings "persistence" with
  | none => exact Or.inr ⟨rfl, rfl⟩
  | some value =>
    rcases typed.persistence value given with rfl | ⟨inner, rfl⟩
    · exact Or.inr ⟨rfl, rfl⟩
    · cases inner with
      | nil => exact Or.inr ⟨rfl, rfl⟩
      | cons setting others => exact Or.inl ⟨rfl, rfl⟩

/-- A configuration with values of the expected types is accepted when it passes all checks. -/
theorem ofValue_decides (base : Location) (typed : WellTyped settings)
    (usable : IsUsableRoot settings) :
    Decides (ofValue base (.table settings)) (Acceptable settings) (Describes settings) := by
  obtain ⟨root, found⟩ : ∃ root, rootOf base settings = .ok root := by
    unfold rootOf settingOr
    cases given : Value.setting? settings "source_root" with
    | none => exact ⟨_, rfl⟩
    | some value =>
      obtain ⟨path, rfl⟩ := typed.root value given
      have intact : Path.isBroken path = false := usable _ given
      exact ⟨base.follow path, by simp [textOf, intact, bind, Except.bind, pure, Except.pure]⟩
  have jobs : numberOf ((Value.setting? settings "jobs").getD (.integer 4)) =
      .ok (jobsIn settings) := by
    unfold jobsIn
    cases given : Value.setting? settings "jobs" with
    | none => rfl
    | some value =>
      obtain ⟨number, rfl⟩ := typed.jobs value given
      rfl
  have unclaimed : Claims .empty fun _ => False := fun resource => by simp
  have features : Decides
      (featuresOf ((textsIn settings "excluded").map Path.relative) .empty
        (tableIn settings "features")) _ _ := featuresOf_decides typed.each unclaimed
  have contract : Decides ((listIn settings "contract").mapM entryOf)
      (∀ entry ∈ listIn settings "contract", Complete (partsOf entry)) fun _ => True :=
    .mapM fun entry listed => entryOf_decides (typed.entries entry listed)
  have decides : Decides (ofValue base (.table settings))
      (¬ (tableIn settings "features").isEmpty = true ∧
        ((∀ feature ∈ tableIn settings "features", Welcome (textsIn settings "excluded") feature) ∧
          (tableIn settings "features").Pairwise Apart ∧
          ∀ feature ∈ tableIn settings "features", ∀ resource ∈ resourcesOf feature, ¬ False) ∧
        (∀ folder ∈ tableIn settings "kind_buckets",
          ∃ kind, SymbolKind.ofText? folder.1 = some kind) ∧
        ¬ jobsIn settings < 1 ∧
        (∀ call ∈ tableIn (tableIn settings "persistence") "calls", NamesOperation call.2) ∧
        ∀ entry ∈ listIn settings "contract", Complete (partsOf entry))
      (Describes settings) := by
    unfold ofValue
    refine .bind_ok rfl (.bind_ok found (.bind_ok (textsAt_eq typed.excluded)
      (.bind_ok (tableAt_eq typed.features) (.guard fun _ => features.bind fun read reads =>
        .bind_ok (tableAt_eq typed.buckets) ((bucketsOf_decides _ _).bind fun bucket _ =>
          .bind_ok jobs (.guard fun _ => .bind_ok (itemsAt_eq typed.retain) ?_))))))
    dsimp only
    rcases persistence_cases typed with ⟨given, table⟩ | ⟨none, empty⟩
    · rw [if_pos given, table]
      exact (storageOf_decides typed.calls).bind fun storage _ =>
        .bind_ok (itemsAt_eq typed.contract) (contract.finish fun _ _ => ⟨reads, rfl⟩)
    · rw [if_neg (by rw [none]; exact Bool.false_ne_true), empty]
      refine Decides.congr (.bind_ok rfl (.bind_ok (itemsAt_eq typed.contract)
        (contract.finish fun _ _ => ⟨reads, rfl⟩))) ?_
      exact and_iff_right (fun _ absent => absurd absent List.not_mem_nil)
  refine decides.congr ⟨fun fits => ?_, fun fits => ?_⟩
  · exact ⟨by simpa using fits.filled, ⟨fits.each, fits.apart, fun _ _ _ _ => not_false⟩,
      fits.buckets, by simpa using fits.jobs, fits.operations, fits.contract⟩
  · obtain ⟨filled, ⟨each, apart, -⟩, buckets, jobs, operations, contract⟩ := fits
    exact ⟨by simpa using filled, each, apart, buckets, by simpa using jobs, operations, contract⟩

/-- Only texts are told apart like texts. -/
theorem key?_eq_text_iff {value : Value} {content : String} :
    value.key? = some (.text content) ↔ value = .text content := by
  cases value with
  | decimal number =>
    refine ⟨fun same => ?_, fun same => by cases same⟩
    cases number with
    | finite negative mantissa exponent =>
      simp only [Value.key?, Value.decimalKey, Option.some.injEq] at same
      split_ifs at same
    | _ => cases same
  | _ => simp [Value.key?]

/-- The owner of a resource lists it, and when there is no owner nobody lists it. -/
theorem ownerOf_cases (scope : Scope) (resource : String) :
    (∃ feature ∈ scope.features, .text resource ∈ feature.resources ∧
      scope.ownerOf (.text resource) = some feature.name) ∨
    ((∀ feature ∈ scope.features, .text resource ∉ feature.resources) ∧
      scope.ownerOf (.text resource) = none) := by
  have lists (feature : Feature) :
      (feature.resources.any fun listed => listed.key? == some (.text resource)) = true ↔
        .text resource ∈ feature.resources := by
    simp only [List.any_eq_true, beq_iff_eq, key?_eq_text_iff, exists_eq_right]
  unfold ownerOf
  cases found : scope.features.find? fun feature =>
      feature.resources.any (·.key? == some (.text resource)) with
  | some feature =>
    have holds := List.find?_some found
    exact Or.inl ⟨feature, List.mem_of_find?_eq_some found, (lists feature).mp holds, rfl⟩
  | none =>
    refine Or.inr ⟨fun feature listed => ?_, rfl⟩
    exact mt (lists feature).mpr (List.find?_eq_none.mp found feature listed)

instance : Std.Symm Apart := ⟨fun _ _ apart resource listed also => apart resource also listed⟩

/-- A resource that a feature lists is owned by this feature, in whatever order the features stand.
-/
theorem ownerOf_eq {scope : Scope} (accepted : Acceptable settings)
    (described : Describes settings scope) {features : List Feature}
    (order : features.Perm scope.features) (resource : String) :
    (∀ entry ∈ tableIn settings "features", resource ∈ resourcesOf entry →
      ({ scope with features } : Scope).ownerOf (.text resource) = some entry.1) ∧
    ((∀ entry ∈ tableIn settings "features", resource ∉ resourcesOf entry) →
      ({ scope with features } : Scope).ownerOf (.text resource) = none) := by
  have listing {feature : Feature} (among : feature ∈ features)
      (lists : .text resource ∈ feature.resources) :
      ∃ entry ∈ tableIn settings "features", resource ∈ resourcesOf entry ∧
        feature.name = entry.1 := by
    obtain ⟨entry, listed, reads⟩ :=
      exists_of_rel_mem described.features.flip (order.mem_iff.mp among)
    exact ⟨entry, listed, (reads.resources resource).mp lists, reads.name⟩
  rcases ownerOf_cases { scope with features } resource with
    ⟨feature, among, lists, owned⟩ | ⟨unlisted, unowned⟩
  · obtain ⟨other, listed, also, name⟩ := listing among lists
    rw [owned, name]
    refine ⟨fun entry declared has => ?_, fun none => absurd also (none other listed)⟩
    by_contra differs
    have distinct : other ≠ entry := fun same => differs (by rw [same])
    exact accepted.apart.forall listed declared distinct resource also has
  · refine ⟨fun entry declared has => ?_, fun _ => unowned⟩
    obtain ⟨feature, among, reads⟩ := exists_of_rel_mem described.features declared
    exact absurd ((reads.resources resource).mpr has) (unlisted feature (order.mem_iff.mpr among))

/-- A configuration with values of the expected types is accepted exactly when it passes all checks,
and is refused otherwise. In an accepted scope no entry point is excluded, and each resource is
owned by the one feature that lists it, in whatever order the features stand. -/
theorem ofValue_exact (base : Location) (typed : WellTyped settings)
    (usable : IsUsableRoot settings) :
    ((∃ scope, ofValue base (.table settings) = .ok scope) ↔ Acceptable settings) ∧
    (¬ Acceptable settings →
      ∃ problem, ofValue base (.table settings) = .error (.refused problem)) ∧
    ∀ scope, ofValue base (.table settings) = .ok scope →
      List.Forall₂ Reads (tableIn settings "features") scope.features ∧
      (∀ feature ∈ scope.features, ∀ entry ∈ feature.entryPoints,
        scope.isExcluded entry = false) ∧
      ∀ features, features.Perm scope.features → ∀ resource,
        (∀ entry ∈ tableIn settings "features", resource ∈ resourcesOf entry →
          ({ scope with features } : Scope).resourceOwner (.text resource) =
            .ok (some entry.1)) ∧
        ((∀ entry ∈ tableIn settings "features", resource ∉ resourcesOf entry) →
          ({ scope with features } : Scope).resourceOwner (.text resource) = .ok none) := by
  have decides := ofValue_decides base typed usable
  refine ⟨decides.exists_ok_iff, decides.refuses, fun scope accepted => ?_⟩
  have passed := decides.exists_ok_iff.mp ⟨scope, accepted⟩
  have described := decides.of_eq_ok accepted
  refine ⟨described.features,
    fun feature listed => (ofValue_admitted accepted feature listed).inside,
    fun features order resource => ?_⟩
  obtain ⟨owned, unowned⟩ := ownerOf_eq passed described order resource
  rw [resourceOwner_text]
  exact ⟨fun entry declared has => by rw [owned entry declared has],
    fun none => by rw [unowned none]⟩

end Whole

section Drafts

/-- A configuration of two features, one of which owns a resource. -/
def draftSettings : List (String × Value) :=
  [("source_root", .text "src"), ("excluded", .list [.text "legacy/"]),
    ("features", .table [
      ("one", .table [("entry_points", .list [.text "pages/OnePage.tsx"]),
        ("resources", .list [.text "draft"])]),
      ("two", .table [("entry_points", .list [.text "pages/TwoPage.tsx"])])]),
    ("kind_buckets", .table [("page", .text "views")]), ("jobs", .integer 2),
    ("persistence", .table [("calls", .table [("localStorage.getItem", .text "read")])]),
    ("contract", .list [.table [("name", .text "getDraft"), ("operation", .text "read"),
      ("resource", .text "draft"), ("path", .text "/draft")]])]

theorem draftSettings_wellTyped : WellTyped draftSettings where
  root := .of_some rfl ⟨_, rfl⟩
  excluded := .of_some rfl ⟨["legacy/"], rfl⟩
  features := .of_some rfl (Or.inr ⟨_, rfl⟩)
  each := List.forall_mem_cons.mpr
    ⟨⟨⟨_, rfl⟩, .of_some rfl ⟨["pages/OnePage.tsx"], rfl⟩, .of_some rfl ⟨["draft"], rfl⟩⟩,
      List.forall_mem_singleton.mpr
        ⟨⟨_, rfl⟩, .of_some rfl ⟨["pages/TwoPage.tsx"], rfl⟩, .of_none rfl⟩⟩
  buckets := .of_some rfl (Or.inr ⟨_, rfl⟩)
  jobs := .of_some rfl ⟨_, rfl⟩
  retain := .of_none rfl
  persistence := .of_some rfl (Or.inr ⟨_, rfl⟩)
  calls := .of_some rfl ⟨_, rfl⟩
  contract := .of_some rfl ⟨_, rfl⟩
  entries := List.forall_mem_singleton.mpr ⟨⟨_, rfl⟩, .of_none rfl, .of_none rfl⟩

theorem draftSettings_acceptable : Acceptable draftSettings where
  filled := List.cons_ne_nil _ _
  each := List.forall_mem_cons.mpr
    ⟨⟨Or.inl (by decide), List.cons_ne_nil _ _, by decide⟩,
      List.forall_mem_singleton.mpr ⟨Or.inl (by decide), List.cons_ne_nil _ _, by decide⟩⟩
  apart := List.pairwise_pair.mpr fun _ _ => List.not_mem_nil
  buckets := List.forall_mem_singleton.mpr ⟨.page, rfl⟩
  jobs := by decide
  operations := List.forall_mem_singleton.mpr ⟨_, .read, rfl, rfl⟩
  contract := List.forall_mem_singleton.mpr
    ⟨⟨_, rfl⟩, ⟨_, rfl, _, .read, rfl, rfl⟩, ⟨_, rfl⟩, ⟨_, rfl⟩⟩

/-- The resource of the first feature is its own, also when the second one stands in front. -/
theorem ofValue_exact_draft : WellTyped draftSettings ∧ IsUsableRoot draftSettings ∧
    ∃ scope, ofValue [] (.table draftSettings) = .ok scope ∧
      ({ scope with features := scope.features.reverse } : Scope).resourceOwner (.text "draft") =
        .ok (some "one") ∧
      scope.resourceOwner (.text "other") = .ok none := by
  have usable : IsUsableRoot draftSettings := .of_some rfl (by decide)
  refine ⟨draftSettings_wellTyped, usable, ?_⟩
  obtain ⟨accepts, -, results⟩ := ofValue_exact [] draftSettings_wellTyped usable
  obtain ⟨scope, accepted⟩ := accepts.mpr draftSettings_acceptable
  obtain ⟨-, -, owned⟩ := results scope accepted
  refine ⟨scope, accepted, ?_, ?_⟩
  · exact (owned _ (List.reverse_perm _) "draft").1 _ List.mem_cons_self (by decide)
  · exact (owned _ (.refl _) "other").2 (by decide)

/-- A line break behind the name of a feature is accepted as part of it, and a folder that no disk
can have is not refused: reading breaks off. -/
theorem ofValue_missed :
    (ofValue [] (.table [("features",
        .table [("one\n", .table [("entry_points", .list [.text "a.ts"])])])])).map
      (fun scope => scope.features.map (·.name)) = .ok ["one\n"] ∧
    isPlainName "one\n".toList = false ∧
    ofValue [] (.table [("source_root", .text "a\x00b"), ("features",
        .table [("one", .table [("entry_points", .list [.text "a.ts"])])])]) =
      .error (.unusable .brokenPath) :=
  ⟨rfl, by decide, rfl⟩

end Drafts

end Scope

end FeatureLayout
