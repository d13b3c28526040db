import FeatureLayout.Proofs.Disk.Actions

/-!
# Actions that only read

`DiskM.Answers` gives the exact outcome of an action that leaves the disk as it is. Outcomes are
composed like attempts: what reading a disk step by step gives is the attempt that goes through the
outcomes of the steps.
-/

namespace FeatureLayout

namespace DiskM

variable {α β : Type} {start : Disk}

/-- An action leaves a disk as it is, and has an outcome there. -/
def Answers (start : Disk) (action : DiskM α) (outcome : Except Fault α) : Prop :=
  action.run.run ⟨start, none⟩ = (outcome, ⟨start, none⟩)

theorem Answers.runOn {action : DiskM α} {outcome : Except Fault α}
    (answers : Answers start action outcome) : runOn action start = (outcome, start) := by
  rw [DiskM.runOn, answers]

/-- An action with an outcome only reads. -/
theorem Answers.reads {action : DiskM α} {outcome : Except Fault α}
    (answers : Answers start action outcome) :
    Reads start action fun answer => outcome = .ok answer := by
  rintro _ rfl
  cases outcome with
  | ok answer => exact Or.inl ⟨answer, _, answers, rfl, rfl⟩
  | error problem => exact Or.inr ⟨problem, _, answers, rfl⟩

theorem answers_pure (answer : α) : Answers start (pure answer) (.ok answer) := rfl

theorem answers_throw (problem : Fault) :
    Answers start (throw problem : DiskM α) (.error problem) := rfl

/-- The outcome of two actions is that of the first followed by that of the second. -/
theorem Answers.bind {action : DiskM α} {outcome : Except Fault α} {next : α → DiskM β}
    (first : Answers start action outcome) (later : α → Except Fault β)
    (second : ∀ answer, outcome = .ok answer → Answers start (next answer) (later answer)) :
    Answers start (action >>= next) (outcome >>= later) := by
  rw [Answers, Fault.run_bind, first]
  cases outcome with
  | ok answer => exact second answer rfl
  | error problem => rfl

/-- A fault is answered by what catches it. -/
theorem Answers.catching {action : DiskM α} {outcome : Except Fault α}
    {handler : Fault → DiskM α} (first : Answers start action outcome)
    (caught : Fault → Except Fault α)
    (second : ∀ problem, outcome = .error problem →
      Answers start (handler problem) (caught problem)) :
    Answers start (tryCatch action handler) (tryCatch outcome caught) := by
  rw [Answers, Fault.run_tryCatch, first]
  cases outcome with
  | ok answer => rfl
  | error problem => exact second problem rfl

/-- Looking something up has the outcome of the look-up. -/
theorem answers_look (find : Disk → Except DiskProblem α) :
    Answers start (look find) ((find start).mapError Fault.disk) :=
  run_look find ⟨start, none⟩

/-- Reading one thing after another gives all that is read. -/
theorem answers_mapM {step : β → DiskM α} {value : β → α} (items : List β)
    (each : ∀ item, Answers start (step item) (.ok (value item))) :
    Answers start (items.mapM step) (.ok (items.map value)) := by
  induction items with
  | nil => exact answers_pure []
  | cons item rest inductionHypothesis =>
    rw [List.mapM_cons]
    have others : Answers start (rest.mapM step >>= fun values => pure (value item :: values))
        (.ok (value item :: rest.map value)) :=
      inductionHypothesis.bind (fun values => .ok (value item :: values))
        fun values _ => answers_pure (value item :: values)
    exact (each item).bind (fun first => .ok (first :: rest.map value)) fun first same =>
      Except.ok.inj same ▸ others

end DiskM

end FeatureLayout
