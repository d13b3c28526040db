import FeatureLayout.Console.Screen
import FeatureLayout.Migration
import FeatureLayout.Scope.Load

/-!
# The command line

Three commands work on a configuration file: `plan` shows where every file would go, `migrate`
writes the target tree, and `explain` gives the reasons for one file.

Options may stand anywhere behind the command. A long option takes its value behind `=` or as the
next argument, short ones may be joined, and behind `--` there are only arguments. A command line
that does not fit ends with the exit code 2, as does a refused configuration or destination; a
failed migration ends with 1.
-/

namespace FeatureLayout

open Text FileSystem

/-- What the program is asked to do. -/
inductive Command where
  | plan (config : String) (json : Bool)
  | migrate (config destination : String) (dryRun : Bool) (report : Option String)
  | explain (config file : String) (json : Bool)
  deriving DecidableEq, Repr

/-- The paths on the disk that a command is given. -/
def Command.paths : Command → List String
  | plan config _ | explain config _ _ => [config]
  | migrate config destination _ report => config :: destination :: report.toList

/-- The options of the commands. -/
inductive CommandOption where
  | json
  | verbose
  | dryRun
  | report
  | help
  deriving DecidableEq, Repr

namespace CommandOption

/-- Whether an option takes a value. -/
def takesValue : CommandOption → Bool
  | report => true
  | _ => false

/-- The option with a long name. -/
def ofLong? : String → Option CommandOption
  | "json" => some json
  | "verbose" => some verbose
  | "dry-run" => some dryRun
  | "report" => some report
  | "help" => some help
  | _ => none

/-- The option with a letter. -/
def ofLetter? : Char → Option CommandOption
  | 'j' => some json
  | 'v' => some verbose
  | 'n' => some dryRun
  | 'r' => some report
  | _ => none

end CommandOption

/-- An option with its value, which is empty for options that take none. -/
abbrev GivenOption := CommandOption × String

/-- The options and the arguments of a command. -/
structure Given where
  options : List GivenOption
  arguments : List String

/-- Why the command line does not fit. -/
inductive UsageProblem where
  | wrongUse
  /-- Not a problem: an explanation of the use is asked for. -/
  | helpAsked
  deriving DecidableEq, Repr

namespace CommandLine

/-- Reads joined letters of options; the last of them may take what follows as its value. -/
def letters (allowed : List CommandOption) :
    List Char → List String → Except UsageProblem (List GivenOption × List String)
  | [], rest => .ok ([], rest)
  | letter :: more, rest =>
    match (CommandOption.ofLetter? letter).filter allowed.contains with
    | none => .error .wrongUse
    | some option =>
      if option.takesValue then
        match more, rest with
        | [], [] => .error .wrongUse
        | [], value :: rest => .ok ([(option, value)], rest)
        | more, rest => .ok ([(option, String.ofList more)], rest)
      else (letters allowed more rest).map fun (options, rest) => ((option, "") :: options, rest)

/-- Reads a long option, which may take the next argument as its value. -/
def longOption (allowed : List CommandOption) (text : List Char) (rest : List String) :
    Except UsageProblem (List GivenOption × List String) :=
  let name := String.ofList (text.takeWhile (· != '='))
  match (CommandOption.ofLong? name).filter allowed.contains with
  | none => .error .wrongUse
  | some option =>
    match option.takesValue, text.dropWhile (· != '='), rest with
    | true, _ :: value, rest => .ok ([(option, String.ofList value)], rest)
    | true, [], value :: rest => .ok ([(option, value)], rest)
    | true, [], [] => .error .wrongUse
    | false, [], rest => .ok ([(option, "")], rest)
    | false, _ :: _, _ => .error .wrongUse

/-- Sorts what follows a command into options and arguments; `fuel` bounds the number of steps. -/
def sort (allowed : List CommandOption) : Nat → List String → Except UsageProblem Given
  | 0, rest => .ok ⟨[], rest⟩
  | _, [] => .ok ⟨[], []⟩
  | fuel + 1, first :: rest =>
    match first.toList with
    | '-' :: '-' :: [] => .ok ⟨[], rest⟩
    | '-' :: c :: more => do
      let (options, rest) ←
        if c = '-' then longOption allowed more rest else letters allowed (c :: more) rest
      let given ← sort allowed fuel rest
      return ⟨options ++ given.options, given.arguments⟩
    | _ => do
      let given ← sort allowed fuel rest
      return ⟨given.options, first :: given.arguments⟩

namespace Given

/-- Whether an option is given. -/
def has (given : Given) (option : CommandOption) : Bool := given.options.any (·.1 = option)

/-- The last value given for an option. -/
def value? (given : Given) (option : CommandOption) : Option String :=
  ((given.options.filter (·.1 = option)).getLast?).map (·.2)

end Given

/-- The options of a command. -/
def allowed : String → Option (List CommandOption)
  | "plan" => some [.json, .verbose, .help]
  | "migrate" => some [.dryRun, .report, .verbose, .help]
  | "explain" => some [.json, .help]
  | _ => none

/-- The command that options and arguments make. -/
def command (name : String) (given : Given) : Except UsageProblem Command :=
  if Given.has given .help then .error .helpAsked
  else
    match name, given.arguments with
    | "plan", [config] => .ok (.plan config (Given.has given .json))
    | "migrate", [config, destination] =>
      .ok (.migrate config destination (Given.has given .dryRun) (Given.value? given .report))
    | "explain", [config, file] => .ok (.explain config file (Given.has given .json))
    | _, _ => .error .wrongUse

/-- Reads a command line. -/
def parse (arguments : List String) : Except UsageProblem Command :=
  let arguments :=
    match arguments with
    | "--" :: rest => rest
    | arguments => arguments
  match arguments with
  | [] => .error .wrongUse
  | "--help" :: _ => .error .helpAsked
  | name :: rest =>
    match allowed name with
    | none => .error .wrongUse
    | some options => (sort options (rest.length + 1) rest).bind (command name)

/-- The style of an owner. -/
def ownerStyle (owner : String) : String :=
  if owner = Owner.shared.text then "magenta" else "yellow"

/-- A refused configuration. -/
def refusal (problem : ConfigProblem) : Block :=
  .marked ("[red]Config error:[/red] " ++ Markup.escape problem.message)

/-- A list of findings under a title. -/
def violationBlocks (violations : List Violation) (title style : String) : List Block :=
  if violations.isEmpty then []
  else
    .marked ("\n" ++ Markup.styled style
      (title ++ " (" ++ toString violations.length ++ "):")) ::
    violations.map fun violation =>
      .marked ("  " ++ Markup.styled style violation.code.text ++ " " ++
        Markup.escape violation.message)

/-- The table of planned moves. -/
def planTable (analysis : Analysis) : Table :=
  { title := "Classification"
    head := ["Source", "Owner", "Kind", "Destination"]
    rows := analysis.layout.orderedMoves.map fun move =>
      [move.source, Markup.styled (ownerStyle move.owner.text) move.owner.text, move.kind.text,
        move.destination] }

/-- What `plan` prints. -/
def planBlocks (analysis : Analysis) (json : Bool) : List Block :=
  if json then [.verbatim analysis.toJson.pretty]
  else
    let unreached := analysis.classification.unreached
    [.table (planTable analysis)] ++
    (if unreached.isEmpty then []
      else .marked "\n[dim]Unreached:[/]" ::
        unreached.map fun path => .marked ("  " ++ Markup.styled "dim" path)) ++
    (analysis.classification.cycles.map fun cycle =>
      .marked ("[yellow]Cycle:[/] " ++ joinWith " <-> " cycle)) ++
    violationBlocks (analysis.violations.filter Violation.isFatal) "Violations" "red"

/-- A chain of imports, one file to a line. -/
def chainBlocks : List String → List Block
  | [] => []
  | [last] => [.marked ("    └─ " ++ last)]
  | path :: rest => .marked ("    ├─ " ++ path) :: chainBlocks rest

/-- What `explain` prints. -/
def explainBlocks (explanation : Explanation) (json : Bool) : List Block :=
  if json then [.verbatim explanation.toJson.pretty]
  else
    let owner := Explanation.ownerText explanation.owner
    [.marked ("\n" ++ Markup.styled "bold cyan" explanation.file ++ " -> " ++
      Markup.styled (ownerStyle owner) owner)] ++
    (if explanation.retained then
      [.marked "  [dim]retained as shared infrastructure[/]"] else []) ++
    (if explanation.reaching.isEmpty then
      [.marked "  [dim]No feature entry point reaches this file[/]"] else []) ++
    (explanation.chains.flatMap fun chain =>
      .marked ("  " ++ Markup.styled "green" chain.1 ++ ":") :: chainBlocks chain.2) ++
    (explanation.usedBy.filter (!·.2.isEmpty)).map fun symbol =>
      .marked ("  " ++ Markup.styled "dim" (Markup.escape symbol.1 ++ " used by " ++
        Markup.escape (joinWith ", " symbol.2)))

/-- What `migrate` prints of a report. -/
def reportBlocks (report : Report) (destination : String) : List Block :=
  (report.filesByOwner.map fun group =>
    .marked ("  " ++ Markup.styled (ownerStyle group.1) group.1 ++ ": " ++
      toString group.2.length ++ " files")) ++
  (if report.unreached.isEmpty then []
    else [.marked ("  " ++ Markup.styled "dim"
      ("Unreached: " ++ toString report.unreached.length))]) ++
  [.marked ("  Persistence calls: " ++ toString report.substituted.length ++ " substituted, " ++
    toString report.flagged.length ++ " flagged")] ++
  violationBlocks report.warnings "Warnings" "yellow" ++
  violationBlocks report.fatal "Violations" "red" ++
  [.marked
    (match report.status with
    | .success =>
      "\n[green]SUCCESS[/green] " ++
        if report.dryRun then "(dry run, nothing written)" else "-> " ++ destination
    | .failed => "\n[red]FAILED[/red] destination left unchanged")]

/-- What a command line comes to: the printed text, the exit code, and the fault that ended it if
one did. -/
structure Outcome where
  printed : String
  exitCode : Nat
  fault : Option Fault

namespace Outcome

/-- Prints blocks and ends with an exit code. -/
def ofBlocks (blocks : List Block) (exitCode : Nat) : Outcome :=
  match Block.print blocks with
  | (printed, none) => ⟨printed, exitCode, none⟩
  | (printed, some problem) => ⟨printed, 1, some (.markup problem)⟩

/-- Ends with a fault. -/
def ofFault (fault : Fault) : Outcome := ⟨"", 1, some fault⟩

/-- An outcome after something else was printed. -/
def after (outcome : Outcome) (printed : String) : Outcome :=
  { outcome with printed := printed ++ outcome.printed }

end Outcome

variable {m : Type → Type} [Monad m] [MonadExceptOf Fault m] [FileSystem m]

/-- The answer of actions, or the fault that ended them. -/
def attempt {α : Type} (actions : m α) : m (Except Fault α) := do
  try return .ok (← actions)
  catch problem => return .error problem

/-- Loads a scope and goes on with it. A refused configuration ends the work. -/
def withScope (folder : Location) (config : String) (work : Scope → m Outcome) : m Outcome := do
  match ← attempt (Scope.load folder config (Path.clean config)) with
  | .ok scope => work scope
  | .error (.config problem) => return .ofBlocks [refusal problem] 2
  | .error problem => return .ofFault problem

/-- Runs `plan`. -/
def runPlan (json : Bool) (scope : Scope) : m Outcome := do
  match ← attempt (Migration.analyze scope) with
  | .ok analysis => return .ofBlocks (planBlocks analysis json) 0
  | .error problem => return .ofFault problem

/-- Runs `explain`. -/
def runExplain (file : String) (json : Bool) (scope : Scope) : m Outcome := do
  let actions : m Explanation := do
    Migration.orThrow ((← Migration.analyze scope).explain scope file)
  match ← attempt actions with
  | .ok explanation => return .ofBlocks (explainBlocks explanation json) 0
  | .error (.config problem) =>
    return .ofBlocks [.marked ("[red]" ++ Markup.escape problem.message ++ "[/red]")] 2
  | .error problem => return .ofFault problem

/-- Writes the document of a report into a file. -/
def writeReport (folder : Location) (path : String) (report : Report) : m Unit := do
  if !report.isWritable then throw (.setting .wrongKind)
  write (← walk folder path) (report.toJson.sortKeys.pretty ++ "\n").toUTF8

/-- Runs `migrate`. The display of its progress leaves an empty line. -/
def runMigrate (folder : Location) (destination : String) (dryRun : Bool)
    (reportPath : Option String) (scope : Scope) : m Outcome := do
  match ← attempt (Migration.run scope (folder.follow destination) dryRun) with
  | .error (.config problem) => return .ofBlocks [refusal problem, .verbatim ""] 2
  | .error problem => return (Outcome.ofFault problem).after "\n"
  | .ok run =>
    let writing : m Unit :=
      match reportPath with
      | some path => writeReport folder path run.report
      | none => pure ()
    match ← attempt writing with
    | .error problem => return (Outcome.ofFault problem).after "\n"
    | .ok () =>
      let exitCode := if run.report.status = .failed then 1 else 0
      let blocks := reportBlocks run.report (Path.clean destination)
      return (Outcome.ofBlocks blocks exitCode).after "\n"

/-- Runs a command in a folder. -/
def runCommand (folder : Location) : Command → m Outcome
  | .plan config json => withScope folder config (runPlan json)
  | .migrate config destination dryRun report =>
    withScope folder config (runMigrate folder destination dryRun report)
  | .explain config file json => withScope folder config (runExplain file json)

/-- Runs a command line in a folder. -/
def run (folder : Location) (arguments : List String) : m Outcome :=
  match parse arguments with
  | .error .helpAsked => return ⟨"", 0, none⟩
  | .error .wrongUse => return ⟨"", 2, none⟩
  | .ok command =>
    if command.paths.any Path.isBroken then return .ofFault (.setting .brokenPath)
    else runCommand folder command

end CommandLine

end FeatureLayout
