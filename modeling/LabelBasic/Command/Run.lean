import LabelBasic.Command.ConfigFile
import LabelBasic.Command.Job

namespace LabelBasic

structure Outcome (σ : Type) where
  exitCode : Nat
  standardOutput : Text := []
  standardError : List Text := []
  files : σ

def JobError.report : JobError → List Text
  | expansion e =>
    e.message :: (e.help.map ("diagnostic help: ".toList ++ ·)).toList ++
      ["diagnostic code: ".toList ++ e.code]
  | e => ["error: ".toList ++ e.message]

def Expansion.statistics (x : Expansion) : List Text :=
  ("Expanded: ".toList ++ Text.decimal x.functions.length ++ " functions, ".toList ++
    Text.decimal x.callSites ++ " call sites".toList) ::
  x.functions.map fun d ↦
    "  fn ".toList ++ d.name ++ " -> ".toList ++ (Label.entry d.id).spelling ++
      " (line ".toList ++ Text.decimal d.line ++ ")".toList

namespace Invocation

def options (i : Invocation) (c : Config) : Options :=
  if i.noMarkers then c.expand.set .markers false else c.expand

def job (i : Invocation) (c : Config) : Job := ⟨i.input, i.output, i.options c⟩

end Invocation

namespace Host

variable {σ : Type} (h : Host σ)

/-- How events are shown, with complaints. The first filter from outside that is well formed
counts, and else that of the configuration as far as it is. -/
def logView (configured : Text) : LogView × List Text :=
  match h.logFilters.findSome? h.logFilter? with
  | some view => (view, [])
  | none => h.knownLogFilter configured

def expandWith (files : σ) (i : Invocation) (c : Config) : Outcome σ :=
  let (view, complaints) := h.logView c.logFilter
  let done := h.perform files (i.job c)
  let said := complaints ++ done.log.filterMap view
  match done.result with
  | .error e => {
      exitCode := 1
      standardOutput := done.standardOutput
      standardError := said ++ e.report
      files := done.files }
  | .ok x => {
      exitCode := 0
      standardOutput := done.standardOutput
      standardError := said ++ if i.stats then x.statistics else []
      files := done.files }

def expand (files : σ) (i : Invocation) : Outcome σ :=
  let failed (message : Text) : Outcome σ :=
    { exitCode := 1, standardError := ["error: ".toList ++ message], files := files }
  match h.currentDirectory with
  | .error cause =>
    failed ("Failed to determine the working directory: ".toList ++ cause.message)
  | .ok directory =>
    match h.loadConfig files directory i.config with
    | .error e => failed e.message
    | .ok c => h.expandWith files i c

def run (files : σ) (arguments : List Text) : Outcome σ :=
  match h.commandLine arguments with
  | .error halt =>
    { exitCode := halt.exitCode, standardOutput := halt.standardOutput, files := files }
  | .ok i => h.expand files i

end Host

end LabelBasic
