import LabelBasic.Command.Host
import LabelBasic.Expansion.Expander

namespace LabelBasic

/-- Without a file it reads standard input and writes standard output. -/
structure Job where
  input : Option Text := none
  output : Option Text := none
  options : Options := {}
deriving DecidableEq, Repr

inductive JobError
  | unreadableInput (path : Text) (cause : FileError)
  | unreadableStandardInput (cause : FileError)
  | unwritableOutput (path : Text) (cause : FileError)
  | unwritableStandardOutput (cause : FileError)
  | expansion (error : ExpansionError)
deriving DecidableEq, Repr

def JobError.message : JobError → Text
  | unreadableInput path cause =>
    "Failed to read input file: ".toList ++ path ++ ": ".toList ++ cause.message
  | unreadableStandardInput cause =>
    "Failed to read standard input: ".toList ++ cause.message
  | unwritableOutput path cause =>
    "Failed to write output file: ".toList ++ path ++ ": ".toList ++ cause.message
  | unwritableStandardOutput cause =>
    "Failed to write standard output: ".toList ++ cause.message
  | expansion error => error.message

structure JobResult (σ : Type) where
  log : List Event := []
  files : σ
  standardOutput : Text := []
  result : Except JobError Expansion

namespace Host

variable {σ : Type} (h : Host σ)

def source (files : σ) : Option Text → Except JobError Source
  | some path => match h.readText files path with
    | .ok t => .ok ⟨path, t⟩
    | .error cause => .error (.unreadableInput path cause)
  | none => match h.standardInput.bind Text.decode with
    | .ok t => .ok ⟨"<stdin>".toList, t⟩
    | .error cause => .error (.unreadableStandardInput cause)

/-- Writes a text to the output, and tells what files and standard output are like then. -/
def deliver (files : σ) (t : Text) : Option Text → Except JobError Unit × σ × Text
  | some path => match h.write files path t.toBytes with
    | (.ok (), files') => (.ok (), files', [])
    | (.error cause, files') => (.error (.unwritableOutput path cause), files', [])
  | none => match h.print t with
    | (.ok (), printed) => (.ok (), files, printed)
    | (.error cause, printed) => (.error (.unwritableStandardOutput cause), files, printed)

def perform (files : σ) (j : Job) : JobResult σ :=
  match h.source files j.input with
  | .error e => { files := files, result := .error e }
  | .ok source =>
    let expanded := expandSource j.options source
    match expanded.result with
    | .error e => { log := expanded.log, files := files, result := .error (.expansion e) }
    | .ok x =>
      match h.deliver files x.render j.output with
      | (.error e, files', printed) =>
        { log := expanded.log, files := files', standardOutput := printed, result := .error e }
      | (.ok (), files', printed) => {
          log := expanded.log ++
            [.expansionFinished source.name x.functions.length x.callSites x.lines.length]
          files := files'
          standardOutput := printed
          result := .ok x }

end Host

end LabelBasic
