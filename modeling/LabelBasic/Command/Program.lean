import LabelBasic.System.Files
import LabelBasic.System.Log.Filter
import LabelBasic.System.Log.Line
import LabelBasic.System.Toml.Config
import LabelBasic.System.Arguments
import LabelBasic.Command.Run

namespace LabelBasic

def LogFilter.view (f : LogFilter) : LogView :=
  fun e ↦ if f.passes e then some e.render else none

structure World where
  files : FileTree
  standardInput : ByteArray := .empty

structure Environment where
  world : World
  logFilters : List Text := []

namespace Program

/-- A host whose files are a tree. -/
def host (env : Environment) : Host FileTree where
  currentDirectory := .ok env.world.files.home
  isFile := FileTree.isFile
  read := FileTree.read
  write t path bytes := match t.write path bytes with
    | .ok t' => (.ok (), t')
    | .error cause => (.error cause, t)
  standardInput := .ok env.world.standardInput
  print t := (.ok (), t)
  commandLine := Request.ofCommandLine
  config? := Config.parse?
  logFilters := env.logFilters
  logFilter? t := (LogFilter.parse? t).map LogFilter.view
  knownLogFilter t := ((LogFilter.parseKnown t).view, LogFilter.complaints t)

def run (env : Environment) (arguments : List Text) : Outcome FileTree :=
  (host env).run env.world.files arguments

end Program

def Config.find (files : FileTree) (directory : Text) : Except ConfigError (Option Config) :=
  (Program.host ⟨⟨files, .empty⟩, []⟩).findConfig files directory

def Config.load (files : FileTree) (path : Option Text) (directory : Text) :
    Except ConfigError Config :=
  (Program.host ⟨⟨files, .empty⟩, []⟩).loadConfig files directory path

def Job.run (j : Job) (w : World) : JobResult FileTree :=
  (Program.host ⟨w, []⟩).perform w.files j

end LabelBasic
