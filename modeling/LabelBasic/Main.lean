import LabelBasic.Command.Program

namespace LabelBasic.Program

def inspect (tree : FileTree) (path : Text) : IO FileTree := do
  let p := (← IO.currentDir) / String.ofList path
  if ← p.isDir then return tree.install path .directory
  else if ← p.pathExists then return tree.install path (.file (← IO.FS.readBinFile p))
  else return tree

def inspectAlong (tree : FileTree) (path : Text) : IO FileTree := do
  let names := path.splitOn '/'
  let paths := (List.range names.length).map fun k ↦ Text.join ['/'] (names.take (k + 1))
  (paths.filter fun p ↦ !p.isEmpty).foldlM inspect tree

def paths (home : Text) (arguments : List Text) : List Text :=
  match Request.ofCommandLine arguments with
  | .ok i => i.config.getD (Config.pathIn home) :: i.input.toList ++ i.output.toList
  | .error _ => []

def readsStandardInput (arguments : List Text) : Bool :=
  match Request.ofCommandLine arguments with
  | .ok i => i.input.isNone
  | .error _ => false

partial def readAll (stream : IO.FS.Stream) (bytes : ByteArray) : IO ByteArray := do
  let more ← stream.read 65536
  if more.isEmpty then return bytes else readAll stream (bytes ++ more)

/-- Runs the program here and now; the exit code is the result. -/
def runHere (args : List String) : IO UInt32 := do
  let arguments := args.map String.toList
  let home := (← IO.currentDir).toString.toList
  let files ← (paths home arguments).foldlM inspectAlong ⟨home, []⟩
  let input ←
    if readsStandardInput arguments then readAll (← IO.getStdin) .empty else pure .empty
  let filters ← ["LBX_LOG", "RUST_LOG"].filterMapM fun name ↦ IO.getEnv name
  let outcome := run ⟨⟨files, input⟩, filters.map String.toList⟩ arguments
  for (route, bytes) in files.changes outcome.files do
    IO.FS.writeBinFile ((← IO.currentDir) / String.ofList (Text.join ['/'] route)) bytes
  for line in outcome.standardError do
    IO.eprintln (String.ofList line)
  IO.print (String.ofList outcome.standardOutput)
  return outcome.exitCode.toUInt32

end LabelBasic.Program

def main (args : List String) : IO UInt32 := LabelBasic.Program.runHere args
