import LabelBasic.Config
import LabelBasic.Log.Event

namespace LabelBasic

namespace Text

def ofBytes? (bytes : ByteArray) : Option Text := (String.fromUTF8? bytes).map String.toList

def toBytes (t : Text) : ByteArray := (String.ofList t).toUTF8

end Text

inductive FileError
  | notFound
  | notDirectory
  | isDirectory
  | nameTooLong
  | nullCharacter
  | notUtf8
  | other (message : Text)
deriving DecidableEq, Repr

def FileError.message : FileError → Text
  | notFound => "No such file or directory (os error 2)".toList
  | notDirectory => "Not a directory (os error 20)".toList
  | isDirectory => "Is a directory (os error 21)".toList
  | nameTooLong => "File name too long (os error 36)".toList
  | nullCharacter => "file name contained an unexpected NUL byte".toList
  | notUtf8 => "stream did not contain valid UTF-8".toList
  | other message => message

def Text.decode (bytes : ByteArray) : Except FileError Text :=
  match ofBytes? bytes with
  | some t => .ok t
  | none => .error .notUtf8

instance decidableEqBytes : DecidableEq ByteArray := ByteArray.instDecidableEq

inductive Node
  | file (bytes : ByteArray)
  | directory
deriving DecidableEq

/-- What a command line asks for. -/
structure Invocation where
  input : Option Text := none
  output : Option Text := none
  config : Option Text := none
  noMarkers : Bool := false
  stats : Bool := false
deriving DecidableEq, Repr

/-- The answer to a command line that asks for no expansion. -/
structure Halt where
  exitCode : Nat
  standardOutput : Text := []
deriving DecidableEq, Repr

/-- The lines of a log that show events, if they are shown. -/
abbrev LogView := Event → Option Text

/-- What the program runs on. `σ` is the state of the files, which only `write` changes. -/
structure Host (σ : Type) where
  currentDirectory : Except FileError Text
  isFile : σ → Text → Bool
  read : σ → Text → Except FileError ByteArray
  write : σ → Text → ByteArray → Except FileError Unit × σ
  standardInput : Except FileError ByteArray
  /-- Puts a text on standard output, and tells what of it is there. -/
  print : Text → Except FileError Unit × Text
  commandLine : List Text → Except Halt Invocation
  config? : Text → Option Config
  /-- The log filters that are set from outside, the one that counts most first. -/
  logFilters : List Text
  logFilter? : Text → Option LogView
  knownLogFilter : Text → LogView × List Text

def Host.readText {σ : Type} (h : Host σ) (files : σ) (path : Text) : Except FileError Text := do
  Text.decode (← h.read files path)

end LabelBasic
