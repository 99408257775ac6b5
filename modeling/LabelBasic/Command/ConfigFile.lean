import LabelBasic.Command.Host

namespace LabelBasic

inductive ConfigError
  | unreadable (path : Text) (cause : FileError)
  | malformed (path : Text)
deriving DecidableEq, Repr

def ConfigError.message : ConfigError → Text
  | unreadable path cause =>
    "Failed to read config file: ".toList ++ path ++ ": ".toList ++ cause.message
  | malformed path => "Failed to parse config file: ".toList ++ path

def Config.pathIn (directory : Text) : Text :=
  match directory.getLast? with
  | none | some '/' => directory ++ "lbx.toml".toList
  | some _ => directory ++ "/lbx.toml".toList

namespace Host

variable {σ : Type} (h : Host σ)

def configOfFile (files : σ) (path : Text) : Except ConfigError Config :=
  match h.readText files path with
  | .error cause => .error (.unreadable path cause)
  | .ok t => match h.config? t with
    | some c => .ok c
    | none => .error (.malformed path)

def findConfig (files : σ) (directory : Text) : Except ConfigError (Option Config) :=
  if h.isFile files (Config.pathIn directory) then
    some <$> h.configOfFile files (Config.pathIn directory)
  else .ok none

def loadConfig (files : σ) (directory : Text) : Option Text → Except ConfigError Config
  | some path => h.configOfFile files path
  | none => (·.getD {}) <$> h.findConfig files directory

end Host

end LabelBasic
