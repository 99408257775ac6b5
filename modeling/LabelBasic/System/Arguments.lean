import LabelBasic.Command.Host

namespace LabelBasic

inductive Request
  | help
  | version
  | expand (invocation : Invocation)
deriving DecidableEq, Repr

namespace Invocation

def addFile? (i : Invocation) (name : Text) : Option Invocation :=
  if name = [] then none
  else match i.input, i.output with
    | none, _ => some { i with input := some name }
    | some _, none => some { i with output := some name }
    | some _, some _ => none

def setConfig? (i : Invocation) (name : Text) : Option Invocation :=
  if name = [] || i.config.isSome then none else some { i with config := some name }

def setNoMarkers? (i : Invocation) : Option Invocation :=
  if i.noMarkers then none else some { i with noMarkers := true }

def setStats? (i : Invocation) : Option Invocation :=
  if i.stats then none else some { i with stats := true }

end Invocation

inductive Argument
  | file (name : Text)
  | config (name : Text)
  | configNext
  | noMarkers
  | stats
  | help
  | version
  | filesOnly
  | unknown
deriving DecidableEq, Repr

namespace Argument

def ofLong (name : Text) (value : Option Text) : Argument :=
  match value with
  | some v => if name = "config".toList then config v else unknown
  | none =>
    if name = "config".toList then configNext
    else if name = "no-markers".toList then noMarkers
    else if name = "stats".toList then stats
    else if name = "help".toList then help
    else if name = "version".toList then version
    else unknown

def ofShort : Text → Argument
  | 'h' :: _ => help
  | 'V' :: _ => version
  | ['c'] => configNext
  | 'c' :: '=' :: name => config name
  | 'c' :: name => config name
  | _ => unknown

def ofText : Text → Argument
  | ['-', '-'] => filesOnly
  | '-' :: '-' :: option =>
    if '=' ∈ option then
      ofLong (option.takeWhile (· != '=')) (some (option.dropWhile (· != '=')).tail)
    else ofLong option none
  | ['-'] => file ['-']
  | '-' :: letters => ofShort letters
  | name => file name

end Argument

namespace Request

/-- Reads arguments from the left. The first that asks for help or the version decides, unless
there is no such reading of what stands before it. -/
def parse? (i : Invocation) : List Text → Option Request
  | [] => some (expand i)
  | argument :: rest =>
    match Argument.ofText argument with
    | .file name => (i.addFile? name).bind fun i' ↦ parse? i' rest
    | .config name => (i.setConfig? name).bind fun i' ↦ parse? i' rest
    | .configNext =>
      match rest with
      | next :: rest' =>
        match Argument.ofText next with
        | .file name => (i.setConfig? name).bind fun i' ↦ parse? i' rest'
        | _ => none
      | [] => none
    | .noMarkers => i.setNoMarkers?.bind fun i' ↦ parse? i' rest
    | .stats => i.setStats?.bind fun i' ↦ parse? i' rest
    | .help => some help
    | .version => some version
    | .filesOnly => (rest.foldlM Invocation.addFile? i).map expand
    | .unknown => none

def versionText : Text := "lbx 0.1.0\n".toList

def helpText : Text := List.flatten <| List.map String.toList
  ["Expand structured function directives into label/goto BASIC\n",
    "\n",
    "Usage: lbx [OPTIONS] [INPUT] [OUTPUT]\n",
    "\n",
    "Arguments:\n",
    "  [INPUT]   Source file (standard input if omitted)\n",
    "  [OUTPUT]  Destination file (standard output if omitted)\n",
    "\n",
    "Options:\n",
    "  -c, --config <CONFIG>  Configuration file (defaults to lbx.toml in the current directory)\n",
    "      --no-markers       Do not emit the `# FUNC` and `# FUNCEND` marker comments\n",
    "      --stats            Print defined functions and call sites to stderr\n",
    "  -h, --help             Print help\n",
    "  -V, --version          Print version\n"]

def ofCommandLine (arguments : List Text) : Except Halt Invocation :=
  match parse? {} arguments with
  | none => .error ⟨2, []⟩
  | some .help => .error ⟨0, helpText⟩
  | some .version => .error ⟨0, versionText⟩
  | some (.expand i) => .ok i

end Request

end LabelBasic
