import LabelBasic.Config
import LabelBasic.System.Toml.Document

namespace LabelBasic.Config

def switch? : Toml.Value → Option Bool
  | .switch b => some b
  | _ => none

def text? : Toml.Value → Option Text
  | .text t => some t
  | _ => none

/-- A table of settings may also be an array with the values of the first ones. -/
def expandOf? : Toml.Value → Option Options
  | .table _ entries => entries.foldlM
      (fun o e ↦ do return o.set (← Setting.ofKey? e.1) (← switch? e.2)) {}
  | .array items => (Setting.all.zip items).foldlM
      (fun o e ↦ do return o.set e.1 (← switch? e.2)) {}
  | _ => none

def logFilterOf? : Toml.Value → Option Text
  | .table _ [] | .array [] => some ({} : Config).logFilter
  | .table _ [(key, value)] => if key = "filter".toList then text? value else none
  | .array (value :: _) => text? value
  | _ => none

def ofEntries? (entries : Toml.Entries) : Option Config :=
  entries.foldlM (fun c e ↦
    if e.1 = "expand".toList then do return { c with expand := ← expandOf? e.2 }
    else if e.1 = "log".toList then do return { c with logFilter := ← logFilterOf? e.2 }
    else none) {}

def parse? (t : Text) : Option Config := (Toml.parse? t).bind ofEntries?

end LabelBasic.Config
