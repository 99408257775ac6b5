import LabelBasic.Text.Basic

namespace LabelBasic

structure Options where
  markers : Bool := true
  trimLines : Bool := true
  trailingNewline : Bool := true
  warnNestedCalls : Bool := true
deriving DecidableEq, Repr, Inhabited

inductive Setting
  | markers
  | trimLines
  | trailingNewline
  | warnNestedCalls
deriving DecidableEq, Repr

namespace Setting

/-- The settings in the order in which a configuration may list their values. -/
def all : List Setting := [markers, trimLines, trailingNewline, warnNestedCalls]

def key : Setting → Text
  | markers => "markers".toList
  | trimLines => "trim-lines".toList
  | trailingNewline => "trailing-newline".toList
  | warnNestedCalls => "warn-nested-calls".toList

def ofKey? (key : Text) : Option Setting := all.find? fun s ↦ s.key == key

end Setting

namespace Options

def get (o : Options) : Setting → Bool
  | .markers => o.markers
  | .trimLines => o.trimLines
  | .trailingNewline => o.trailingNewline
  | .warnNestedCalls => o.warnNestedCalls

def set (o : Options) (s : Setting) (value : Bool) : Options :=
  match s with
  | .markers => { o with markers := value }
  | .trimLines => { o with trimLines := value }
  | .trailingNewline => { o with trailingNewline := value }
  | .warnNestedCalls => { o with warnNestedCalls := value }

theorem get_set (o : Options) (s t : Setting) (value : Bool) :
    (o.set s value).get t = if t = s then value else o.get t := by
  cases s <;> cases t <;> rfl

end Options

end LabelBasic
