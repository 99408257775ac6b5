import LabelBasic.System.Quoted
import LabelBasic.Log.Event

namespace LabelBasic

def FieldValue.render : FieldValue → Text
  | number n => Text.decimal n
  | quoted t => t.quote
  | plain t => t

def Event.render (e : Event) : Text :=
  Text.join [' '] <|
    e.level.name :: e.message :: e.fields.map fun f ↦ f.1 ++ '=' :: f.2.render

end LabelBasic
