import LabelBasic.Text.Blank
import LabelBasic.Source.Span

namespace LabelBasic

structure SourceLine where
  number : Nat
  span : Span
  text : Text
deriving DecidableEq, Repr

namespace SourceLine

def ofText (number offset : Nat) (text : Text) : SourceLine where
  number := number
  span := ⟨offset, saturate (offset + saturate text.byteSize)⟩
  text := text

def site (l : SourceLine) : Site where
  line := l.number
  offset := l.span.start + (l.text.byteSize - l.text.trimStart.byteSize)
  length := l.text.trim.byteSize

end SourceLine

namespace Text

def dropReturn (t : Text) : Text := if t.getLast? = some '\r' then t.dropLast else t

/-- The parts of a text that its line feeds end, and the part after the last of them if that is
not empty. -/
def rawLines (t : Text) : List Text :=
  let parts := t.splitOn '\n'
  if parts.getLast? = some [] then parts.dropLast else parts

end Text

def numberLines (number offset : Nat) : List Text → List SourceLine
  | [] => []
  | raw :: rest =>
    let next := saturate (number + 1)
    .ofText next offset raw.dropReturn ::
      numberLines next (saturate (offset + saturate (raw.byteSize + 1))) rest

def sourceLines (source : Text) : List SourceLine := numberLines 0 0 source.rawLines

/-- Numbers texts that stand for whole lines, line breaks inside them included: each starts one
byte after the one before it ends. -/
def numberItems (number offset : Nat) : List Text → List SourceLine
  | [] => []
  | item :: rest =>
    let next := saturate (number + 1)
    let line := SourceLine.ofText next offset item
    line :: numberItems next (saturate (line.span.stop + 1)) rest

end LabelBasic
