import LabelBasic.Proofs.Expansion.Run

namespace LabelBasic

namespace Script

open Text

/-- The texts that a line becomes. -/
def lineTexts (o : Options) (before : Script) (l : SourceLine) : List Text :=
  match l.keyword?, l.operands with
  | some .func, name :: _ =>
    (if o.markers then ["# FUNC ".toList ++ name] else []) ++
      ["GOTO SKIPFUNC".toList ++ decimal (numberOf .func before),
        "LBL FUNC".toList ++ decimal (numberOf .func before)]
  | some .funcEnd, _ =>
    ["GOTO $FUNCRTNGOTO".toList,
      "LBL SKIPFUNC".toList ++ decimal (numberOf .func before - 1)] ++
      if o.markers then ["# FUNCEND".toList] else []
  | some .funcRtn, value :: _ =>
    ["SETVAL FUNCRTN ".toList ++ value, "GOTO $FUNCRTNGOTO".toList]
  | some .callFunc, name :: arguments =>
    arguments.zipIdx.map
      (fun a ↦ "SETVAL FUNCPARAM".toList ++ decimal (a.2 + 1) ++ ' ' :: a.1) ++
      ["SETVAL FUNCRTNGOTO FUNCRTNGOTO".toList ++ decimal (numberOf .callFunc before),
        "GOTO FUNC".toList ++ decimal (position name before),
        "LBL FUNCRTNGOTO".toList ++ decimal (numberOf .callFunc before)]
  | _, _ => [if o.trimLines then l.text.trim else l.text]

/-- The function that a line defines, with its index and its position in the script. -/
def lineDefinition (before : Script) (l : SourceLine) : List Definition :=
  match l.keyword?, l.operands with
  | some .func, name :: _ => [⟨name, numberOf .func before, before.length + 1⟩]
  | _, _ => []

theorem definition_of_number {before : Script} {l : SourceLine}
    (h : l.number = before.length + 1) : definition before l = lineDefinition before l := by
  obtain ⟨number, span, text⟩ := l
  obtain rfl : number = before.length + 1 := h
  rfl

theorem map_text_openingCode (markers : Bool) (name : Text) (id : Nat) :
    ((Scan.openingCode markers name id).map .generated).map OutputLine.text =
      (if markers then ["# FUNC ".toList ++ name] else []) ++
        ["GOTO SKIPFUNC".toList ++ decimal id, "LBL FUNC".toList ++ decimal id] := by
  cases markers <;> rfl

theorem map_text_closingCode (markers : Bool) (id : Nat) :
    ((Scan.closingCode markers id).map .generated).map OutputLine.text =
      ["GOTO $FUNCRTNGOTO".toList, "LBL SKIPFUNC".toList ++ decimal id] ++
        if markers then ["# FUNCEND".toList] else [] := by
  cases markers <;> rfl

theorem map_text_callingCode (id site : Nat) (arguments : List Text) :
    ((Scan.callingCode id site arguments).map .generated).map OutputLine.text =
      arguments.zipIdx.map
        (fun a ↦ "SETVAL FUNCPARAM".toList ++ decimal (a.2 + 1) ++ ' ' :: a.1) ++
        ["SETVAL FUNCRTNGOTO FUNCRTNGOTO".toList ++ decimal site,
          "GOTO FUNC".toList ++ decimal id, "LBL FUNCRTNGOTO".toList ++ decimal site] := by
  simp only [Scan.callingCode, List.map_append, List.map_map]
  rfl

theorem map_text_lineOutput (o : Options) (before : Script) (l : SourceLine) :
    (lineOutput o before l).map OutputLine.text = lineTexts o before l := by
  unfold lineOutput lineTexts
  generalize l.keyword? = k, l.operands = ws
  match k, ws with
  | some .func, name :: _ => exact map_text_openingCode ..
  | some .funcEnd, _ => exact map_text_closingCode ..
  | some .callFunc, name :: arguments => exact map_text_callingCode ..
  | some .funcRtn, value :: _ => rfl
  | none, _ | some .func, [] | some .funcRtn, [] | some .callFunc, [] => rfl

end Script

open Script

/-- The output of an expansion is what each line becomes, its functions are those of the `FUNC`
lines, and its calls are the `CALLFUNC` lines. -/
theorem expandSource_rewriting {o : Options} {source : Source} {x : Expansion}
    (h : (expandSource o source).result = .ok x) :
    x.texts = gather (lineTexts o) (sourceLines source.text) ∧
      x.functions = gather lineDefinition (sourceLines source.text) ∧
      x.callSites = numberOf .callFunc (sourceLines source.text) := by
  obtain ⟨hsize, -, -, rfl, -⟩ := expand_eq_ok h
  refine ⟨?_, ?_, rfl⟩
  · rw [Expansion.texts, expansion, map_gather]
    simp only [map_text_lineOutput]
  · refine gather_congr fun before l after hs ↦ ?_
    exact definition_of_number (number_of_sourceLines hsize hs)

def twoFunctions : Source where
  name := "a.lb".toList
  text :=
    "FUNC A\nCALLFUNC A\nFUNCEND\nCALLFUNC A x\nFUNC B\n FUNCRTN 1\nFUNCEND\nCALLFUNC B".toList

theorem expandSource_rewriting_two :
    let x := expansion {} (sourceLines twoFunctions.text)
    (expandSource {} twoFunctions).result = .ok x ∧
      x.texts = gather (lineTexts {}) (sourceLines twoFunctions.text) ∧
      x.texts = ["# FUNC A", "GOTO SKIPFUNC0", "LBL FUNC0", "SETVAL FUNCRTNGOTO FUNCRTNGOTO0",
        "GOTO FUNC0", "LBL FUNCRTNGOTO0", "GOTO $FUNCRTNGOTO", "LBL SKIPFUNC0", "# FUNCEND",
        "SETVAL FUNCPARAM1 x", "SETVAL FUNCRTNGOTO FUNCRTNGOTO1", "GOTO FUNC0",
        "LBL FUNCRTNGOTO1", "# FUNC B", "GOTO SKIPFUNC1", "LBL FUNC1", "SETVAL FUNCRTN 1",
        "GOTO $FUNCRTNGOTO", "GOTO $FUNCRTNGOTO", "LBL SKIPFUNC1", "# FUNCEND",
        "SETVAL FUNCRTNGOTO FUNCRTNGOTO2", "GOTO FUNC1", "LBL FUNCRTNGOTO2"].map String.toList ∧
      x.functions = [⟨['A'], 0, 1⟩, ⟨['B'], 1, 5⟩] ∧ x.callSites = 3 := by
  have hx : (expandSource {} twoFunctions).result =
      .ok (expansion {} (sourceLines twoFunctions.text)) := by decide +kernel
  exact ⟨hx, (expandSource_rewriting hx).1, by decide +kernel, by decide +kernel⟩

end LabelBasic
