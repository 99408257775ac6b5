import Mathlib.Data.List.Nodup
import LabelBasic.Proofs.Expansion.Run
import LabelBasic.Proofs.Script.Grammar
import LabelBasic.Proofs.Spelling

namespace LabelBasic

namespace Script

open SourceLine

def lineLabels (before : Script) (l : SourceLine) : List Label :=
  match l.keyword?, l.operands with
  | some .func, _ :: _ => [.entry (numberOf .func before)]
  | some .funcEnd, _ => [.skip (numberOf .func before - 1)]
  | some .callFunc, _ :: _ => [.resume (numberOf .callFunc before)]
  | _, _ => []

def labels (s : Script) : List Label := gather lineLabels s

def Issued (s : Script) : Label → Prop
  | .entry i => i < numberOf .func s
  | .skip i => i < numberOf .funcEnd s
  | .resume j => j < numberOf .callFunc s

variable {s : Script} {l : SourceLine} (o : Options)

theorem filterMap_label?_openingCode (markers : Bool) (name : Text) (id : Nat) :
    ((Scan.openingCode markers name id).map .generated).filterMap OutputLine.label? =
      [.entry id] := by
  cases markers <;> rfl

theorem filterMap_label?_closingCode (markers : Bool) (id : Nat) :
    ((Scan.closingCode markers id).map .generated).filterMap OutputLine.label? = [.skip id] := by
  cases markers <;> rfl

theorem filterMap_label?_callingCode (id site : Nat) (arguments : List Text) :
    ((Scan.callingCode id site arguments).map .generated).filterMap OutputLine.label? =
      [.resume site] := by
  have hp : ∀ a : Text × Nat, (OutputLine.label? ∘ OutputLine.generated ∘
      fun a : Text × Nat ↦ Instruction.setVal (.parameter (a.2 + 1)) (.text a.1)) a = none :=
    fun _ ↦ rfl
  simp only [Scan.callingCode, List.map_append, List.filterMap_append, List.map_map,
    List.filterMap_map]
  rw [List.filterMap_eq_nil_iff.mpr fun a _ ↦ hp a]
  rfl

theorem filterMap_label?_lineOutput (before : Script) (l : SourceLine) :
    (lineOutput o before l).filterMap OutputLine.label? = lineLabels before l := by
  unfold lineOutput lineLabels
  generalize l.keyword? = k, l.operands = ws
  match k, ws with
  | some .func, name :: _ => exact filterMap_label?_openingCode ..
  | some .funcEnd, _ => exact filterMap_label?_closingCode ..
  | some .callFunc, name :: arguments => exact filterMap_label?_callingCode ..
  | some .funcRtn, value :: _ => rfl
  | none, _ | some .func, [] | some .funcRtn, [] | some .callFunc, [] => rfl

theorem filterMap_label?_output (s : Script) :
    (gather (lineOutput o) s).filterMap OutputLine.label? = s.labels := by
  rw [filterMap_gather, labels]
  simp only [filterMap_label?_lineOutput]

theorem issued_append (hs : Faultless (s ++ [l])) (a : Label) :
    Issued (s ++ [l]) a ↔ Issued s a ∨ a ∈ lineLabels s l := by
  rcases l.reading_cases with h | ⟨k, h⟩ | ⟨n, h⟩ | ⟨v, h⟩ | h | ⟨n, arguments, h⟩
  · cases a <;> simp [Issued, lineLabels, h]
  · exact absurd h (hs.not_lacksOperand (by simp) k)
  · obtain ⟨ws, hw⟩ := h.operands
    cases a <;> simp [Issued, lineLabels, h.1, hw]
    omega
  · cases a <;> simp [Issued, lineLabels, h.1]
  · have ho := hs.open_of_funcEnd (t := []) h
    have hb := hs.of_append.balance
    unfold IsOpen at ho
    cases a <;> simp [Issued, lineLabels, h]
    omega
  · cases a <;> simp [Issued, lineLabels, h.1, h.2]
    omega

theorem not_issued_of_mem (hs : Faultless (s ++ [l])) {a : Label} (ha : a ∈ lineLabels s l) :
    ¬ Issued s a := by
  unfold lineLabels at ha
  split at ha
  · simp [List.mem_singleton.mp ha, Issued]
  · have ho := hs.open_of_funcEnd (t := []) ‹_›
    unfold IsOpen at ho
    rw [List.mem_singleton.mp ha, Issued]
    omega
  · simp [List.mem_singleton.mp ha, Issued]
  · cases ha

theorem nodup_lineLabels (before : Script) (l : SourceLine) : (lineLabels before l).Nodup := by
  unfold lineLabels
  split
  case h_4 => exact List.nodup_nil
  all_goals exact List.nodup_singleton _

/-- A script without a fault defines the labels below its counts, each once. -/
theorem labels_census (hs : Faultless s) : s.labels.Nodup ∧ ∀ a, a ∈ s.labels ↔ Issued s a := by
  induction s using List.reverseRecOn with
  | nil => exact ⟨List.nodup_nil, fun a ↦ by cases a <;> simp [labels, gather, Issued]⟩
  | append_singleton s l ih =>
    obtain ⟨hn, hm⟩ := ih hs.of_append
    simp only [labels] at hn hm ⊢
    rw [gather_append_singleton]
    constructor
    · refine List.nodup_append.mpr ⟨hn, nodup_lineLabels s l, fun a ha b hb hab ↦ ?_⟩
      exact not_issued_of_mem hs hb (hab ▸ (hm a).mp ha)
    · intro a
      rw [List.mem_append, hm, issued_append hs]

theorem length_functions (hs : Faultless s) : (gather definition s).length = numberOf .func s := by
  induction s using List.reverseRecOn with
  | nil => rfl
  | append_singleton s l ih =>
    rw [gather_append_singleton, List.length_append, ih hs.of_append, numberOf_append_singleton]
    by_cases h : l.keyword? = some .func
    · obtain ⟨n, hn⟩ := hs.exists_defines (by simp) h
      rw [definition_of_defines s hn, if_pos h]
      rfl
    · rw [definition_of_not_func s h, if_neg h]
      rfl

end Script

end LabelBasic
