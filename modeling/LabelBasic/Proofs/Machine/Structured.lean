import LabelBasic.Proofs.Expansion.Stateless
import LabelBasic.Proofs.Machine.Basic

namespace LabelBasic.Script

open SourceLine

/-- The lines after the one that defines a function. -/
def bodyOf (name : Text) (s : Script) : Script :=
  (s.dropWhile fun l ↦ !decide (l.Defines name)).tail

def afterBody (s : Script) : Script := (s.dropWhile fun l ↦ l.keyword? ≠ some .funcEnd).tail

/-- The parameters of a call are set one after the other. -/
def settings (arguments : List Text) : List Text :=
  arguments.zipIdx.map fun a ↦ "SETVAL FUNCPARAM".toList ++ Text.decimal (a.2 + 1) ++ ' ' :: a.1

/-- From some line of a script on, the script does the lines of a trace. -/
inductive Traces (o : Options) (script : Script) : Script → List Text → Prop
  | finish : Traces o script [] []
  | copy {l : SourceLine} {rest : Script} {t : List Text} (h : l.keyword? = none)
      (hr : Traces o script rest t) :
      Traces o script (l :: rest) (Machine.visible (Scan.lineText o l) ++ t)
  | skip {l : SourceLine} {rest : Script} {t : List Text} (h : l.keyword? = some .func)
      (hr : Traces o script (afterBody rest) t) : Traces o script (l :: rest) t
  | leave {l : SourceLine} {rest : Script} (h : l.keyword? = some .funcEnd) :
      Traces o script (l :: rest) []
  | giveBack {l : SourceLine} {rest : Script} {value : Text} (h : l.Returns value) :
      Traces o script (l :: rest) ["SETVAL FUNCRTN ".toList ++ value]
  | call {l : SourceLine} {rest : Script} {t u : List Text} {name : Text} {arguments : List Text}
      (h : l.Calls name arguments) (hb : Traces o script (script.bodyOf name) t)
      (hr : Traces o script rest u) :
      Traces o script (l :: rest) (settings arguments ++ t ++ u)

variable {o : Options} {script : Script} {s : Script} {l : SourceLine}

theorem Traces.unique {t u : List Text} (ht : Traces o script s t) (hu : Traces o script s u) :
    t = u := by
  induction ht generalizing u with
  | finish => cases hu; rfl
  | copy h hr ih =>
    cases hu with
    | copy h' hr' => rw [ih hr']
    | skip h' | leave h' => cases h.symm.trans h'
    | giveBack h' | call h' => cases h.symm.trans h'.1
  | skip h hr ih =>
    cases hu with
    | skip h' hr' => exact ih hr'
    | copy h' | leave h' => cases h.symm.trans h'
    | giveBack h' | call h' => cases h.symm.trans h'.1
  | leave h =>
    cases hu with
    | leave h' => rfl
    | copy h' | skip h' => cases h.symm.trans h'
    | giveBack h' | call h' => cases h.symm.trans h'.1
  | giveBack h =>
    cases hu with
    | giveBack h' => rw [Option.some.inj (h.2.symm.trans h'.2)]
    | copy h' | skip h' | leave h' => cases h.1.symm.trans h'
    | call h' => cases h.1.symm.trans h'.1
  | call h hb hr ihb ihr =>
    cases hu with
    | call h' hb' hr' =>
      obtain ⟨rfl, rfl⟩ := List.cons.inj (h.2.symm.trans h'.2)
      rw [ihb hb', ihr hr']
    | copy h' | skip h' | leave h' => cases h.1.symm.trans h'
    | giveBack h' => cases h.1.symm.trans h'.1

/-- A trace, if one is found with calls that are not too deep and scripts that are not too long. -/
def trace? (o : Options) (script : Script) : Nat → Script → Option (List Text)
  | 0, _ => none
  | _ + 1, [] => some []
  | fuel + 1, l :: rest =>
    match l.keyword?, l.operands with
    | none, _ => (trace? o script fuel rest).map (Machine.visible (Scan.lineText o l) ++ ·)
    | some .func, _ => trace? o script fuel (afterBody rest)
    | some .funcEnd, _ => some []
    | some .funcRtn, value :: _ => some ["SETVAL FUNCRTN ".toList ++ value]
    | some .callFunc, name :: arguments => do
      let t ← trace? o script fuel (script.bodyOf name)
      let u ← trace? o script fuel rest
      some (settings arguments ++ t ++ u)
    | _, [] => none

theorem traces_of_trace? {fuel : Nat} {t : List Text} (h : trace? o script fuel s = some t) :
    Traces o script s t := by
  induction fuel generalizing s t with
  | zero => cases h
  | succ fuel ih =>
    cases s with
    | nil =>
      obtain rfl := Option.some.inj h
      exact .finish
    | cons l rest =>
      rw [trace?] at h
      split at h
      · obtain ⟨u, hu, rfl⟩ := Option.map_eq_some_iff.mp h
        exact .copy ‹_› (ih hu)
      · exact .skip ‹_› (ih h)
      · obtain rfl := Option.some.inj h
        exact .leave ‹_›
      · rename_i value ws hk hw
        obtain rfl := Option.some.inj h
        exact .giveBack ⟨hk, by rw [hw]; rfl⟩
      · obtain ⟨u, hu, h⟩ := Option.bind_eq_some_iff.mp h
        obtain ⟨v, hv, h⟩ := Option.bind_eq_some_iff.mp h
        obtain rfl := Option.some.inj h
        exact .call ⟨‹_›, ‹_›⟩ (ih hu) (ih hv)
      · cases h

theorem bodyOf_of_first {n : Text} {before after : Script} (hl : l.Defines n)
    (hb : ∀ x ∈ before, ¬ x.Defines n) : bodyOf n (before ++ l :: after) = after := by
  have hp : ∀ x ∈ before, (!decide (x.Defines n)) = true := fun x hx ↦ by simp [hb x hx]
  rw [bodyOf, List.dropWhile_append_of_pos hp, List.dropWhile_cons_of_neg (by simp [hl]),
    List.tail_cons]

theorem afterBody_of_inner {body after : Script} (hb : ∀ x ∈ body, x.IsInner)
    (hl : l.keyword? = some .funcEnd) : afterBody (body ++ l :: after) = after := by
  have hp : ∀ x ∈ body, decide (x.keyword? ≠ some .funcEnd) = true := fun x hx ↦ by
    simp [(hb x hx).2]
  rw [afterBody, List.dropWhile_append_of_pos hp, List.dropWhile_cons_of_neg (by simp [hl]),
    List.tail_cons]

end LabelBasic.Script
