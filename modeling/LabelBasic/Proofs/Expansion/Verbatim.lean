import LabelBasic.Proofs.Expansion.Idempotence

namespace LabelBasic

namespace Text

/-- The text with a line feed in place of each carriage return and line feed. -/
def joinReturns : Text → Text
  | [] => []
  | '\r' :: '\n' :: t => '\n' :: joinReturns t
  | c :: t => c :: joinReturns t

theorem joinReturns_cons {c : Char} {t : Text} (h : c = '\r' → t.head? ≠ some '\n') :
    joinReturns (c :: t) = c :: joinReturns t := by
  rw [joinReturns]
  intro u hc ht
  exact h hc (by rw [ht]; rfl)

theorem joinReturns_newline (t : Text) : joinReturns ('\n' :: t) = '\n' :: joinReturns t :=
  joinReturns_cons fun h ↦ absurd h (by decide)

/-- A text may be cut anywhere but between a carriage return and its line feed. -/
theorem joinReturns_append {s t : Text} (h : s.getLast? = some '\r' → t.head? ≠ some '\n') :
    joinReturns (s ++ t) = joinReturns s ++ joinReturns t := by
  induction s using joinReturns.induct with
  | case1 => rfl
  | case2 s ih =>
    have hs : joinReturns (s ++ t) = joinReturns s ++ joinReturns t := by
      cases s with
      | nil => rfl
      | cons c s => exact ih h
    rw [List.cons_append, List.cons_append, joinReturns, joinReturns, hs]
    rfl
  | case3 c s hcs ih =>
    cases s with
    | nil =>
      have hc : joinReturns [c] = [c] := joinReturns_cons fun _ ↦ nofun
      have ht : c = '\r' → t.head? ≠ some '\n' := fun he ↦ h (congrArg some he)
      rw [hc, List.singleton_append, joinReturns_cons ht]
      rfl
    | cons d s =>
      have hd (u : Text) : c = '\r' → (d :: u).head? ≠ some '\n' := by
        intro hc hhead
        obtain rfl : d = '\n' := Option.some.inj hhead
        exact hcs s hc rfl
      rw [joinReturns_cons (hd s), List.cons_append, List.cons_append, joinReturns_cons (hd _)]
      exact congrArg (c :: ·) (ih h)

theorem joinReturns_eq_self {t : Text} (h : '\n' ∉ t) : joinReturns t = t := by
  induction t with
  | nil => rfl
  | cons c t ih =>
    rw [List.mem_cons, not_or] at h
    rw [joinReturns_cons fun _ ht ↦ h.2 (List.mem_of_head? ht), ih h.2]

theorem joinReturns_append_newline (s t : Text) :
    joinReturns (s ++ '\n' :: t) = joinReturns s.dropReturn ++ '\n' :: joinReturns t := by
  by_cases hs : s.getLast? = some '\r'
  · obtain ⟨u, rfl⟩ := List.getLast?_eq_some_iff.mp hs
    have ht : (['\r'] ++ '\n' :: t).head? ≠ some '\n' := by simp
    rw [dropReturn_append_return, List.append_assoc, joinReturns_append fun _ ↦ ht]
    rfl
  · rw [dropReturn_eq_self hs, joinReturns_append fun h ↦ absurd h hs, joinReturns_newline]

theorem joinReturns_unlines {parts : List Text} (h : ∀ part ∈ parts, '\n' ∉ part) :
    joinReturns (unlines parts) = unlines (parts.map dropReturn) := by
  induction parts with
  | nil => rfl
  | cons part parts ih =>
    rw [List.forall_mem_cons] at h
    have hdrop := dropReturn_prefix part
    have hpart : '\n' ∉ part.dropReturn := fun hc ↦ h.1 (hdrop.subset hc)
    rw [unlines_cons, joinReturns_append_newline, joinReturns_eq_self hpart, ih h.2, List.map_cons,
      unlines_cons]

theorem join_rawLines (t : Text) :
    join ['\n'] (t.rawLines.map dropReturn) ++ (if t.getLast? = some '\n' then ['\n'] else []) =
      joinReturns t.dropReturn := by
  by_cases ht : t = []
  · rw [ht]
    rfl
  have hparts : t.rawLines.map dropReturn ≠ [] := by simpa using rawLines_ne_nil ht
  have hlines := joinReturns_unlines fun part (h : part ∈ t.rawLines) ↦ not_mem_of_mem_rawLines h
  rw [unlines_rawLines, ← join_append_newline hparts] at hlines
  by_cases hlast : t.getLast? = some '\n'
  · have hd : t.dropReturn = t := dropReturn_eq_self (by rw [hlast]; decide)
    rw [if_pos (.inr hlast), List.append_nil] at hlines
    rw [if_pos hlast, hd, hlines]
  · rw [if_neg (not_or.mpr ⟨ht, hlast⟩), joinReturns_append_newline] at hlines
    rw [if_neg hlast, List.append_nil]
    exact (List.append_cancel_right hlines).symm

theorem joinReturns_dropReturn_iff (t : Text) :
    joinReturns t.dropReturn = joinReturns t ↔ t.getLast? ≠ some '\r' := by
  constructor
  · intro h hlast
    obtain ⟨u, rfl⟩ := List.getLast?_eq_some_iff.mp hlast
    rw [dropReturn_append_return, joinReturns_append fun _ ↦ by decide] at h
    exact absurd (List.self_eq_append_right.mp h) (by decide)
  · intro h
    rw [dropReturn_eq_self h]

end Text

open Text

variable {o : Options} {source : Source}

theorem render_copied (t : Text) :
    Expansion.render ⟨t.rawLines.map fun part ↦ .copied part.dropReturn, [], 0,
      decide (t.getLast? = some '\n')⟩ = joinReturns t.dropReturn := by
  have htexts : (t.rawLines.map fun part ↦ OutputLine.copied part.dropReturn).map OutputLine.text =
      t.rawLines.map dropReturn := List.map_map
  have hfeed : (decide (t.getLast? = some '\n') &&
      !(t.rawLines.map fun part ↦ OutputLine.copied part.dropReturn).isEmpty) = true ↔
        t.getLast? = some '\n' := by
    rw [Bool.and_eq_true, decide_eq_true_eq, and_iff_left_iff_imp]
    intro h
    have ht : t ≠ [] := by
      intro ht
      rw [ht] at h
      cases h
    simpa using rawLines_ne_nil ht
  simp only [Expansion.render, Expansion.texts, htexts, hfeed, join_rawLines]

/-- A script without directives is copied, with line feeds for its line ends and without a carriage
return at its end. -/
theorem expandSource_verbatim (hsize : source.text.byteSize ≤ maxOffset)
    (hk : ∀ l ∈ sourceLines source.text, l.keyword? = none) (ht : o.trimLines = false)
    (hn : o.trailingNewline = decide (source.text.getLast? = some '\n')) :
    ∃ x, (expandSource o source).result = .ok x ∧ x.render = joinReturns source.text.dropReturn ∧
      (x.render = joinReturns source.text ↔ source.text.getLast? ≠ some '\r') := by
  have hrun := expandSource_plain (o := o) hsize hk
  simp only [ht, Bool.false_eq_true, if_false, hn] at hrun
  refine ⟨_, congrArg Run.result hrun, ?_⟩
  rw [render_copied]
  exact ⟨rfl, joinReturns_dropReturn_iff source.text⟩

def returnsScript : Source where
  name := "a.lb".toList
  text := "\n\ra\r\rb\r\r\n\r\n # x\r\n\r\r".toList

theorem expandSource_verbatim_returns :
    let o : Options := { trimLines := false, trailingNewline := false }
    returnsScript.text.byteSize ≤ maxOffset ∧
      (∀ l ∈ sourceLines returnsScript.text, l.keyword? = none) ∧
      (joinReturns returnsScript.text.dropReturn = "\n\ra\r\rb\r\n\n # x\n\r".toList) ∧
      ∃ x, (expandSource o returnsScript).result = .ok x ∧
        x.render = joinReturns returnsScript.text.dropReturn ∧
        (x.render = joinReturns returnsScript.text ↔ returnsScript.text.getLast? ≠ some '\r') := by
  intro o
  have hsize : returnsScript.text.byteSize ≤ maxOffset := by decide
  have hk : ∀ l ∈ sourceLines returnsScript.text, l.keyword? = none := by decide +kernel
  exact ⟨hsize, hk, by decide +kernel, expandSource_verbatim hsize hk rfl (by decide +kernel)⟩

theorem not_forall_render_eq_joinReturns :
    ¬ ∀ (o : Options) (source : Source), source.text.byteSize ≤ maxOffset →
      (∀ l ∈ sourceLines source.text, l.keyword? = none) → o.trimLines = false →
      o.trailingNewline = decide (source.text.getLast? = some '\n') →
      ∃ x, (expandSource o source).result = .ok x ∧ x.render = joinReturns source.text := by
  intro h
  let o : Options := { trimLines := false, trailingNewline := false }
  obtain ⟨x, hx, hrender⟩ := h o ⟨"a.lb".toList, "a\r".toList⟩ (by decide) (by decide +kernel) rfl
    (by decide)
  have hresult : (expandSource o ⟨"a.lb".toList, "a\r".toList⟩).result =
      .ok ⟨[.copied ['a']], [], 0, false⟩ := by decide +kernel
  obtain rfl := Except.ok.inj (hresult.symm.trans hx)
  revert hrender
  decide +kernel

end LabelBasic
