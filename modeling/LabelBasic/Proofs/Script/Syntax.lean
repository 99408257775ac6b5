import LabelBasic.Proofs.Script.Reading
import LabelBasic.Proofs.Text.Spacing

namespace LabelBasic

open Text

namespace Directive

def operands : Directive → List Text
  | opening name => [name]
  | returning value => [value]
  | closing => []
  | calling name arguments => name :: arguments

def print (d : Directive) : Text := join [' '] (d.keyword.spelling :: d.operands)

/-- The text is the keyword and the operands with gaps between them and around them. Further words may
follow, but those after a call would be its arguments. -/
def Written (d : Directive) (t : Text) : Prop :=
  ∃ gap rest more, t = gap ++ (d.keyword.spelling ++ rest) ∧ gap.IsGap ∧
    Follow (d.operands ++ more) rest ∧ (d.keyword = .callFunc → more = [])

end Directive

def Keyword.Alone (k : Keyword) (t : Text) : Prop :=
  ∃ gap rest, t = gap ++ (k.spelling ++ rest) ∧ gap.IsGap ∧ rest.IsGap

theorem Keyword.isWord_spelling (k : Keyword) : IsWord k.spelling := by
  cases k <;> decide

theorem Keyword.alone_iff {k : Keyword} {t : Text} : k.Alone t ↔ t.words = [k.spelling] := by
  rw [words_eq_cons_iff]
  constructor
  · rintro ⟨gap, rest, ht, hg, hr⟩
    exact ⟨gap, rest, ht, hg, k.isWord_spelling, .nil hr⟩
  · rintro ⟨gap, rest, ht, hg, -, hr⟩
    exact ⟨gap, rest, ht, hg, words_eq_nil_iff.mp hr.words_eq⟩

namespace Directive

variable {d : Directive} {t : Text}

theorem written_iff : d.Written t ↔
    ∃ more, t.words = d.keyword.spelling :: (d.operands ++ more) ∧
      (d.keyword = .callFunc → more = []) := by
  constructor
  · rintro ⟨gap, rest, more, ht, hg, hr, hm⟩
    exact ⟨more, words_eq_cons_iff.mpr ⟨gap, rest, ht, hg, d.keyword.isWord_spelling, hr⟩, hm⟩
  · rintro ⟨more, hw, hm⟩
    obtain ⟨gap, rest, ht, hg, -, hr⟩ := words_eq_cons_iff.mp hw
    exact ⟨gap, rest, more, ht, hg, hr, hm⟩

theorem ofWords_eq_ok_iff {k : Keyword} {ws : List Text} : ofWords k ws = .ok d ↔
    d.keyword = k ∧ ∃ more, ws = d.operands ++ more ∧ (k = .callFunc → more = []) := by
  constructor
  · intro h
    refine ⟨keyword_of_ofWords h, ?_⟩
    cases k <;> cases ws <;> simp only [ofWords, reduceCtorEq, Except.ok.injEq] at h <;> subst h
    all_goals simp [operands]
  · rintro ⟨rfl, more, rfl, hm⟩
    cases d with
    | opening | returning | closing => rfl
    | calling name arguments =>
      obtain rfl := hm rfl
      rw [List.append_nil]
      rfl

theorem ofWords_eq_error_iff {k : Keyword} {ws : List Text} {m : MissingOperand} :
    ofWords k ws = .error m ↔ k ≠ .funcEnd ∧ m = ⟨k, k.expected⟩ ∧ ws = [] := by
  cases k <;> cases ws <;> simp [ofWords, Keyword.expected, eq_comm]

theorem words_join {ws : List Text} (h : ∀ w ∈ ws, IsWord w) : words (join [' '] ws) = ws := by
  induction ws with
  | nil => rfl
  | cons w ws ih =>
    rw [List.forall_mem_cons] at h
    cases ws with
    | nil => simp [join, words_of_isWord h.1]
    | cons v ws =>
      have hj : join [' '] (w :: v :: ws) = w ++ ' ' :: join [' '] (v :: ws) := by simp [join]
      rw [hj, words_append_space h.1, ih h.2]

theorem words_print (h : ∀ w ∈ d.operands, IsWord w) :
    d.print.words = d.keyword.spelling :: d.operands :=
  words_join (List.forall_mem_cons.mpr ⟨d.keyword.isWord_spelling, h⟩)

theorem Written.isWord (h : d.Written t) : ∀ w ∈ d.operands, IsWord w := by
  obtain ⟨more, hw, -⟩ := written_iff.mp h
  intro w hmem
  apply isWord_of_mem_words (t := t)
  rw [hw]
  exact List.mem_cons_of_mem _ (List.mem_append_left more hmem)

end Directive

namespace Line

variable {t : Text}

def IsPlain (t : Text) : Prop := ∀ (k : Keyword) ws, t.words ≠ k.spelling :: ws

def ofPlain (t : Text) : Line :=
  if t.head? = some '#' then comment t else if t.words = [] then blank else other t

theorem isPlain_of_numberSign (h : t.head? = some '#') : IsPlain t := by
  intro k ws hw
  have hk : Keyword.ofWord? k.spelling = some k := Keyword.ofWord?_eq_some_iff.mpr rfl
  rw [SourceLine.not_keyword_of_numberSign h hw] at hk
  cases hk

theorem isPlain_of_blank (h : t.words = []) : IsPlain t := by
  intro k ws hw
  rw [h] at hw
  cases hw

theorem classify_of_isPlain (h : IsPlain t) : classify t = .ok (ofPlain t) := by
  unfold classify ofPlain
  split
  · rfl
  · cases hw : t.words with
    | nil => rfl
    | cons w ws =>
      have hk : Keyword.ofWord? w = none := by
        refine Option.eq_none_iff_forall_ne_some.mpr fun k hk ↦ h k ws ?_
        rw [hw, Keyword.ofWord?_eq_some_iff.mp hk]
      simp only [hk, reduceCtorEq, if_false]

theorem classify_cases (t : Text) :
    (∃ (k : Keyword) (ws : List Text), t.words = k.spelling :: ws ∧
      classify t = (Directive.ofWords k ws).map directive) ∨
    IsPlain t ∧ classify t = .ok (ofPlain t) := by
  by_cases h : IsPlain t
  · exact .inr ⟨h, classify_of_isPlain h⟩
  · unfold IsPlain at h
    push Not at h
    obtain ⟨k, ws, hw⟩ := h
    exact .inl ⟨k, ws, hw, classify_of_words hw⟩

theorem ofPlain_ne_directive (t : Text) (d : Directive) : ofPlain t ≠ directive d := by
  unfold ofPlain
  split_ifs <;> nofun

theorem ofPlain_eq_blank_iff : ofPlain t = blank ↔ t.IsGap := by
  rw [← words_eq_nil_iff, ofPlain]
  split_ifs with hs hw
  · refine iff_of_false nofun fun hw ↦ ?_
    obtain ⟨u, rfl⟩ := List.head?_eq_some_iff.mp hs
    exact words_ne_nil List.mem_cons_self (by decide) hw
  · exact iff_of_true rfl hw
  · exact iff_of_false nofun hw

theorem ofPlain_eq_comment_iff {u : Text} :
    ofPlain t = comment u ↔ t.head? = some '#' ∧ u = t := by
  unfold ofPlain
  split_ifs with hs <;> simp [hs, eq_comm]

theorem ofPlain_eq_other_iff {u : Text} :
    ofPlain t = other u ↔ ¬ t.IsGap ∧ t.head? ≠ some '#' ∧ u = t := by
  rw [← words_eq_nil_iff, ofPlain]
  split_ifs with hs hw
  · simp [hs]
  · simp [hw]
  · simp [hs, hw, eq_comm]

theorem classify_eq_directive_iff {d : Directive} :
    classify t = .ok (directive d) ↔ d.Written t := by
  rw [Directive.written_iff]
  rcases classify_cases t with ⟨k, ws, hw, hc⟩ | ⟨hp, hc⟩
  · have hd : classify t = .ok (directive d) ↔ Directive.ofWords k ws = .ok d := by
      rw [hc]
      cases Directive.ofWords k ws <;> simp [Except.map]
    rw [hd, Directive.ofWords_eq_ok_iff, hw]
    constructor
    · rintro ⟨rfl, more, rfl, hm⟩
      exact ⟨more, rfl, hm⟩
    · rintro ⟨more, hcons, hm⟩
      obtain ⟨hk, rfl⟩ := List.cons.inj hcons
      obtain rfl := Keyword.spelling_inj.mp hk
      exact ⟨rfl, more, rfl, hm⟩
  · rw [hc]
    constructor
    · intro h
      exact absurd (Except.ok.inj h) (ofPlain_ne_directive t d)
    · rintro ⟨more, hw, -⟩
      exact absurd hw (hp _ _)

theorem classify_eq_error_iff {m : MissingOperand} :
    classify t = .error m ↔ ∃ k, k ≠ .funcEnd ∧ k.Alone t ∧ m = ⟨k, k.expected⟩ := by
  simp only [Keyword.alone_iff]
  rcases classify_cases t with ⟨k, ws, hw, hc⟩ | ⟨hp, hc⟩
  · have hd : classify t = .error m ↔ Directive.ofWords k ws = .error m := by
      rw [hc]
      cases Directive.ofWords k ws <;> simp [Except.map]
    rw [hd, Directive.ofWords_eq_error_iff, hw]
    constructor
    · rintro ⟨hk, hm, rfl⟩
      exact ⟨k, hk, rfl, hm⟩
    · rintro ⟨j, hj, hcons, hm⟩
      obtain ⟨hk, rfl⟩ := List.cons.inj hcons
      obtain rfl := Keyword.spelling_inj.mp hk
      exact ⟨hj, hm, rfl⟩
  · rw [hc]
    constructor
    · intro h
      cases h
    · rintro ⟨k, -, hw, -⟩
      exact absurd hw (hp _ _)

theorem classify_eq_plain_iff {x : Line} (hx : ∀ d, x ≠ directive d) :
    classify t = .ok x ↔ IsPlain t ∧ ofPlain t = x := by
  rcases classify_cases t with ⟨k, ws, hw, hc⟩ | ⟨hp, hc⟩
  · rw [hc]
    constructor
    · intro h
      cases hd : Directive.ofWords k ws with
      | error m =>
        rw [hd] at h
        cases h
      | ok d =>
        rw [hd] at h
        exact absurd (Except.ok.inj h).symm (hx d)
    · rintro ⟨hp, -⟩
      exact absurd hw (hp k ws)
  · rw [hc, and_iff_right hp, Except.ok.injEq]

theorem isPlain_iff : IsPlain t ↔
    (∀ d : Directive, ¬ d.Written t) ∧ ∀ k, k ≠ .funcEnd → ¬ Keyword.Alone k t := by
  rcases classify_cases t with ⟨k, ws, hw, hc⟩ | ⟨hp, hc⟩
  · refine iff_of_false (fun hp ↦ hp k ws hw) ?_
    rintro ⟨hd, hk⟩
    cases hr : Directive.ofWords k ws with
    | error m =>
      obtain ⟨hne, -, rfl⟩ := Directive.ofWords_eq_error_iff.mp hr
      exact hk k hne (Keyword.alone_iff.mpr hw)
    | ok d =>
      rw [hr] at hc
      exact hd d (classify_eq_directive_iff.mp hc)
  · refine iff_of_true hp ⟨fun d hd ↦ ?_, fun k _ hk ↦ hp k [] (Keyword.alone_iff.mp hk)⟩
    obtain ⟨more, hw, -⟩ := Directive.written_iff.mp hd
    exact hp _ _ hw

/-- A text is read as a directive when it is written as one, as a directive without its operand when
it is a keyword alone, and otherwise by its first character, unless it is blank. -/
theorem classify_iff (t : Text) :
    (∀ d, classify t = .ok (directive d) ↔ d.Written t) ∧
    (∀ m, classify t = .error m ↔ ∃ k, k ≠ .funcEnd ∧ k.Alone t ∧ m = ⟨k, k.expected⟩) ∧
    (classify t = .ok blank ↔ t.IsGap) ∧
    (∀ u, classify t = .ok (comment u) ↔ t.head? = some '#' ∧ u = t) ∧
    (∀ u, classify t = .ok (other u) ↔
      ((∀ d : Directive, ¬ d.Written t) ∧ ∀ k, k ≠ .funcEnd → ¬ Keyword.Alone k t) ∧
        ¬ t.IsGap ∧ t.head? ≠ some '#' ∧ u = t) ∧
    ∀ d : Directive, classify d.print = .ok (directive d) ↔ ∀ w ∈ d.operands, IsWord w := by
  have hx (x : Line) (h : ∀ d, x ≠ directive d) := classify_eq_plain_iff (t := t) h
  refine ⟨fun d ↦ classify_eq_directive_iff, fun m ↦ classify_eq_error_iff, ?_, ?_, ?_, ?_⟩
  · rw [hx blank (fun _ ↦ nofun), ofPlain_eq_blank_iff, and_iff_right_iff_imp]
    intro h
    exact isPlain_of_blank (words_eq_nil_iff.mpr h)
  · intro u
    rw [hx (comment u) (fun _ ↦ nofun), ofPlain_eq_comment_iff, and_iff_right_iff_imp]
    intro h
    exact isPlain_of_numberSign h.1
  · intro u
    rw [hx (other u) (fun _ ↦ nofun), ofPlain_eq_other_iff, isPlain_iff]
  · intro d
    rw [classify_eq_directive_iff]
    refine ⟨fun h ↦ h.isWord, fun h ↦ Directive.written_iff.mpr ⟨[], ?_, fun _ ↦ rfl⟩⟩
    rw [Directive.words_print h, List.append_nil]

end Line

end LabelBasic
