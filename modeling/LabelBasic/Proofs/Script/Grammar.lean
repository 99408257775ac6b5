import LabelBasic.Proofs.Script.Fault

namespace LabelBasic.Script

open SourceLine

/-- Inner lines and function bodies of inner lines, in any order. -/
inductive Blocks : Script → Prop
  | nil : Blocks []
  | line {l : SourceLine} {rest : Script} (h : l.IsInner) (hr : Blocks rest) : Blocks (l :: rest)
  | block {l e : SourceLine} {body rest : Script} (hl : l.keyword? = some .func)
      (hb : ∀ x ∈ body, x.IsInner) (he : e.keyword? = some .funcEnd) (hr : Blocks rest) :
      Blocks (l :: (body ++ e :: rest))

structure WellFormed (s : Script) : Prop where
  blocks : Blocks s
  operands : ∀ l ∈ s, ∀ k, ¬ l.LacksOperand k
  names : s.Pairwise fun a b ↦ ∀ n, a.Defines n → ¬ b.Defines n
  calls : ∀ before l after n arguments, s = before ++ l :: after → l.Calls n arguments →
    ∃ d ∈ before, d.Defines n

variable {s : Script} {l : SourceLine}

theorem numberOf_func_of_inner (h : ∀ x ∈ s, x.IsInner) : numberOf .func s = 0 :=
  numberOf_eq_zero fun x hx ↦ (h x hx).1

theorem numberOf_funcEnd_of_inner (h : ∀ x ∈ s, x.IsInner) : numberOf .funcEnd s = 0 :=
  numberOf_eq_zero fun x hx ↦ (h x hx).2

theorem isOpen_append_of_inner {t : Script} (h : ∀ x ∈ t, x.IsInner) :
    IsOpen (s ++ t) ↔ s.IsOpen := by
  rw [IsOpen, IsOpen, numberOf_append, numberOf_append, numberOf_func_of_inner h,
    numberOf_funcEnd_of_inner h, Nat.add_zero, Nat.add_zero]

theorem numberOf_func_body {body : Script} (hl : l.keyword? = some .func)
    (hb : ∀ x ∈ body, x.IsInner) :
    numberOf .func (s ++ l :: body) = numberOf .func s + 1 := by
  rw [numberOf_append, numberOf_cons, numberOf_func_of_inner hb, if_pos hl]

theorem numberOf_block {e : SourceLine} {body : Script} (hl : l.keyword? = some .func)
    (hb : ∀ x ∈ body, x.IsInner) (he : e.keyword? = some .funcEnd) (rest : Script) :
    numberOf .func (l :: (body ++ e :: rest)) = numberOf .func rest + 1 ∧
      numberOf .funcEnd (l :: (body ++ e :: rest)) = numberOf .funcEnd rest + 1 := by
  simp [numberOf_cons, numberOf_append, numberOf_func_of_inner hb, numberOf_funcEnd_of_inner hb,
    hl, he]

/-- What the keyword of a line says of the lines before it. -/
def Fits (before : Script) (l : SourceLine) : Prop :=
  (l.keyword? = some .func → ¬ before.IsOpen) ∧ (l.keyword? = some .funcEnd → before.IsOpen)

theorem fits_of_isInner (before : Script) (h : l.IsInner) : Fits before l :=
  ⟨fun hk ↦ absurd hk h.1, fun hk ↦ absurd hk h.2⟩

theorem Blocks.not_isOpen (h : Blocks s) : ¬ s.IsOpen := by
  unfold IsOpen
  induction h with
  | nil => simp
  | line h hr ih => simpa [numberOf_cons, h.1, h.2] using ih
  | @block l e body rest hl hb he hr ih =>
    have hn := numberOf_block hl hb he rest
    omega

theorem Blocks.fits (h : Blocks s) :
    ∀ before l after, s = before ++ l :: after → Fits before l := by
  induction h with
  | nil => simp
  | @line x rest h hr ih =>
    intro before l after hs
    rcases List.cons_eq_append_iff.mp hs with ⟨rfl, hs'⟩ | ⟨before, rfl, hs'⟩
    · obtain ⟨rfl, rfl⟩ := List.cons.inj hs'
      exact fits_of_isInner [] h
    · simpa [Fits, IsOpen, numberOf_cons, h.1, h.2] using ih before l after hs'
  | @block x e body rest hx hb he hr ih =>
    intro before l after hs
    rcases List.cons_eq_append_iff.mp hs with ⟨rfl, hs'⟩ | ⟨before, rfl, hs'⟩
    · obtain ⟨rfl, rfl⟩ := List.cons.inj hs'
      exact ⟨fun _ ↦ by simp [IsOpen], fun hk ↦ absurd (hx.symm.trans hk) (by decide)⟩
    rcases List.append_eq_append_iff.mp hs' with ⟨u, rfl, hu⟩ | ⟨u, rfl, hu⟩
    · rcases List.cons_eq_append_iff.mp hu with ⟨rfl, hv⟩ | ⟨u, rfl, hv⟩
      · obtain ⟨rfl, rfl⟩ := List.cons.inj hv
        refine ⟨fun hk ↦ absurd (he.symm.trans hk) (by decide), fun _ ↦ ?_⟩
        simp [IsOpen, numberOf_cons, hx, numberOf_func_of_inner hb, numberOf_funcEnd_of_inner hb]
      · have hn := numberOf_block hx hb he u
        have hf := ih u l after hv
        unfold Fits IsOpen at hf ⊢
        constructor
        · intro hk
          have := hf.1 hk
          omega
        · intro hk
          have := hf.2 hk
          omega
    · cases u with
      | nil =>
        obtain ⟨rfl, rfl⟩ := List.cons.inj hu
        rw [List.append_nil] at hb
        refine ⟨fun hk ↦ absurd (he.symm.trans hk) (by decide), fun _ ↦ ?_⟩
        simp [IsOpen, numberOf_cons, hx, numberOf_func_of_inner hb, numberOf_funcEnd_of_inner hb]
      | cons y u =>
        obtain ⟨rfl, rfl⟩ := List.cons.inj hu
        exact fits_of_isInner _ (hb l (by simp))

/-- What follows the first lines of a script without a fault whose last body is closed: blocks, or
the rest of the open body and then blocks. -/
theorem Faultless.blocks_after {t : Script} (h : Faultless (s ++ t)) (hc : ¬ IsOpen (s ++ t)) :
    (¬ s.IsOpen → Blocks t) ∧
    (s.IsOpen → ∃ body e rest, t = body ++ e :: rest ∧ (∀ x ∈ body, x.IsInner) ∧
      e.keyword? = some .funcEnd ∧ Blocks rest) := by
  induction t generalizing s with
  | nil =>
    rw [List.append_nil] at hc
    exact ⟨fun _ ↦ .nil, fun ho ↦ absurd ho hc⟩
  | cons l t ih =>
    have ih := ih (s := s ++ [l]) (by simpa using h) (by simpa using hc)
    by_cases hf : l.keyword? = some .func
    · refine ⟨fun _ ↦ ?_, fun ho ↦ absurd ho (h.not_open_of_func hf)⟩
      obtain ⟨body, e, rest, rfl, hb, he, hr⟩ := ih.2 (h.isOpen_of_func hf)
      exact .block hf hb he hr
    by_cases he : l.keyword? = some .funcEnd
    · have hr := ih.1 (h.not_isOpen_of_funcEnd he)
      exact ⟨fun ho ↦ absurd (h.open_of_funcEnd he) ho, fun _ ↦ ⟨[], l, t, rfl, nofun, he, hr⟩⟩
    have hi : l.IsInner := ⟨hf, he⟩
    rw [isOpen_append_of_isInner hi] at ih
    refine ⟨fun ho ↦ .line hi (ih.1 ho), fun ho ↦ ?_⟩
    obtain ⟨body, e, rest, rfl, hb, he, hr⟩ := ih.2 ho
    exact ⟨l :: body, e, rest, rfl, List.forall_mem_cons.mpr ⟨hi, hb⟩, he, hr⟩

theorem Faultless.exists_body {t : Script} (h : Faultless (s ++ l :: t))
    (hc : ¬ IsOpen (s ++ l :: t)) (hl : l.keyword? = some .func) :
    ∃ body e rest, t = body ++ e :: rest ∧ (∀ x ∈ body, x.IsInner) ∧
      e.keyword? = some .funcEnd ∧ Blocks rest := by
  have ho : IsOpen (s ++ [l]) := h.isOpen_of_func hl
  rw [List.append_cons] at h hc
  exact (h.blocks_after hc).2 ho

theorem Faultless.names (h : Faultless s) :
    s.Pairwise fun a b ↦ ∀ n, a.Defines n → ¬ b.Defines n := by
  induction s using List.reverseRecOn with
  | nil => exact .nil
  | append_singleton s l ih =>
    refine List.pairwise_append.mpr ⟨ih h.of_append, List.pairwise_singleton _ l, ?_⟩
    intro d hd x hx n hn
    obtain ⟨before, after, rfl⟩ := List.append_of_mem hd
    rw [List.append_assoc] at h
    exact h.not_defines hn (List.mem_append_right after hx)

theorem Blocks.append {t : Script} (hs : Blocks s) (ht : Blocks t) : Blocks (s ++ t) := by
  induction hs with
  | nil => exact ht
  | line h _ ih => exact .line h ih
  | @block l e body rest hl hb he _ ih =>
    rw [List.cons_append, List.append_assoc, List.cons_append]
    exact .block hl hb he ih

theorem WellFormed.append {t : Script} (hs : WellFormed s) (ht : WellFormed t)
    (hd : ∀ a ∈ s, ∀ b ∈ t, ∀ n, a.Defines n → ¬ b.Defines n) : WellFormed (s ++ t) := by
  refine ⟨hs.blocks.append ht.blocks, ?_, List.pairwise_append.mpr ⟨hs.names, ht.names, hd⟩, ?_⟩
  · intro l hl
    rcases List.mem_append.mp hl with hl | hl
    · exact hs.operands l hl
    · exact ht.operands l hl
  · intro before l after n arguments he hc
    rcases List.append_eq_append_iff.mp he with ⟨u, rfl, hu⟩ | ⟨u, rfl, hu⟩
    · obtain ⟨d, hd, hn⟩ := ht.calls u l after n arguments hu hc
      exact ⟨d, List.mem_append_right s hd, hn⟩
    · cases u with
      | nil =>
        obtain ⟨d, hd, -⟩ := ht.calls [] l after n arguments hu.symm hc
        cases hd
      | cons x u =>
        obtain ⟨rfl, -⟩ := List.cons.inj hu
        exact hs.calls before l u n arguments rfl hc

theorem WellFormed.faultless (h : WellFormed s) : Faultless s := by
  rintro before l after rfl (⟨k, hk⟩ | ⟨n, hl, ho⟩ | ⟨n, hl, ho, d, hd, hn⟩ | ⟨hl, ho⟩ |
    ⟨n, arguments, hl, hn⟩)
  · exact h.operands l (by simp) k hk
  · exact (h.blocks.fits before l after rfl).1 hl.1 ho
  · exact (List.pairwise_append.mp h.names).2.2 d hd l List.mem_cons_self n hn hl
  · exact ho ((h.blocks.fits before l after rfl).2 hl)
  · obtain ⟨d, hd, hdn⟩ := h.calls before l after n arguments rfl hl
    exact hn d hd hdn

/-- The scripts of the grammar are those without a fault that leave no body open. -/
theorem wellFormed_iff : WellFormed s ↔ Faultless s ∧ ¬ s.IsOpen := by
  refine ⟨fun h ↦ ⟨h.faultless, h.blocks.not_isOpen⟩, fun ⟨h, hc⟩ ↦ ?_⟩
  refine ⟨(Faultless.blocks_after (s := []) h hc).1 (by simp [IsOpen]),
    fun l hl k ↦ h.not_lacksOperand hl k, h.names, ?_⟩
  rintro before l after n arguments rfl hl
  obtain ⟨pre, first, post, rfl, hf, -⟩ := h.exists_first hl
  exact ⟨first, by simp, hf⟩

end LabelBasic.Script
