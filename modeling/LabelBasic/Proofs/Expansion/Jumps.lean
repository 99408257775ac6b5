import LabelBasic.Proofs.Expansion.Labels

namespace LabelBasic

theorem exists_of_append_eq {α : Type} {p q u v : List α} {a : α} (h : p ++ q = u ++ a :: v)
    (ha : a ∉ p) : ∃ w, u = p ++ w ∧ q = w ++ a :: v := by
  rcases List.append_eq_append_iff.mp h with ⟨w, rfl, hq⟩ | ⟨w, rfl, hq⟩
  · exact ⟨w, rfl, hq⟩
  · cases w with
    | nil => exact ⟨[], by simp, by simpa using hq.symm⟩
    | cons b w =>
      obtain ⟨rfl, -⟩ := List.cons.inj hq
      exact absurd (by simp) ha

def IsFlat (lines : List OutputLine) : Prop :=
  ∀ i, .generated (.label (.entry i)) ∉ lines ∧ .generated (.label (.skip i)) ∉ lines

/-- Every label that a generated line names is defined once, and where it has to be. -/
structure JumpsClosed (lines : List OutputLine) : Prop where
  once : ∀ a, .generated (.goto a) ∈ lines ∨
      .generated (.setVal .returnAddress (.label a)) ∈ lines →
    (lines.map OutputLine.text).count ("LBL ".toList ++ a.spelling) = 1
  /-- A jump over a body goes forward to the end of the body that starts on the next line. -/
  skip : ∀ i before after, lines = before ++ .generated (.goto (.skip i)) :: after →
    ∃ body rest, IsFlat body ∧ after = .generated (.label (.entry i)) ::
      (body ++ .generated (.gotoIndirect .returnAddress) :: .generated (.label (.skip i)) :: rest)
  /-- A call goes back to a body that was started before. -/
  enter : ∀ i before after, lines = before ++ .generated (.goto (.entry i)) :: after →
    ∃ first rest, before = first ++ .generated (.goto (.skip i)) ::
      .generated (.label (.entry i)) :: rest
  /-- What a call stores is the label right after its jump. -/
  resume : ∀ x before after, lines = before ++ .generated (.setVal .returnAddress x) :: after →
    ∃ i j rest, x = .label (.resume j) ∧
      after = .generated (.goto (.entry i)) :: .generated (.label (.resume j)) :: rest

namespace Script

open SourceLine OutputLine

variable {s : Script} {l : SourceLine} {o : Options} {u v : List OutputLine}

theorem mem_openingCode {markers : Bool} {n : Text} {id : Nat} {i : Instruction} :
    i ∈ Scan.openingCode markers n id ↔
      markers ∧ i = .beginMarker n ∨ i = .goto (.skip id) ∨ i = .label (.entry id) := by
  cases markers <;> simp [Scan.openingCode]

theorem mem_closingCode {markers : Bool} {id : Nat} {i : Instruction} :
    i ∈ Scan.closingCode markers id ↔
      i = .gotoIndirect .returnAddress ∨ i = .label (.skip id) ∨ markers ∧ i = .endMarker := by
  cases markers <;> simp [Scan.closingCode]

theorem generated_mem_lineOutput {before : Script} {i : Instruction}
    (h : .generated i ∈ lineOutput o before l) :
    (∃ n, l.Defines n ∧ i ∈ Scan.openingCode o.markers n (numberOf .func before)) ∨
    (∃ value, l.Returns value ∧ i ∈ Scan.returningCode value) ∨
    (l.keyword? = some .funcEnd ∧
      i ∈ Scan.closingCode o.markers (numberOf .func before - 1)) ∨
    ∃ n arguments, l.Calls n arguments ∧
      i ∈ Scan.callingCode (position n before) (numberOf .callFunc before) arguments := by
  rcases l.reading_cases with hl | ⟨k, hl⟩ | ⟨n, hl⟩ | ⟨value, hl⟩ | hl | ⟨n, arguments, hl⟩
  · rw [lineOutput_of_plain o before hl] at h
    simp at h
  · rw [lineOutput_of_lacksOperand o before hl] at h
    simp at h
  · rw [lineOutput_of_defines o before hl] at h
    exact .inl ⟨n, hl, by simpa using h⟩
  · rw [lineOutput_of_returns o before hl] at h
    exact .inr (.inl ⟨value, hl, by simpa using h⟩)
  · rw [lineOutput_of_closes o before hl] at h
    exact .inr (.inr (.inl ⟨hl, by simpa using h⟩))
  · rw [lineOutput_of_calls o before hl] at h
    exact .inr (.inr (.inr ⟨n, arguments, hl, by simpa using h⟩))

theorem goto_skip_of_lineOutput {before : Script} {i : Nat}
    (h : lineOutput o before l = u ++ .generated (.goto (.skip i)) :: v) :
    (∃ n, l.Defines n) ∧ i = numberOf .func before ∧ v = [.generated (.label (.entry i))] := by
  have hm : .generated (.goto (.skip i)) ∈ lineOutput o before l := by simp [h]
  rcases generated_mem_lineOutput hm with ⟨n, hn, -⟩ | ⟨_, -, hi⟩ | ⟨-, hi⟩ | ⟨_, _, -, hi⟩
  · refine ⟨⟨n, hn⟩, ?_⟩
    rw [lineOutput_of_defines o before hn, Scan.openingCode, List.map_append] at h
    obtain ⟨w, -, hw⟩ := exists_of_append_eq h (by split <;> simp)
    cases w with
    | nil =>
      simp only [List.map_cons, List.nil_append, List.cons.injEq] at hw
      obtain ⟨hi, rfl⟩ := hw
      cases hi
      exact ⟨rfl, rfl⟩
    | cons a w => simp [List.cons_eq_append_iff] at hw
  · simp [Scan.returningCode] at hi
  · simp [mem_closingCode] at hi
  · simp [Scan.callingCode] at hi

theorem goto_entry_of_lineOutput {before : Script} {i : Nat}
    (h : lineOutput o before l = u ++ .generated (.goto (.entry i)) :: v) :
    ∃ n arguments, l.Calls n arguments ∧ i = position n before := by
  have hm : .generated (.goto (.entry i)) ∈ lineOutput o before l := by simp [h]
  rcases generated_mem_lineOutput hm with ⟨n, -, hi⟩ | ⟨_, -, hi⟩ | ⟨-, hi⟩ | ⟨n, _, hn, hi⟩
  · simp [mem_openingCode] at hi
  · simp [Scan.returningCode] at hi
  · simp [mem_closingCode] at hi
  · refine ⟨n, _, hn, ?_⟩
    simpa [Scan.callingCode] using hi

theorem setVal_of_lineOutput {before : Script} {x : Operand}
    (h : lineOutput o before l = u ++ .generated (.setVal .returnAddress x) :: v) :
    ∃ i j, x = .label (.resume j) ∧
      v = [.generated (.goto (.entry i)), .generated (.label (.resume j))] := by
  have hm : .generated (.setVal .returnAddress x) ∈ lineOutput o before l := by simp [h]
  rcases generated_mem_lineOutput hm with ⟨n, -, hi⟩ | ⟨_, -, hi⟩ | ⟨-, hi⟩ | ⟨n, arguments, hn, -⟩
  · simp [mem_openingCode] at hi
  · simp [Scan.returningCode] at hi
  · simp [mem_closingCode] at hi
  · rw [lineOutput_of_calls o before hn, Scan.callingCode, List.map_append] at h
    obtain ⟨w, -, hw⟩ := exists_of_append_eq h (by simp)
    cases w with
    | nil =>
      simp only [List.map_cons, List.nil_append, List.cons.injEq] at hw
      obtain ⟨hi, rfl⟩ := hw
      cases hi
      exact ⟨_, _, rfl, rfl⟩
    | cons a w => simp [List.cons_eq_append_iff] at hw

theorem not_goto_resume {before : Script} {j : Nat} :
    .generated (.goto (.resume j)) ∉ lineOutput o before l := by
  intro h
  rcases generated_mem_lineOutput h with ⟨n, -, hi⟩ | ⟨_, -, hi⟩ | ⟨-, hi⟩ | ⟨n, _, -, hi⟩
  · simp [mem_openingCode] at hi
  · simp [Scan.returningCode] at hi
  · simp [mem_closingCode] at hi
  · simp [Scan.callingCode] at hi

theorem isFlat_lineOutput (before : Script) (h : l.IsInner) : IsFlat (lineOutput o before l) := by
  have hi : ∀ a, .generated (.label a) ∈ lineOutput o before l → ∃ j, a = .resume j := by
    intro a ha
    have hm : a ∈ lineLabels before l := by
      rw [← filterMap_label?_lineOutput o]
      exact List.mem_filterMap.mpr ⟨_, ha, rfl⟩
    unfold lineLabels at hm
    split at hm
    · exact absurd ‹_› h.1
    · exact absurd ‹_› h.2
    · exact ⟨_, List.mem_singleton.mp hm⟩
    · cases hm
  intro i
  constructor
  · intro hm
    obtain ⟨j, hj⟩ := hi _ hm
    cases hj
  · intro hm
    obtain ⟨j, hj⟩ := hi _ hm
    cases hj

theorem skip_output {i : Nat} (hs : Faultless s) (hc : ¬ s.IsOpen)
    (h : gather (lineOutput o) s = u ++ .generated (.goto (.skip i)) :: v) :
    ∃ body rest, IsFlat body ∧ v = .generated (.label (.entry i)) ::
      (body ++ .generated (.gotoIndirect .returnAddress) ::
        .generated (.label (.skip i)) :: rest) := by
  obtain ⟨before, l, after, u', v', rfl, hl, -, rfl⟩ := gather_eq_append_cons h
  obtain ⟨⟨n, hn⟩, rfl, rfl⟩ := goto_skip_of_lineOutput hl
  obtain ⟨body, e, rest, rfl, hbody, he, -⟩ := hs.exists_body hc hn.1
  have hid : numberOf .func (before ++ l :: body) - 1 = numberOf .func before := by
    rw [numberOf_func_body hn.1 hbody, Nat.add_sub_cancel]
  have hv : gather (fun c ↦ lineOutput o (before ++ l :: c)) (body ++ e :: rest) =
      gather (fun c ↦ lineOutput o (before ++ l :: c)) body ++
        (.generated (.gotoIndirect .returnAddress) ::
          .generated (.label (.skip (numberOf .func before))) ::
          ((if o.markers then [Instruction.endMarker] else []).map OutputLine.generated ++
            gather (fun c ↦ lineOutput o (before ++ l :: (body ++ e :: c))) rest)) := by
    rw [gather_append_cons, lineOutput_of_closes o _ he, hid]
    rfl
  rw [hv]
  refine ⟨gather (fun c ↦ lineOutput o (before ++ l :: c)) body, _, fun i ↦ ⟨?_, ?_⟩, rfl⟩
  · intro hm
    obtain ⟨pre, x, post, rfl, hx⟩ := mem_gather.mp hm
    exact (isFlat_lineOutput _ (hbody x (by simp)) i).1 hx
  · intro hm
    obtain ⟨pre, x, post, rfl, hx⟩ := mem_gather.mp hm
    exact (isFlat_lineOutput _ (hbody x (by simp)) i).2 hx

theorem enter_output {i : Nat} (hs : Faultless s)
    (h : gather (lineOutput o) s = u ++ .generated (.goto (.entry i)) :: v) :
    ∃ first rest, u = first ++ .generated (.goto (.skip i)) ::
      .generated (.label (.entry i)) :: rest := by
  obtain ⟨before, l, after, u', v', rfl, hl, rfl, -⟩ := gather_eq_append_cons h
  obtain ⟨n, arguments, hn, rfl⟩ := goto_entry_of_lineOutput hl
  obtain ⟨pre, first, post, rfl, hf, hpre⟩ := hs.exists_first hn
  rw [position_of_first hf hpre, gather_append_cons, lineOutput_of_defines o pre hf,
    Scan.openingCode, List.map_append]
  simp only [List.map_cons, List.map_nil, List.append_assoc, List.cons_append, List.nil_append]
  rw [← List.append_assoc]
  exact ⟨_, _, rfl⟩

theorem resume_output {x : Operand}
    (h : gather (lineOutput o) s = u ++ .generated (.setVal .returnAddress x) :: v) :
    ∃ i j rest, x = .label (.resume j) ∧
      v = .generated (.goto (.entry i)) :: .generated (.label (.resume j)) :: rest := by
  obtain ⟨before, l, after, u', v', rfl, hl, -, rfl⟩ := gather_eq_append_cons h
  obtain ⟨i, j, rfl, rfl⟩ := setVal_of_lineOutput hl
  exact ⟨i, j, _, rfl, rfl⟩

theorem filterMap_definedLabel?_output (hc : ∀ x ∈ gather (lineOutput o) s, x.IsSilent) :
    ((gather (lineOutput o) s).map OutputLine.text).filterMap definedLabel? =
      s.labels.map Label.spelling := by
  rw [List.filterMap_map, ← filterMap_label?_output o, List.map_filterMap]
  exact List.filterMap_congr fun x hx ↦ definedLabel?_text (hc x hx)

theorem count_label {a : Label} (hs : Faultless s)
    (hc : ∀ x ∈ gather (lineOutput o) s, x.IsSilent)
    (ha : .generated (.label a) ∈ gather (lineOutput o) s) :
    ((gather (lineOutput o) s).map OutputLine.text).count ("LBL ".toList ++ a.spelling) = 1 := by
  have hm : a ∈ s.labels := by
    rw [← filterMap_label?_output o]
    exact List.mem_filterMap.mpr ⟨_, ha, rfl⟩
  have hn : (s.labels.map Label.spelling).Nodup :=
    (labels_census hs).1.map fun _ _ ↦ Label.spelling_inj.mp
  have h1 := List.count_eq_one_of_mem hn (List.mem_map_of_mem hm)
  rw [← filterMap_definedLabel?_output hc, List.count, List.countP_filterMap] at h1
  rw [← h1, List.count]
  refine List.countP_congr fun t _ ↦ ?_
  constructor
  · intro h
    rw [definedLabel?_eq_some_iff.mpr (eq_of_beq h)]
    simp
  · intro h
    cases ht : definedLabel? t with
    | none => simp [ht] at h
    | some w =>
      rw [definedLabel?_eq_some_iff.mp ht]
      simpa [ht] using h

theorem jumpsClosed_output (hs : Faultless s) (ho : ¬ s.IsOpen)
    (hc : ∀ x ∈ gather (lineOutput o) s, x.IsSilent) :
    JumpsClosed (gather (lineOutput o) s) where
  skip i u v h := skip_output hs ho h
  enter i u v h := enter_output hs h
  resume x u v h := resume_output h
  once a h := by
    apply count_label hs hc
    rcases h with h | h
    · obtain ⟨u, v, huv⟩ := List.append_of_mem h
      cases a with
      | entry i =>
        obtain ⟨first, rest, rfl⟩ := enter_output hs huv
        rw [huv]
        simp
      | skip i =>
        obtain ⟨body, rest, -, rfl⟩ := skip_output hs ho huv
        rw [huv]
        simp
      | resume j =>
        obtain ⟨before, l, after, -, hl⟩ := mem_gather.mp h
        exact absurd hl not_goto_resume
    · obtain ⟨u, v, huv⟩ := List.append_of_mem h
      obtain ⟨i, j, rest, hx, rfl⟩ := resume_output huv
      cases hx
      rw [huv]
      simp

theorem mem_labels_spelling (hs : Faultless s) (ho : ¬ s.IsOpen) (t : Text) :
    t ∈ s.labels.map Label.spelling ↔
      (∃ i < numberOf .func s,
        t = "FUNC".toList ++ Text.decimal i ∨ t = "SKIPFUNC".toList ++ Text.decimal i) ∨
      ∃ j < numberOf .callFunc s, t = "FUNCRTNGOTO".toList ++ Text.decimal j := by
  have hb := hs.balance
  have he : numberOf .funcEnd s = numberOf .func s := by
    unfold IsOpen at ho
    omega
  rw [List.mem_map]
  constructor
  · rintro ⟨a, ha, rfl⟩
    have hi := (labels_census hs).2 a |>.mp ha
    cases a with
    | entry i => exact .inl ⟨i, hi, .inl rfl⟩
    | skip i => exact .inl ⟨i, he ▸ hi, .inr rfl⟩
    | resume j => exact .inr ⟨j, hi, rfl⟩
  · rintro (⟨i, hi, rfl | rfl⟩ | ⟨j, hj, rfl⟩)
    · exact ⟨.entry i, ((labels_census hs).2 _).mpr hi, rfl⟩
    · rw [← he] at hi
      exact ⟨.skip i, ((labels_census hs).2 _).mpr hi, rfl⟩
    · exact ⟨.resume j, ((labels_census hs).2 _).mpr hj, rfl⟩

end Script

open Script

/-- The labels of an expansion are those of its functions and its calls, each defined once, and
every jump has its label in the right place. -/
theorem expansion_labels {o : Options} {source : Source} {items : List Text} {x : Expansion}
    (h : (expandSource o source).result = .ok x ∨ (expandLines o items).result = .ok x)
    (hc : ∀ t, .copied t ∈ x.lines → ¬ "LBL ".toList <+: t) :
    x.labels.Nodup ∧
      (∀ t, t ∈ x.labels ↔
        (∃ i < x.functions.length,
          t = "FUNC".toList ++ Text.decimal i ∨ t = "SKIPFUNC".toList ++ Text.decimal i) ∨
        ∃ j < x.callSites, t = "FUNCRTNGOTO".toList ++ Text.decimal j) ∧
      JumpsClosed x.lines := by
  obtain ⟨s, hs, ho, rfl⟩ : ∃ s, Faultless s ∧ ¬ s.IsOpen ∧ x = s.expansion o := by
    rcases h with h | h
    · obtain ⟨-, hs, ho, hx, -⟩ := expand_eq_ok h
      exact ⟨_, hs, ho, hx⟩
    · obtain ⟨-, hs, ho, hx, -⟩ := expand_eq_ok h
      exact ⟨_, hs, ho, hx⟩
  have hsilent : ∀ y ∈ gather (lineOutput o) s, y.IsSilent := by
    intro y hy
    cases y with
    | copied t => exact hc t hy
    | generated i => trivial
  have hl : (s.expansion o).labels = s.labels.map Label.spelling :=
    filterMap_definedLabel?_output hsilent
  have hf : (s.expansion o).functions.length = numberOf .func s := length_functions hs
  rw [hl, hf]
  refine ⟨?_, mem_labels_spelling hs ho, jumpsClosed_output hs ho hsilent⟩
  exact (labels_census hs).1.map fun _ _ ↦ Label.spelling_inj.mp

def recursion : Source where
  name := "a.lb".toList
  text := "FUNC F\nCALLFUNC F x\nFUNCEND\nCALLFUNC F".toList

def OutputLine.isGenerated : OutputLine → Bool
  | copied _ => false
  | generated _ => true

theorem expansion_labels_recursion :
    let x := expansion {} (sourceLines recursion.text)
    (expandSource {} recursion).result = .ok x ∧ x.labels.Nodup ∧ x.functions.length = 1 ∧
      x.callSites = 2 ∧ JumpsClosed x.lines := by
  have hx : (expandSource {} recursion).result =
      .ok (expansion {} (sourceLines recursion.text)) := by decide +kernel
  have hc : ∀ t, .copied t ∈ (expansion {} (sourceLines recursion.text)).lines →
      ¬ "LBL ".toList <+: t := by
    have hl : (expansion {} (sourceLines recursion.text)).lines.all OutputLine.isGenerated := by
      decide +kernel
    intro t ht
    exact absurd (List.all_eq_true.mp hl _ ht) Bool.false_ne_true
  obtain ⟨hn, -, hj⟩ := @expansion_labels {} recursion [] _ (.inl hx) hc
  exact ⟨hx, hn, by decide +kernel, by decide +kernel, hj⟩

end LabelBasic
