import LabelBasic.Proofs.Expansion.Stateless
import LabelBasic.Proofs.Source.Numbering

namespace LabelBasic

theorem Expander.feedAll_append (e : Expander) (s t : List SourceLine) :
    e.feedAll (s ++ t) =
      match e.feedAll s with
      | (e', none) => e'.feedAll t
      | (e', some failure) => (e', some failure) := by
  induction s generalizing e with
  | nil => rfl
  | cons l s ih =>
    simp only [List.cons_append, feedAll]
    split
    · exact ih _
    · rfl

theorem Expander.feedAll_singleton (e : Expander) (l : SourceLine) : e.feedAll [l] = e.feed l := by
  rw [Expander.feedAll]
  split
  · rw [Expander.feedAll, ‹e.feed l = _›]
  · exact (‹e.feed l = _›).symm

namespace Script

def expander (o : Options) (s : Script) : Expander where
  options := o
  scan := s.scan
  output := (gather (lineOutput o) s).toArray
  log := (gather (lineEvents o) s).toArray

/-- What a script without a fault becomes. -/
def expansion (o : Options) (s : Script) : Expansion where
  lines := gather (lineOutput o) s
  functions := gather definition s
  callSites := numberOf .callFunc s
  trailingNewline := o.trailingNewline

def HasNumbers (s : Script) : Prop :=
  ∀ before l after, s = before ++ l :: after → HasNumber before l

variable {s t : Script} {l : SourceLine} (o : Options)

theorem HasNumbers.of_append (h : HasNumbers (s ++ t)) : HasNumbers s := by
  rintro before l after rfl
  exact h before l (after ++ t) (by simp)

theorem hasNumbers_of_length_le (h : s.length ≤ maxOffset) : HasNumbers s := by
  rintro before l after rfl
  rw [List.length_append, List.length_cons] at h
  have hmax : maxLabel = maxOffset := rfl
  constructor
  · have := numberOf_le_length .funcEnd before
    omega
  · have := numberOf_le_length .callFunc before
    omega

theorem feed_expander (hs : Faultless (s ++ [l])) (hr : HasNumber s l) :
    (s.expander o).feed l = (expander o (s ++ [l]), none) := by
  simp only [Expander.feed, expander, step_scan o hs hr, gather_append_singleton,
    List.toArray_appendList]

theorem feed_expander_of_fault {f : Fault} (h : FaultAfter s l f) :
    (s.expander o).feed l = (s.expander o, some ⟨f, l.site⟩) := by
  simp only [Expander.feed, expander, step_scan_of_fault o h]

theorem feed_expander_of_full (hs : Faultless (s ++ [l])) (hr : ¬ HasNumber s l) :
    ∃ e failure, (s.expander o).feed l = (e, some failure) := by
  obtain ⟨s', counter, h⟩ := step_scan_of_full o hs hr
  simp only [Expander.feed, expander, h]
  exact ⟨_, _, rfl⟩

theorem feedAll_of_faultless (hs : Faultless s) (hr : HasNumbers s) :
    Expander.feedAll { options := o } s = (s.expander o, none) := by
  induction s using List.reverseRecOn with
  | nil => rfl
  | append_singleton s l ih =>
    rw [Expander.feedAll_append, ih hs.of_append hr.of_append]
    simp only [Expander.feedAll, feed_expander o hs (hr s l [] rfl)]

theorem feedAll_of_bad {f : Fault} (hs : Faultless s) (hr : HasNumbers s) (h : FaultAfter s l f)
    (after : Script) :
    Expander.feedAll { options := o } (s ++ l :: after) =
      (s.expander o, some ⟨f, l.site⟩) := by
  rw [Expander.feedAll_append, feedAll_of_faultless o hs hr]
  simp only [Expander.feedAll, feed_expander_of_fault o h]

theorem faultless_of_feedAll {e : Expander}
    (h : Expander.feedAll { options := o } s = (e, none)) : Faultless s ∧ e = s.expander o := by
  induction s using List.reverseRecOn generalizing e with
  | nil => exact ⟨faultless_nil, (Prod.mk.inj h).1.symm⟩
  | append_singleton s l ih =>
    rw [Expander.feedAll_append] at h
    split at h
    case h_2 => cases h
    case h_1 e' he =>
      obtain ⟨hs, rfl⟩ := ih he
      by_cases hl : IsBad s l
      · obtain ⟨f, hf⟩ := hl.fault hs
        simp [Expander.feedAll, feed_expander_of_fault o hf] at h
      have hsl := faultless_append_singleton.mpr ⟨hs, hl⟩
      by_cases hr : HasNumber s l
      · simp only [Expander.feedAll, feed_expander o hsl hr] at h
        exact ⟨hsl, (Prod.mk.inj h).1.symm⟩
      · obtain ⟨e', failure, he⟩ := feed_expander_of_full o hsl hr
        simp [Expander.feedAll, he] at h

theorem finish_of_not_isOpen (h : ¬ s.IsOpen) : (s.expander o).finish = .ok (s.expansion o) := by
  simp only [Expander.finish, Scan.unterminated?, expander, scan, openFunction?_of_not_isOpen h]
  rfl

theorem finish_of_isOpen {d : SourceLine} {n : Text} (h : s.IsOpen) (hd : s.latest? = some d)
    (hn : d.Defines n) :
    (s.expander o).finish = .error ⟨.unterminatedFunction n, d.site⟩ := by
  simp only [Expander.finish, Scan.unterminated?, expander, scan, openFunction?_of_latest h hd hn]
  rfl

end Script

open Script

variable {o : Options} {source : Source}

theorem expand_of_taken {s : Script} {e : Expander} (hsize : source.text.byteSize ≤ maxOffset)
    (h : Expander.feedAll { options := o } s = (e, none)) :
    expand o source s = ⟨e.log.toList, e.finish.mapError (.failed · source)⟩ := by
  rw [expand, if_pos hsize, h]

theorem expand_of_failure {s : Script} {e : Expander} {failure : Failure}
    (hsize : source.text.byteSize ≤ maxOffset)
    (h : Expander.feedAll { options := o } s = (e, some failure)) :
    expand o source s = ⟨e.log.toList, .error (.failed failure source)⟩ := by
  rw [expand, if_pos hsize, h]

/-- An expansion that succeeds is that of a script without a fault that leaves no body open. -/
theorem expand_eq_ok {s : Script} {x : Expansion} (h : (expand o source s).result = .ok x) :
    source.text.byteSize ≤ maxOffset ∧ s.Faultless ∧ ¬ s.IsOpen ∧ x = s.expansion o ∧
      (expand o source s).log = gather (lineEvents o) s := by
  by_cases hsize : source.text.byteSize ≤ maxOffset
  case neg => simp [expand, if_neg hsize] at h
  rcases hr : Expander.feedAll { options := o } s with ⟨e, _ | failure⟩
  case some => simp [expand_of_failure hsize hr] at h
  obtain ⟨hs, rfl⟩ := faultless_of_feedAll o hr
  rw [expand_of_taken hsize hr] at h ⊢
  by_cases ho : s.IsOpen
  · obtain ⟨d, n, hd, hn, -⟩ := hs.openFunction? ho
    rw [finish_of_isOpen o ho hd hn] at h
    cases h
  · rw [finish_of_not_isOpen o ho] at h
    exact ⟨hsize, hs, ho, (Except.ok.inj h).symm, rfl⟩

theorem hasNumbers_sourceLines {t : Text} (ht : t.byteSize ≤ maxOffset) :
    HasNumbers (sourceLines t) :=
  hasNumbers_of_length_le (Nat.le_trans (length_sourceLines_le t) ht)

end LabelBasic
