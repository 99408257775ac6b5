import LabelBasic.Command.Program
import LabelBasic.Proofs.Command.FileSystem
import Mathlib.Data.List.DropRight
import Mathlib.Tactic.SplitIfs

namespace LabelBasic

theorem bind_eq_ok_iff {ε α β : Type} {x : Except ε α} {f : α → Except ε β} {b : β} :
    x >>= f = .ok b ↔ ∃ a, x = .ok a ∧ f a = .ok b := by
  cases x with
  | error e => simp [bind, Except.bind]
  | ok a => simp [bind, Except.bind]

theorem Route.enter_cases (r : Route) (name : Text) : r.enter name = r ∨
    r.enter name = r.dropLast ∨
      (name ≠ [] ∧ name ≠ dot ∧ name ≠ dotDot) ∧ r.enter name = r ++ [name] := by
  unfold enter
  split_ifs with he hdd
  · exact .inl rfl
  · exact .inr (.inl rfl)
  · obtain ⟨hn, hd⟩ := not_or.mp he
    exact .inr (.inr ⟨⟨hn, hd, hdd⟩, rfl⟩)

namespace FileTree

variable {t t' : FileTree} {r s start : Route} {n : Node} {path : Text} {bytes : ByteArray}
  {names : List Text}

theorem lookup_filter_of_ne {nodes : List (Route × Node)} (h : s ≠ r) :
    (nodes.filter fun e ↦ e.1 != r).lookup s = nodes.lookup s := by
  induction nodes with
  | nil => rfl
  | cons e nodes ih =>
    obtain ⟨r', n⟩ := e
    by_cases hr : r' = r
    · have hs : (s == r') = false := by simp [hr, h]
      simp [hr, List.lookup_cons, ih, hr ▸ hs]
    · simp [hr, List.lookup_cons, ih]

@[simp] theorem homeRoute_put : (t.put r n).homeRoute = t.homeRoute := rfl

@[simp] theorem nodes_put :
    (t.put r n).nodes = (r, n) :: t.nodes.filter fun e ↦ e.1 != r := rfl

theorem node?_put_of_ne (h : s ≠ r) : (t.put r n).node? s = t.node? s := by
  have hs : (s == r) = false := by simp [h]
  simp [node?, List.lookup_cons, hs, lookup_filter_of_ne h]

theorem node?_put_self (h : t.node? r ≠ some .directory) : (t.put r n).node? r = some n := by
  unfold node? at h
  split at h
  · exact absurd rfl h
  · rename_i hr
    rw [node?, homeRoute_put, if_neg hr]
    simp

theorem checkDirectory_eq_ok_iff : t.checkDirectory r = .ok () ↔ t.node? r = some .directory := by
  unfold checkDirectory
  split <;> simp_all

theorem walk_cons_eq_ok_iff {name : Text} : t.walk r (name :: names) = .ok s ↔
    t.node? r = some .directory ∧ checkName name = .ok () ∧ t.walk (r.enter name) names = .ok s := by
  rw [← checkDirectory_eq_ok_iff, walk]
  simp only [bind_eq_ok_iff]
  constructor
  · intro ⟨_, hd, _, hn, hw⟩
    exact ⟨hd, hn, hw⟩
  · intro ⟨hd, hn, hw⟩
    exact ⟨(), hd, (), hn, hw⟩

theorem walk_append_eq_ok_iff {names' : List Text} : t.walk r (names ++ names') = .ok s ↔
    ∃ d, t.walk r names = .ok d ∧ t.walk d names' = .ok s := by
  induction names generalizing r with
  | nil => simp [walk]
  | cons name names ih =>
    simp only [List.cons_append, walk_cons_eq_ok_iff, ih]
    constructor
    · intro ⟨hd, hn, d, h, h'⟩
      exact ⟨d, ⟨hd, hn, h⟩, h'⟩
    · intro ⟨d, ⟨hd, hn, h⟩, h'⟩
      exact ⟨hd, hn, d, h, h'⟩

theorem walk_eq_ok_congr
    (h : ∀ r, t'.node? r = some .directory ↔ t.node? r = some .directory) :
    t'.walk start names = .ok s ↔ t.walk start names = .ok s := by
  induction names generalizing start with
  | nil => simp only [walk]
  | cons name names ih => simp only [walk_cons_eq_ok_iff, h, ih]

/-- The directories around a route are there. -/
def Rooted (t : FileTree) (r : Route) : Prop :=
  ∀ s, s <+: r.dropLast → t.node? s = some .directory

theorem Rooted.enter (h : t.Rooted r) (hd : t.node? r = some .directory) (name : Text) :
    t.Rooted (r.enter name) := by
  intro s hs
  rcases r.enter_cases name with he | he | ⟨-, he⟩
  · rw [he] at hs
    exact h s hs
  · rw [he] at hs
    exact h s (hs.trans (List.dropLast_prefix _))
  · rw [he, List.dropLast_concat] at hs
    rcases List.eq_nil_or_concat' r with hnil | ⟨before, last, hr⟩
    · subst hnil
      rw [List.prefix_nil.mp hs]
      exact hd
    · rw [hr, List.prefix_concat_iff] at hs
      rcases hs with hs | hs
      · rw [hs, ← hr]
        exact hd
      · exact h s (by rwa [hr, List.dropLast_concat])

theorem Rooted.walk (h : t.Rooted start) (hw : t.walk start names = .ok s) : t.Rooted s := by
  induction names generalizing start with
  | nil =>
    cases hw
    exact h
  | cons name names ih =>
    obtain ⟨hd, -, hw⟩ := walk_cons_eq_ok_iff.mp hw
    exact ih (h.enter hd name) hw

theorem node?_of_prefix_homeRoute (h : r <+: t.homeRoute) : t.node? r = some .directory :=
  if_pos (List.isPrefixOf_iff_prefix.mpr h)

theorem rooted_locate (t : FileTree) (path : Text) :
    t.Rooted (t.locate path).1 ∧ t.node? (t.locate path).1 = some .directory := by
  have hl : (t.locate path).1 <+: t.homeRoute := by
    unfold locate
    split
    · exact List.nil_prefix
    · exact List.prefix_rfl
  exact ⟨fun s hs ↦ node?_of_prefix_homeRoute (hs.trans ((List.dropLast_prefix _).trans hl)),
    node?_of_prefix_homeRoute hl⟩

def fileSystem : FileSystem FileTree Route where
  place? t path := (checkPath path >>= fun () ↦ t.walk (t.locate path).1 (t.locate path).2).toOption
  node? := node?

theorem place?_eq_some_iff : fileSystem.place? t path = some r ↔
    checkPath path = .ok () ∧ t.walk (t.locate path).1 (t.locate path).2 = .ok r := by
  have ho (x : Except FileError Route) : x.toOption = some r ↔ x = .ok r := by
    cases x <;> simp [Except.toOption]
  change (checkPath path >>= fun () ↦ _).toOption = _ ↔ _
  rw [ho, bind_eq_ok_iff]
  constructor
  · intro ⟨(), hp, hw⟩
    exact ⟨hp, hw⟩
  · intro ⟨hp, hw⟩
    exact ⟨(), hp, hw⟩

/-- The path leads to a file, or to a place in a directory where a file can be made. -/
def Writable (t : FileTree) (path : Text) (r : Route) : Prop :=
  fileSystem.place? t path = some r ∧ t.node? r ≠ some .directory

theorem read_eq_ok_iff : t.read path = .ok bytes ↔ fileSystem.Holds t path bytes := by
  unfold read FileSystem.Holds
  simp only [bind_eq_ok_iff, place?_eq_some_iff]
  constructor
  · intro ⟨_, hp, r, hw, hf⟩
    refine ⟨r, ⟨hp, hw⟩, ?_⟩
    split at hf
    · cases hf
    · cases hf
    · rename_i hn
      cases hf
      exact hn
  · intro ⟨r, ⟨hp, hw⟩, hn⟩
    change t.node? r = _ at hn
    exact ⟨(), hp, r, hw, by simp [hn, pure, Except.pure]⟩

theorem isFile_iff : t.isFile path ↔ ∃ bytes, fileSystem.Holds t path bytes := by
  simp only [← read_eq_ok_iff]
  unfold isFile
  cases t.read path <;> simp [Except.isOk, Except.toBool]

theorem Writable.exists_name (h : t.Writable path r) : ∃ before last d,
    (t.locate path).2 = before ++ [last] ∧ (last ≠ [] ∧ last ≠ Route.dot ∧ last ≠ Route.dotDot) ∧
      t.walk (t.locate path).1 before = .ok d ∧ t.node? d = some .directory ∧
        checkName last = .ok () ∧ r = d ++ [last] := by
  obtain ⟨hplace, hr⟩ := h
  obtain ⟨-, hw⟩ := place?_eq_some_iff.mp hplace
  obtain ⟨hroot, hstart⟩ := t.rooted_locate path
  generalize (t.locate path).1 = start at *
  rcases List.eq_nil_or_concat' (t.locate path).2 with hnil | ⟨before, last, hnames⟩
  · rw [hnil] at hw
    cases hw
    exact absurd hstart hr
  · rw [hnames] at hw ⊢
    obtain ⟨d, hb, hl⟩ := walk_append_eq_ok_iff.mp hw
    obtain ⟨hd, hn, hl⟩ := walk_cons_eq_ok_iff.mp hl
    have hl : d.enter last = r := Except.ok.inj hl
    rcases d.enter_cases last with he | he | ⟨hproper, he⟩
    · rw [← hl, he] at hr
      exact absurd hd hr
    · rw [← hl, he] at hr
      exact absurd (hroot.walk hb _ List.prefix_rfl) hr
    · exact ⟨before, last, d, rfl, hproper, hb, hd, hn, by rw [← hl, he]⟩

theorem writable_of_name {before : List Text} {last : Text} {d : Route}
    (hp : checkPath path = .ok ()) (hnames : (t.locate path).2 = before ++ [last])
    (hlast : last ≠ [] ∧ last ≠ Route.dot ∧ last ≠ Route.dotDot)
    (hb : t.walk (t.locate path).1 before = .ok d) (hd : t.node? d = some .directory)
    (hn : checkName last = .ok ()) (hr : t.node? (d ++ [last]) ≠ some .directory) :
    t.Writable path (d ++ [last]) := by
  have he : d.enter last = d ++ [last] := by simp [Route.enter, hlast]
  refine ⟨place?_eq_some_iff.mpr ⟨hp, ?_⟩, hr⟩
  rw [hnames, walk_append_eq_ok_iff]
  exact ⟨d, hb, walk_cons_eq_ok_iff.mpr ⟨hd, hn, by rw [he, walk]⟩⟩

theorem exists_eq_append_of_length_le {last : Text}
    (hlength : names.length ≤ (names.reverse.dropWhile List.isEmpty).reverse.length)
    (hlast : (names.reverse.dropWhile List.isEmpty).reverse.getLast? = some last) :
    ∃ before, names = before ++ [last] ∧ last ≠ [] ∧
      (names.reverse.dropWhile List.isEmpty).reverse.dropLast = before := by
  have hall : names.rdropWhile List.isEmpty = names :=
    (List.rdropWhile_prefix _ _).eq_of_length_le hlength
  change (names.rdropWhile List.isEmpty).getLast? = some last at hlast
  change ∃ before, names = _ ∧ _ ∧ (names.rdropWhile List.isEmpty).dropLast = before
  rw [hall] at hlast ⊢
  have hnames := List.dropLast_append_getLast? last hlast
  refine ⟨names.dropLast, hnames.symm, ?_, rfl⟩
  intro he
  rw [← hnames, List.rdropWhile_eq_self_iff] at hall
  simpa [he] using hall (by simp)

/-- A write succeeds exactly for a path that leads to no directory, whatever the bytes are. -/
theorem write_eq_ok_iff :
    t.write path bytes = .ok t' ↔ ∃ r, t.Writable path r ∧ t' = t.put r (.file bytes) := by
  constructor
  · intro h
    unfold write at h
    simp only [bind_eq_ok_iff] at h
    obtain ⟨_, hp, h⟩ := h
    split at h
    · cases h
    rename_i last hlast
    simp only [bind_eq_ok_iff] at h
    obtain ⟨d, hw, _, hd, h⟩ := h
    split at h
    · cases h
    rename_i hguard
    simp only [bind_eq_ok_iff] at h
    obtain ⟨_, hn, h⟩ := h
    split at h
    · cases h
    rename_i hr
    cases h
    simp only [Bool.or_eq_true, decide_eq_true_eq, not_or, not_lt] at hguard
    obtain ⟨⟨hlength, hdot⟩, hdd⟩ := hguard
    obtain ⟨before, hnames, he, hbefore⟩ := exists_eq_append_of_length_le hlength hlast
    rw [hbefore] at hw
    exact ⟨d ++ [last], writable_of_name hp hnames ⟨he, hdot, hdd⟩ hw
      (checkDirectory_eq_ok_iff.mp hd) hn hr, rfl⟩
  · intro ⟨r, hr, ht⟩
    obtain ⟨before, last, d, hnames, ⟨he, hdot, hdd⟩, hb, hd, hn, hrd⟩ := hr.exists_name
    have hproper : ((before ++ [last]).reverse.dropWhile List.isEmpty).reverse
        = before ++ [last] := by
      simp [he]
    unfold write
    simp only [hnames, bind_eq_ok_iff, hproper, List.getLast?_concat]
    refine ⟨(), (place?_eq_some_iff.mp hr.1).1, d, by simpa using hb, (), checkDirectory_eq_ok_iff.mpr hd, ?_⟩
    rw [if_neg (by simp [hdot, hdd])]
    simp only [bind_eq_ok_iff]
    refine ⟨(), hn, ?_⟩
    rw [← hrd, ht]
    split
    · exact absurd ‹_› hr.2
    · rfl

theorem replaced_of_write (h : t.write path bytes = .ok t') :
    fileSystem.Replaced t t' path bytes := by
  obtain ⟨r, ⟨hl, hr⟩, ht⟩ := write_eq_ok_iff.mp h
  subst ht
  have hd (s : Route) : (t.put r (.file bytes)).node? s = some .directory ↔
      t.node? s = some .directory := by
    by_cases hs : s = r
    · subst hs
      rw [node?_put_self hr]
      simp [hr]
    · rw [node?_put_of_ne hs]
  exact {
    place := fun path' ↦ Option.ext fun s ↦ by
      simp only [place?_eq_some_iff]
      exact and_congr_right fun _ ↦ walk_eq_ok_congr hd
    node := ⟨r, hl, node?_put_self hr, fun s hs ↦ node?_put_of_ne hs⟩ }

end FileTree

theorem Program.lawful_host (env : Environment) : (host env).Lawful FileTree.fileSystem where
  isFile_iff _ _ := FileTree.isFile_iff
  holds_of_read hr := FileTree.read_eq_ok_iff.mp hr
  unchanged_of_write hw := by
    unfold host at hw
    dsimp only at hw
    split at hw
    · cases hw
    · cases hw
      exact .refl
  replaced_of_write hw := by
    unfold host at hw
    dsimp only at hw
    split at hw
    · rename_i ht
      cases hw
      exact FileTree.replaced_of_write ht
    · cases hw
  print_all hp := by
    cases hp
    rfl

end LabelBasic
