import LabelBasic.Proofs.Expansion.Run
import LabelBasic.Proofs.System.Files

namespace LabelBasic

theorem Options.ext_get {o o' : Options} (h : ∀ s, o.get s = o'.get s) : o = o' := by
  cases o
  cases o'
  simp only [mk.injEq]
  exact ⟨h .markers, h .trimLines, h .trailingNewline, h .warnNestedCalls⟩

theorem Invocation.eq_options_iff {i : Invocation} {c : Config} {o : Options} :
    o = i.options c ↔
      ∀ s, o.get s = if i.noMarkers ∧ s = .markers then false else c.expand.get s := by
  have hget (s : Setting) : (i.options c).get s =
      if i.noMarkers ∧ s = .markers then false else c.expand.get s := by
    unfold options
    cases i.noMarkers with
    | false => simp
    | true => simp [Options.get_set]
  constructor
  · intro h s
    rw [h, hget]
  · intro h
    exact Options.ext_get fun s ↦ by rw [h, hget]

namespace Host

variable {σ π : Type} {h : Host σ} {fs : FileSystem σ π} {files after : σ} {i : Invocation}
  {j : Job} {c : Config} {x : Expansion} {path directory t printed : Text}
  {output : Option Text}

section Specification

variable (h : Host σ) (fs : FileSystem σ π) (files : σ)

def Reads (path t : Text) : Prop :=
  ∃ bytes, h.read files path = .ok bytes ∧ fs.Holds files path bytes ∧
    Text.ofBytes? bytes = some t

/-- The configuration is in the file that is named. Without a name it is in the usual file of the
working directory, and without such a file it is the default. -/
inductive Configures (directory : Text) : Option Text → Config → Prop
  | named {path t : Text} {c : Config} (hr : h.Reads fs files path t)
      (hp : h.config? t = some c) : Configures directory (some path) c
  | found {t : Text} {c : Config} (hr : h.Reads fs files (Config.pathIn directory) t)
      (hp : h.config? t = some c) : Configures directory none c
  | default (hf : ∀ bytes, ¬ fs.Holds files (Config.pathIn directory) bytes) :
      Configures directory none {}

inductive Supplies : Option Text → Source → Prop
  | file {path t : Text} (hr : h.Reads fs files path t) : Supplies (some path) ⟨path, t⟩
  | standardInput {bytes : ByteArray} {t : Text} (hs : h.standardInput = .ok bytes)
      (ht : Text.ofBytes? bytes = some t) : Supplies none ⟨"<stdin>".toList, t⟩

/-- There are a configuration and an input, and with the settings of the configuration, less the
markers if the command line says so, the input has an expansion. -/
def Expands (i : Invocation) (x : Expansion) : Prop :=
  ∃ directory c source o, h.currentDirectory = .ok directory ∧
    h.Configures fs files directory i.config c ∧ h.Supplies fs files i.input source ∧
    (∀ s, Options.get o s = if i.noMarkers ∧ s = .markers then false else c.expand.get s) ∧
    (expandSource o source).result = .ok x

def CanDeliver (t : Text) : Option Text → Prop
  | some path => ∃ bytes, Text.ofBytes? bytes = some t ∧ (h.write files path bytes).1 = .ok ()
  | none => (h.print t).1 = .ok ()

variable (before after : σ)

/-- A text is at the output, and nothing else has changed. -/
inductive Delivered (printed t : Text) : Option Text → Prop
  | file {path : Text} {bytes : ByteArray} (ht : Text.ofBytes? bytes = some t)
      (hf : fs.Replaced before after path bytes) (ho : printed = []) :
      Delivered printed t (some path)
  | standardOutput (hf : fs.Unchanged before after) (ho : printed = t) :
      Delivered printed t none

/-- What was asked for is there in full, or nothing has changed. Only a text that standard output
breaks off may be there in part. -/
structure AllOrNothing (i : Invocation) (o : Outcome σ) : Prop where
  success : o.exitCode = 0 ↔
    ∃ x, h.Expands fs files i x ∧ h.CanDeliver files x.render i.output
  all : ∀ x, h.Expands fs files i x → h.CanDeliver files x.render i.output →
    Delivered fs files o.files o.standardOutput x.render i.output
  nothing : o.exitCode ≠ 0 → o.exitCode = 1 ∧ fs.Unchanged files o.files ∧
    (o.standardOutput = [] ∨ ∃ x cause, h.Expands fs files i x ∧ i.output = none ∧
      h.print x.render = (.error cause, o.standardOutput))

end Specification

theorem decode_eq_ok_iff {bytes : ByteArray} :
    Text.decode bytes = .ok t ↔ Text.ofBytes? bytes = some t := by
  unfold Text.decode
  split <;> simp [*]

theorem readText_eq_ok_iff (hl : h.Lawful fs) :
    h.readText files path = .ok t ↔ h.Reads fs files path t := by
  unfold readText Reads
  simp only [bind_eq_ok_iff, decode_eq_ok_iff]
  constructor
  · intro ⟨bytes, hr, ht⟩
    exact ⟨bytes, hr, hl.holds_of_read hr, ht⟩
  · intro ⟨bytes, hr, _, ht⟩
    exact ⟨bytes, hr, ht⟩

theorem configOfFile_eq_ok_iff (hl : h.Lawful fs) : h.configOfFile files path = .ok c ↔
    ∃ t, h.Reads fs files path t ∧ h.config? t = some c := by
  simp only [← readText_eq_ok_iff hl]
  unfold configOfFile
  cases h.readText files path with
  | error cause => simp
  | ok t => cases hp : h.config? t <;> simp [hp]

theorem loadConfig_none : h.loadConfig files directory none =
    if h.isFile files (Config.pathIn directory) then
      h.configOfFile files (Config.pathIn directory)
    else .ok {} := by
  simp only [loadConfig, findConfig]
  split
  · cases h.configOfFile files (Config.pathIn directory) <;> rfl
  · rfl

theorem loadConfig_eq_ok_iff (hl : h.Lawful fs) {named : Option Text} :
    h.loadConfig files directory named = .ok c ↔ h.Configures fs files directory named c := by
  cases named with
  | some path =>
    rw [loadConfig, configOfFile_eq_ok_iff hl]
    constructor
    · intro ⟨t, hr, hp⟩
      exact .named hr hp
    · intro hc
      cases hc with
      | named hr hp => exact ⟨_, hr, hp⟩
  | none =>
    have hisFile := hl.isFile_iff files (Config.pathIn directory)
    rw [loadConfig_none]
    constructor
    · intro hc
      split at hc
      · obtain ⟨t, hr, hp⟩ := (configOfFile_eq_ok_iff hl).mp hc
        exact .found hr hp
      · rename_i hf
        cases hc
        exact .default fun bytes hb ↦ hf (hisFile.mpr ⟨bytes, hb⟩)
    · intro hc
      cases hc with
      | found hr hp =>
        have ⟨bytes, _, hb, _⟩ := hr
        rw [if_pos (hisFile.mpr ⟨bytes, hb⟩)]
        exact (configOfFile_eq_ok_iff hl).mpr ⟨_, hr, hp⟩
      | default hno =>
        rw [if_neg fun hf ↦ (hisFile.mp hf).elim hno]

theorem source_eq_ok_iff (hl : h.Lawful fs) {input : Option Text} {source : Source} :
    h.source files input = .ok source ↔ h.Supplies fs files input source := by
  constructor
  · intro hs
    unfold Host.source at hs
    split at hs
    · split at hs
      · cases hs
        exact .file ((readText_eq_ok_iff hl).mp ‹_›)
      · cases hs
    · split at hs
      · cases hs
        obtain ⟨bytes, hb, ht⟩ := bind_eq_ok_iff.mp ‹_›
        exact .standardInput hb (decode_eq_ok_iff.mp ht)
      · cases hs
  · intro hs
    cases hs with
    | file hr => simp [Host.source, (readText_eq_ok_iff hl).mpr hr]
    | standardInput hb ht => simp [Host.source, hb, Except.bind, decode_eq_ok_iff.mpr ht]

theorem canDeliver_iff : h.CanDeliver files t output ↔ (h.deliver files t output).1 = .ok () := by
  cases output with
  | some path =>
    have hw : h.CanDeliver files t (some path) ↔ (h.write files path t.toBytes).1 = .ok () := by
      simp [CanDeliver, Text.ofBytes?_eq_some_iff]
    rw [hw, deliver]
    rcases h.write files path t.toBytes with ⟨_ | _, after⟩ <;> simp
  | none =>
    rw [CanDeliver, deliver]
    rcases h.print t with ⟨_ | _, printed⟩ <;> simp

theorem delivered_of_deliver (hl : h.Lawful fs)
    (hd : h.deliver files t output = (.ok (), after, printed)) :
    Delivered fs files after printed t output := by
  unfold deliver at hd
  split at hd
  · split at hd
    · rename_i hw
      cases hd
      exact .file (Text.ofBytes?_eq_some_iff.mpr rfl) (hl.replaced_of_write hw) rfl
    · cases hd
  · split at hd
    · rename_i hp
      cases hd
      exact .standardOutput .refl (hl.print_all hp)
    · cases hd

theorem unchanged_of_deliver (hl : h.Lawful fs) {e : JobError}
    (hd : h.deliver files t output = (.error e, after, printed)) :
    fs.Unchanged files after ∧
      (printed = [] ∨ ∃ cause, output = none ∧ h.print t = (.error cause, printed)) := by
  unfold deliver at hd
  split at hd
  · split at hd
    · cases hd
    · rename_i hw
      cases hd
      exact ⟨hl.unchanged_of_write hw, .inl rfl⟩
  · split at hd
    · cases hd
    · rename_i cause _ hp
      cases hd
      exact ⟨.refl, .inr ⟨cause, rfl, hp⟩⟩

def Yields (h : Host σ) (files : σ) (j : Job) (x : Expansion) : Prop :=
  ∃ source, h.source files j.input = .ok source ∧ (expandSource j.options source).result = .ok x

theorem Yields.unique {y : Expansion} (hx : h.Yields files j x) (hy : h.Yields files j y) :
    x = y := by
  obtain ⟨source, hs, hr⟩ := hx
  obtain ⟨source', hs', hr'⟩ := hy
  cases hs.symm.trans hs'
  exact Except.ok.inj (hr.symm.trans hr')

/-- A job that has no expansion touches nothing, and any other ends as its delivery does. -/
theorem perform_cases (h : Host σ) (files : σ) (j : Job) :
    (∃ e, (h.perform files j).result = .error e ∧ (h.perform files j).files = files ∧
      (h.perform files j).standardOutput = [] ∧ ∀ x, ¬ h.Yields files j x) ∨
    ∃ x r, h.Yields files j x ∧ (h.perform files j).result = r.map (fun () ↦ x) ∧
      h.deliver files x.render j.output =
        (r, (h.perform files j).files, (h.perform files j).standardOutput) := by
  cases hs : h.source files j.input with
  | error e =>
    have hno (x : Expansion) : ¬ h.Yields files j x := by simp [Yields, hs]
    exact .inl ⟨e, by simp [perform, hs, hno]⟩
  | ok source =>
    cases hx : (expandSource j.options source).result with
    | error e =>
      have hno (x : Expansion) : ¬ h.Yields files j x := by simp [Yields, hs, hx]
      exact .inl ⟨.expansion e, by simp [perform, hs, hx, hno]⟩
    | ok x =>
      have hy : h.Yields files j x := ⟨source, hs, hx⟩
      rcases hd : h.deliver files x.render j.output with ⟨e | _, after, printed⟩
      · exact .inr ⟨x, .error e, hy, by simp [perform, hs, hx, hd, Except.map]⟩
      · exact .inr ⟨x, .ok (), hy, by simp [perform, hs, hx, hd, Except.map]⟩

theorem expands_iff (hl : h.Lawful fs) : h.Expands fs files i x ↔
    ∃ directory c, h.currentDirectory = .ok directory ∧
      h.loadConfig files directory i.config = .ok c ∧ h.Yields files (i.job c) x := by
  unfold Expands Yields
  simp only [← loadConfig_eq_ok_iff hl, ← source_eq_ok_iff hl, ← Invocation.eq_options_iff]
  constructor
  · intro ⟨directory, c, source, o, hd, hc, hs, ho, hx⟩
    subst ho
    exact ⟨directory, c, hd, hc, source, hs, hx⟩
  · intro ⟨directory, c, hd, hc, source, hs, hx⟩
    exact ⟨directory, c, source, _, hd, hc, hs, rfl, hx⟩

theorem allOrNothing_of_failed {o : Outcome σ} (hno : ∀ x, ¬ h.Expands fs files i x)
    (he : o.exitCode = 1) (ho : o.standardOutput = []) (hf : o.files = files) :
    h.AllOrNothing fs files i o where
  success := by simp [he, hno]
  all x hx := absurd hx (hno x)
  nothing _ := ⟨he, hf ▸ .refl, .inl ho⟩

theorem files_expandWith :
    (h.expandWith files i c).files = (h.perform files (i.job c)).files := by
  simp only [expandWith]
  split <;> rfl

theorem standardOutput_expandWith :
    (h.expandWith files i c).standardOutput = (h.perform files (i.job c)).standardOutput := by
  simp only [expandWith]
  split <;> rfl

theorem exitCode_expandWith : (h.expandWith files i c).exitCode =
    if (h.perform files (i.job c)).result.isOk then 0 else 1 := by
  simp only [expandWith]
  split <;> simp [*, Except.isOk, Except.toBool]

theorem expandWith_allOrNothing (hl : h.Lawful fs)
    (hexpands : ∀ x, h.Expands fs files i x ↔ h.Yields files (i.job c) x) :
    h.AllOrNothing fs files i (h.expandWith files i c) := by
  rcases h.perform_cases files (i.job c) with ⟨e, hr, hf, ho, hno⟩ | ⟨x, r, hy, hr, hd⟩
  · refine allOrNothing_of_failed (fun x ↦ (hexpands x).not.mpr (hno x)) ?_ ?_ ?_
    · rw [exitCode_expandWith, hr]
      rfl
    · rw [standardOutput_expandWith, ho]
    · rw [files_expandWith, hf]
  · have hx : h.Expands fs files i x := (hexpands x).mpr hy
    have hunique (y : Expansion) (hx : h.Expands fs files i y) : y = x :=
      ((hexpands y).mp hx).unique hy
    have hcan : h.CanDeliver files x.render i.output ↔ r = .ok () := by
      rw [canDeliver_iff, show h.deliver files x.render i.output = _ from hd]
    rw [← files_expandWith, ← standardOutput_expandWith] at hd
    cases r with
    | error e =>
      have hexit : (h.expandWith files i c).exitCode = 1 := by
        rw [exitCode_expandWith, hr]
        rfl
      have hno (y : Expansion) (hy : h.Expands fs files i y) :
          ¬ h.CanDeliver files y.render i.output := by
        rw [hunique y hy, hcan]
        exact nofun
      obtain ⟨hf, ho⟩ := unchanged_of_deliver hl hd
      refine ⟨?_, fun y hy hcan ↦ absurd hcan (hno y hy), fun _ ↦ ⟨hexit, hf, ?_⟩⟩
      · rw [hexit]
        exact iff_of_false nofun fun ⟨y, hy, hcan⟩ ↦ hno y hy hcan
      · rcases ho with ho | ⟨cause, ho, hp⟩
        · exact .inl ho
        · exact .inr ⟨x, cause, hx, ho, hp⟩
    | ok u =>
      have hexit : (h.expandWith files i c).exitCode = 0 := by
        rw [exitCode_expandWith, hr]
        rfl
      refine ⟨?_, ?_, fun hne ↦ absurd hexit hne⟩
      · exact iff_of_true hexit ⟨x, hx, hcan.mpr rfl⟩
      · intro y hy _
        rw [hunique y hy]
        exact delivered_of_deliver hl hd

theorem expand_allOrNothing (hl : h.Lawful fs) (files : σ) (i : Invocation) :
    h.AllOrNothing fs files i (h.expand files i) := by
  unfold expand
  cases hd : h.currentDirectory with
  | error cause => exact allOrNothing_of_failed (by simp [expands_iff hl, hd]) rfl rfl rfl
  | ok directory =>
    cases hc : h.loadConfig files directory i.config with
    | error e =>
      simp only [hc]
      exact allOrNothing_of_failed (by simp [expands_iff hl, hd, hc]) rfl rfl rfl
    | ok c =>
      simp only [hc]
      exact expandWith_allOrNothing hl fun x ↦ by simp [expands_iff hl, hd, hc]

/-- Every run that gets past its command line does all or nothing. -/
theorem run_allOrNothing (hl : h.Lawful fs) (files : σ) (arguments : List Text) (i : Invocation)
    (hi : h.commandLine arguments = .ok i) : h.AllOrNothing fs files i (h.run files arguments) := by
  unfold run
  rw [hi]
  exact expand_allOrNothing hl files i

end Host

namespace Program

/-- A tree takes a text at every path that leads to a file or to a place for one. -/
theorem canDeliver_iff_writable {env : Environment} {tree : FileTree} {path t : Text} :
    (host env).CanDeliver tree t (some path) ↔ ∃ r, tree.Writable path r := by
  have hw : (host env).CanDeliver tree t (some path) ↔
      ∃ tree', tree.write path t.toBytes = .ok tree' := by
    simp only [Host.CanDeliver, Text.ofBytes?_eq_some_iff, exists_eq_left, host]
    cases tree.write path t.toBytes <;> simp
  rw [hw]
  constructor
  · intro ⟨tree', h⟩
    obtain ⟨r, hr, -⟩ := FileTree.write_eq_ok_iff.mp h
    exact ⟨r, hr⟩
  · intro ⟨r, hr⟩
    exact ⟨_, FileTree.write_eq_ok_iff.mpr ⟨r, hr, rfl⟩⟩

def inPlace : Environment where
  world.files.home := "/w".toList
  world.files.nodes := [
    (["w".toList, "lbx.toml".toList],
      .file "[expand]\nmarkers = false\ntrailing-newline = false\n".toUTF8),
    (["w".toList, "a.lb".toList], .file "FUNC f\nFUNCEND".toUTF8)]

theorem run_allOrNothing_inPlace :
    let o := run inPlace ["a.lb".toList, "a.lb".toList]
    let t := "GOTO SKIPFUNC0\nLBL FUNC0\nGOTO $FUNCRTNGOTO\nLBL SKIPFUNC0".toList
    (o.exitCode = 0 ∧ o.standardOutput = [] ∧
      (host inPlace).readText o.files "a.lb".toList = .ok t) ∧
    (run inPlace ["a.lb".toList]).standardOutput = t := by
  intro o t
  refine ⟨?_, by decide +kernel⟩
  let i : Invocation := { input := "a.lb".toList, output := "a.lb".toList }
  let c : Config := { expand := { markers := false, trailingNewline := false } }
  let x := Script.expansion c.expand (sourceLines "FUNC f\nFUNCEND".toList)
  have hl := lawful_host inPlace
  have hrun := Host.run_allOrNothing hl inPlace.world.files ["a.lb".toList, "a.lb".toList] i
    (by decide +kernel)
  have hread : (host inPlace).readText inPlace.world.files "/w/lbx.toml".toList =
      .ok "[expand]\nmarkers = false\ntrailing-newline = false\n".toList := by
    decide +kernel
  have hconfig : (host inPlace).Configures FileTree.fileSystem inPlace.world.files "/w".toList
      none c :=
    .found ((Host.readText_eq_ok_iff hl).mp hread) (by decide +kernel)
  have hinput : (host inPlace).Supplies FileTree.fileSystem inPlace.world.files "a.lb".toList
      ⟨"a.lb".toList, "FUNC f\nFUNCEND".toList⟩ :=
    .file ((Host.readText_eq_ok_iff hl).mp (by decide +kernel))
  have hexpands : (host inPlace).Expands FileTree.fileSystem inPlace.world.files i x :=
    ⟨_, c, _, c.expand, rfl, hconfig, hinput, fun _ ↦ rfl, by decide +kernel⟩
  have hrender : x.render = t := by decide +kernel
  have hcan : (host inPlace).CanDeliver inPlace.world.files x.render i.output := by
    refine canDeliver_iff_writable.mpr ⟨["w".toList, "a.lb".toList], ?_⟩
    unfold FileTree.Writable
    decide +kernel
  have hall := hrun.all x hexpands hcan
  rw [hrender] at hall
  cases hall with
  | file ht hf ho =>
    refine ⟨hrun.success.mpr ⟨x, hexpands, hcan⟩, ho, ?_⟩
    rw [Host.readText_eq_ok_iff hl]
    exact ⟨_, FileTree.read_eq_ok_iff.mpr hf.holds, hf.holds, ht⟩

end Program

end LabelBasic
