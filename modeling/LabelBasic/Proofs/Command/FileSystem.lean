import LabelBasic.Command.Host

namespace LabelBasic

theorem Text.ofBytes?_eq_some_iff {bytes : ByteArray} {t : Text} :
    ofBytes? bytes = some t ↔ bytes = t.toBytes := by
  unfold ofBytes? toBytes String.fromUTF8?
  constructor
  · intro h
    split at h
    · cases h
      simp [String.fromUTF8]
    · cases h
  · intro h
    subst h
    rw [String.toUTF8_eq_toByteArray, dif_pos (String.ofList t).isValidUTF8]
    exact congrArg some String.toList_ofList

/-- What paths lead to. A path may also lead to a place where a file has yet to be made. -/
structure FileSystem (σ π : Type) where
  place? : σ → Text → Option π
  node? : σ → π → Option Node

namespace FileSystem

variable {σ π : Type} (fs : FileSystem σ π)

def Holds (files : σ) (path : Text) (bytes : ByteArray) : Prop :=
  ∃ p, fs.place? files path = some p ∧ fs.node? files p = some (.file bytes)

structure Unchanged (before after : σ) : Prop where
  place (path : Text) : fs.place? after path = fs.place? before path
  node (p : π) : fs.node? after p = fs.node? before p

/-- The path leads where it led before, the bytes are there, and all else is as before. -/
structure Replaced (before after : σ) (path : Text) (bytes : ByteArray) : Prop where
  place (path' : Text) : fs.place? after path' = fs.place? before path'
  node : ∃ p, fs.place? before path = some p ∧ fs.node? after p = some (.file bytes) ∧
    ∀ q, q ≠ p → fs.node? after q = fs.node? before q

variable {fs} {before after files : σ} {path : Text} {bytes : ByteArray}

theorem Unchanged.refl : fs.Unchanged files files := ⟨fun _ ↦ rfl, fun _ ↦ rfl⟩

theorem Replaced.holds (h : fs.Replaced before after path bytes) : fs.Holds after path bytes := by
  obtain ⟨p, hp, hn, -⟩ := h.node
  exact ⟨p, by rw [h.place, hp], hn⟩

end FileSystem

/-- What a system promises. A write that fails touches nothing, but a failed print may leave a
part of its text. -/
structure Host.Lawful {σ π : Type} (h : Host σ) (fs : FileSystem σ π) : Prop where
  isFile_iff (files : σ) (path : Text) : h.isFile files path ↔ ∃ bytes, fs.Holds files path bytes
  holds_of_read {files : σ} {path : Text} {bytes : ByteArray}
    (hr : h.read files path = .ok bytes) : fs.Holds files path bytes
  unchanged_of_write {files after : σ} {path : Text} {bytes : ByteArray} {cause : FileError}
    (hw : h.write files path bytes = (.error cause, after)) : fs.Unchanged files after
  replaced_of_write {files after : σ} {path : Text} {bytes : ByteArray}
    (hw : h.write files path bytes = (.ok (), after)) : fs.Replaced files after path bytes
  print_all {t printed : Text} (hp : h.print t = (.ok (), printed)) : printed = t

end LabelBasic
