import Mathlib
import Rampart.File.Opening
import Rampart.Proofs.File.Frame

/-!
# What stands in a file after writing to it

A file that can be read can be written, and then holds what was written.  Hence more can always be
put at the end of a file that is there, and opening a file to append to it keeps what it holds.

* `Node.read_write`, `Node.exists_write_of_read` : reading and writing at one place;
* `Disk.exists_append` : the content grows at its end;
* `Disk.read_of_openToAppend` : opening creates an empty file or changes nothing.
-/

namespace Rampart.File

namespace Node

/-! ## Reading and writing -/

/-- A file can be read exactly where one stands. -/
theorem read_eq_ok_iff {place : List Text} {node : Node} {content : Bytes} :
    read place node = .ok content ↔ item? place node = some (.file content) := by
  refine ⟨item?_of_read, fun h => ?_⟩
  rw [item?] at h
  rw [read]
  cases hfind : node.find place with
  | error f =>
    rw [hfind] at h
    cases h
  | ok found =>
    rw [hfind] at h
    cases found with
    | directory entries => cases h
    | file c =>
      cases h
      rfl

/-- A file that was written holds what was written. -/
theorem read_write {content : Bytes} {place : List Text} {node node' : Node}
    (h : write content place node = .ok node') : read place node' = .ok content := by
  rw [read_eq_ok_iff]
  induction place generalizing node node' with
  | nil =>
    cases node with
    | file old =>
      cases h
      rfl
    | directory entries => cases h
  | cons name rest ih =>
    cases node with
    | file old => cases h
    | directory entries =>
      unfold write at h
      split at h
      · cases h
      · rename_i hlong
        split at h
        · rw [bind_eq_ok_iff] at h
          obtain ⟨child', hwrite, h⟩ := h
          cases h
          rw [item?_cons_directory, if_neg hlong, child?_setChild_self]
          exact ih hwrite
        · cases h
          rw [item?_cons_directory, if_neg hlong, child?_setChild_self]
          rfl
        · cases h

/-- A file that can be read can be overwritten. -/
theorem exists_write_of_read {old : Bytes} {place : List Text} {node : Node} (content : Bytes)
    (h : read place node = .ok old) : ∃ node', write content place node = .ok node' := by
  rw [read_eq_ok_iff] at h
  induction place generalizing node with
  | nil =>
    cases node with
    | file c => exact ⟨_, rfl⟩
    | directory entries => cases h
  | cons name rest ih =>
    obtain ⟨entries, child, rfl, hlong, hchild, h⟩ := exists_child_of_item? h
    obtain ⟨child', hwrite⟩ := ih h
    refine ⟨.directory (setChild name child' entries), ?_⟩
    unfold write
    simp only [hlong, hchild, hwrite]
    rfl

end Node

namespace Disk

/-! ## Content -/

/-- What the file at a place holds; nothing if there is none. -/
def content (d : Disk) (place : List Text) : Bytes := (d.root.read place).toOption.getD []

theorem content_of_read {d : Disk} {place : List Text} {c : Bytes}
    (h : d.root.read place = .ok c) : d.content place = c := by
  rw [content, h]
  rfl

/-- More can be put at the end of a file that is there. -/
theorem exists_append {d : Disk} {place : List Text} {old : Bytes} (more : Bytes)
    (h : d.root.read place = .ok old) :
    ∃ d', d.append place more = .ok d' ∧ d'.root.read place = .ok (old ++ more) := by
  obtain ⟨root, hroot⟩ := Node.exists_write_of_read (old ++ more) h
  refine ⟨{ d with root }, ?_, Node.read_write hroot⟩
  rw [append, h]
  change (do return { d with root := ← d.root.write (old ++ more) place }) = _
  rw [hroot]
  rfl

/-- A file that has to be there is there, with what it held before. -/
theorem read_of_ensureFile {d d' : Disk} {place : List Text} (h : d.ensureFile place = .ok d') :
    d'.root.read place = .ok (d.content place) := by
  rw [ensureFile] at h
  split at h
  · rename_i c hfind
    have hread : d.root.read place = .ok c := by
      rw [Node.read, hfind]
      rfl
    cases h
    rw [content_of_read hread, hread]
  · cases h
  · rename_i hfind
    have hnone : d.content place = [] := by
      rw [content, Node.read, hfind]
      rfl
    rw [bind_eq_ok_iff] at h
    obtain ⟨root, hwrite, h⟩ := h
    cases h
    rw [hnone]
    exact Node.read_write hwrite
  · cases h

/-- The file that was opened holds what it held before. -/
theorem read_of_openToAppend {d opened : Disk} {path : Text} {place : List Text}
    (h : d.openToAppend path = .ok (place, opened)) :
    opened.root.read place = .ok (d.content place) := by
  rw [openToAppend, bind_eq_ok_iff] at h
  obtain ⟨place', -, h⟩ := h
  rw [bind_eq_ok_iff] at h
  obtain ⟨d', hensure, h⟩ := h
  cases h
  exact read_of_ensureFile hensure

end Disk

end Rampart.File
