import Mathlib
import Rampart.File.Tree
import Rampart.Proofs.Sequencing

/-!
# What file operations leave alone

An operation at a place strictly below a directory changes nothing that is not strictly below that
directory.  Two trees that agree everywhere else are the same outside it.

* `Node.sameOutside_write` : creating or overwriting a file;
* `Node.sameOutside_createDirectories` : creating a chain of directories, also when it breaks off;
* `Node.item?_write`, `Node.item?_createDirectories` : what is not on the way to the place stays as
  it was, wherever the place is.
-/

namespace Rampart.File

/-- The places below `b` other than `b` itself. -/
def StrictlyBelow (b place : List Text) : Prop := ∃ rest, rest ≠ [] ∧ place = b ++ rest

/-- Below the same first name, only the other names count. -/
theorem strictlyBelow_cons_iff {name : Text} {b place : List Text} :
    StrictlyBelow (name :: b) (name :: place) ↔ StrictlyBelow b place := by
  constructor
  · rintro ⟨rest, hne, h⟩
    rw [List.cons_append] at h
    exact ⟨rest, hne, List.tail_eq_of_cons_eq h⟩
  · rintro ⟨rest, hne, rfl⟩
    exact ⟨rest, hne, rfl⟩

/-- Only the root is not strictly below the root. -/
theorem eq_nil_of_not_strictlyBelow_nil {place : List Text} (h : ¬ StrictlyBelow [] place) :
    place = [] := by
  by_contra hne
  exact h ⟨place, hne, rfl⟩

namespace Node

/-! ## Looking at a place -/

/-- What stands below a directory stands below one of its entries. -/
theorem item?_cons_directory (name : Text) (rest : List Text) (entries : List (Text × Node)) :
    item? (name :: rest) (.directory entries)
      = if isTooLong name then none else (child? name entries).bind (item? rest) := by
  by_cases hlong : isTooLong name = true
  · rw [item?, find, if_pos hlong, if_pos hlong]
  · rw [item?, find, if_neg hlong, if_neg hlong]
    cases child? name entries <;> rfl

/-- The way to a place leads through a directory and an entry of it. -/
theorem exists_child_of_item? {name : Text} {rest : List Text} {node : Node} {i : Item}
    (h : item? (name :: rest) node = some i) :
    ∃ entries child, node = .directory entries ∧ isTooLong name = false ∧
      child? name entries = some child ∧ item? rest child = some i := by
  cases node with
  | file content => cases h
  | directory entries =>
    rw [item?_cons_directory] at h
    split at h
    · cases h
    · rename_i hlong
      obtain ⟨child, hchild, hi⟩ := Option.bind_eq_some_iff.1 h
      exact ⟨entries, child, rfl, by simpa using hlong, hchild, hi⟩

/-- A directory as seen from above. -/
theorem exists_entries_of_item?_nil {node : Node} (h : item? [] node = some .directory) :
    ∃ entries, node = .directory entries := by
  cases node with
  | file content => cases h
  | directory entries => exact ⟨entries, rfl⟩

/-- What is read is the content of a file. -/
theorem item?_of_read {place : List Text} {node : Node} {content : Bytes}
    (h : node.read place = .ok content) : item? place node = some (.file content) := by
  rw [read, bind_eq_ok_iff] at h
  obtain ⟨found, hfind, h⟩ := h
  rw [item?, hfind]
  cases found with
  | file c =>
    cases h
    rfl
  | directory entries => cases h

/-! ## Trees that are the same outside a directory -/

/-- Two trees have the same at each place that is not strictly below `b`. -/
def SameOutside (b : List Text) (node node' : Node) : Prop :=
  ∀ place, ¬ StrictlyBelow b place → item? place node' = item? place node

theorem SameOutside.refl (b : List Text) (node : Node) : SameOutside b node node :=
  fun _ _ => rfl

theorem SameOutside.trans {b : List Text} {n₁ n₂ n₃ : Node} (h₁₂ : SameOutside b n₁ n₂)
    (h₂₃ : SameOutside b n₂ n₃) : SameOutside b n₁ n₃ :=
  fun place hplace => (h₂₃ place hplace).trans (h₁₂ place hplace)

/-- Everything but a directory itself is strictly below it. -/
theorem sameOutside_nil (entries entries' : List (Text × Node)) :
    SameOutside [] (.directory entries) (.directory entries') := by
  intro place hplace
  rw [eq_nil_of_not_strictlyBelow_nil hplace]
  rfl

/-- An entry that stays the same outside a directory can be put in place of itself. -/
theorem SameOutside.setChild {name : Text} {b : List Text} {child child' : Node}
    {entries : List (Text × Node)} (hchild : child? name entries = some child)
    (h : SameOutside b child child') :
    SameOutside (name :: b) (.directory entries) (.directory (setChild name child' entries)) := by
  intro place hplace
  cases place with
  | nil => rfl
  | cons other rest =>
    rw [item?_cons_directory, item?_cons_directory]
    by_cases hname : other = name
    · subst hname
      rw [child?_setChild_self, hchild, Option.bind_some, Option.bind_some,
        h rest fun hrest => hplace (strictlyBelow_cons_iff.2 hrest)]
    · rw [child?_setChild_of_ne _ _ hname]

/-- Writing below a directory leaves a directory. -/
theorem exists_entries_of_write {content : Bytes} {name : Text} {rest : List Text}
    {entries : List (Text × Node)} {node' : Node}
    (h : write content (name :: rest) (.directory entries) = .ok node') :
    ∃ entries', node' = .directory entries' := by
  unfold write at h
  split at h
  · cases h
  · split at h
    · rw [bind_eq_ok_iff] at h
      obtain ⟨child', -, h⟩ := h
      cases h
      exact ⟨_, rfl⟩
    · cases h
      exact ⟨_, rfl⟩
    · cases h

/-- Creating or overwriting a file strictly below a directory changes nothing outside it. -/
theorem sameOutside_write {content : Bytes} {b rest : List Text} {node node' : Node}
    (hdir : item? b node = some .directory) (hrest : rest ≠ [])
    (h : write content (b ++ rest) node = .ok node') : SameOutside b node node' := by
  induction b generalizing node node' with
  | nil =>
    obtain ⟨entries, rfl⟩ := exists_entries_of_item?_nil hdir
    obtain ⟨name, more, rfl⟩ := List.exists_cons_of_ne_nil hrest
    obtain ⟨entries', rfl⟩ := exists_entries_of_write h
    exact sameOutside_nil entries entries'
  | cons name b ih =>
    obtain ⟨entries, child, rfl, hlong, hchild, hdir⟩ := exists_child_of_item? hdir
    rw [List.cons_append] at h
    unfold write at h
    simp only [hlong, hchild, Bool.false_eq_true, if_false] at h
    rw [bind_eq_ok_iff] at h
    obtain ⟨child', hwrite, h⟩ := h
    cases h
    exact (ih hdir hwrite).setChild hchild

/-- Creating directories below a directory leaves a directory. -/
theorem exists_entries_of_createDirectories (name : Text) (rest : List Text)
    (entries : List (Text × Node)) :
    ∃ entries',
      (createDirectories (name :: rest) (.directory entries)).1 = .directory entries' := by
  rw [createDirectories]
  split
  · exact ⟨_, rfl⟩
  · exact ⟨_, rfl⟩

/-- Creating directories strictly below a directory changes nothing outside it, however far it
gets. -/
theorem sameOutside_createDirectories {b rest : List Text} {node : Node}
    (hdir : item? b node = some .directory) (hrest : rest ≠ []) :
    SameOutside b node (createDirectories (b ++ rest) node).1 := by
  induction b generalizing node with
  | nil =>
    obtain ⟨entries, rfl⟩ := exists_entries_of_item?_nil hdir
    obtain ⟨name, more, rfl⟩ := List.exists_cons_of_ne_nil hrest
    obtain ⟨entries', h⟩ := exists_entries_of_createDirectories name more entries
    rw [List.nil_append, h]
    exact sameOutside_nil entries entries'
  | cons name b ih =>
    obtain ⟨entries, child, rfl, hlong, hchild, hdir⟩ := exists_child_of_item? hdir
    rw [List.cons_append, createDirectories, hlong, hchild]
    exact (ih hdir).setChild hchild

/-! ## Places that are not on the way -/

/-- There is nothing below a file. -/
theorem item?_file {place : List Text} {content : Bytes} (h : place ≠ []) :
    item? place (.file content) = none := by
  cases place with
  | nil => exact absurd rfl h
  | cons name rest => rfl

/-- What becomes of one entry concerns no place that does not lead through it. -/
theorem item?_setChild {name : Text} {node : Node} {entries : List (Text × Node)}
    {rest place : List Text} (hplace : ¬ place <+: name :: rest)
    (h : ∀ more, ¬ more <+: rest → item? more node = (child? name entries).bind (item? more)) :
    item? place (.directory (setChild name node entries)) = item? place (.directory entries) := by
  cases place with
  | nil => exact absurd List.nil_prefix hplace
  | cons other more =>
    rw [item?_cons_directory, item?_cons_directory]
    by_cases hname : other = name
    · subst hname
      have hmore : ¬ more <+: rest := fun hmore => hplace (List.cons_prefix_cons.2 ⟨rfl, hmore⟩)
      rw [child?_setChild_self, Option.bind_some, h more hmore]
    · rw [child?_setChild_of_ne _ _ hname]

/-- Creating or overwriting a file changes nothing that is not on the way to it. -/
theorem item?_write {content : Bytes} {target place : List Text} {node node' : Node}
    (h : write content target node = .ok node') (hplace : ¬ place <+: target) :
    item? place node' = item? place node := by
  induction target generalizing node node' place with
  | nil =>
    have hne : place ≠ [] := fun he => hplace (he ▸ List.nil_prefix)
    cases node with
    | file old =>
      cases h
      rw [item?_file hne, item?_file hne]
    | directory entries => cases h
  | cons name rest ih =>
    cases node with
    | file old => cases h
    | directory entries =>
      unfold write at h
      split at h
      · cases h
      · split at h
        · rename_i child hchild
          rw [bind_eq_ok_iff] at h
          obtain ⟨child', hwrite, h⟩ := h
          cases h
          refine item?_setChild hplace fun more hmore => ?_
          rw [hchild, Option.bind_some, ih hwrite hmore]
        · rename_i hchild
          cases h
          refine item?_setChild hplace fun more hmore => ?_
          rw [hchild, Option.bind_none]
          exact item?_file fun he => hmore (he ▸ List.nil_prefix)
        · cases h

/-- Creating directories changes nothing that is not on the way to the last of them. -/
theorem item?_createDirectories {target place : List Text} {node : Node}
    (hplace : ¬ place <+: target) :
    item? place (createDirectories target node).1 = item? place node := by
  induction target generalizing node place with
  | nil => cases node <;> rfl
  | cons name rest ih =>
    cases node with
    | file content => rfl
    | directory entries =>
      rw [createDirectories]
      split
      · rfl
      · refine item?_setChild hplace fun more hmore => ?_
        rw [ih hmore]
        cases child? name entries with
        | some child => rfl
        | none =>
          -- a directory that was not there has nothing in it
          cases more with
          | nil => exact absurd List.nil_prefix hmore
          | cons other more =>
            rw [Option.getD_none, item?_cons_directory]
            exact ite_self _

end Node

end Rampart.File
