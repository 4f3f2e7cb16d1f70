import Mathlib
import Rampart.Type.Name

/-!
# Canonical tags

A tag is read by cutting it at the first comma outside brackets and trimming the pieces.  The texts
that this leaves alone have a simple form, and every tag is read as a text of that form.

* `TypeName.cutAtComma_eq_some_iff` : where a tag is cut;
* `TypeName.isCanonical_canonical`, `TypeName.canonical_of_isCanonical` : canonical forms are the
  texts that are read as they stand;
* `TypeName.parse_canonical`, `TypeName.parse_append_field` : the canonical form of a tag, and the
  tag with more fields, are read as the tag is;
* `TypeName.tagKey_qualified_iff` : which identities are read as themselves;
* `TypeName.isCanonical_qualified_iff` : what this asks of a full name and an assembly.
-/

namespace Rampart

/-! ## Trimmed text -/

namespace Text

/-- Trimming is dropping from the front and then from the back. -/
theorem trim_eq_rdropWhile (t : Text) :
    trim t = (t.dropWhile isBlankChar).rdropWhile isBlankChar := rfl

/-- Trimming takes blank characters away at the two ends. -/
theorem exists_eq_append_trim (t : Text) :
    ∃ front back, t = front ++ trim t ++ back ∧ (∀ c ∈ front, isBlankChar c = true) ∧
      ∀ c ∈ back, isBlankChar c = true := by
  refine ⟨t.takeWhile isBlankChar, (t.dropWhile isBlankChar).rtakeWhile isBlankChar, ?_, ?_, ?_⟩
  · rw [trim_eq_rdropWhile, List.append_assoc, List.rdropWhile_append_rtakeWhile,
      List.takeWhile_append_dropWhile]
  · intro c hc
    exact List.mem_takeWhile_imp hc
  · intro c hc
    exact List.mem_rtakeWhile_imp hc

/-- What is left by trimming was there. -/
theorem mem_of_mem_trim {t : Text} {c : Char} (h : c ∈ trim t) : c ∈ t := by
  obtain ⟨front, back, ht, -, -⟩ := exists_eq_append_trim t
  rw [ht]
  exact List.mem_append_left _ (List.mem_append_right _ h)

/-- Trimmed text does not start with a blank character. -/
theorem not_isBlankChar_of_trim_eq_cons {t rest : Text} {c : Char} (h : trim t = c :: rest) :
    ¬ isBlankChar c = true := by
  obtain ⟨back, hback⟩ := List.rdropWhile_prefix isBlankChar (t.dropWhile isBlankChar)
  rw [← trim_eq_rdropWhile, h, List.cons_append] at hback
  have hne : t.dropWhile isBlankChar ≠ [] := by
    rw [← hback]
    exact List.cons_ne_nil _ _
  have hhead := List.head_dropWhile_not isBlankChar hne
  simp only [← hback, List.head_cons] at hhead
  exact Bool.eq_false_iff.1 hhead

/-- Trimmed text is left alone. -/
theorem trim_trim (t : Text) : trim (trim t) = trim t := by
  have hfront : (trim t).dropWhile isBlankChar = trim t := by
    cases htrim : trim t with
    | nil => rfl
    | cons c rest => rw [List.dropWhile_cons_of_neg (not_isBlankChar_of_trim_eq_cons htrim)]
  rw [trim_eq_rdropWhile (trim t), hfront, trim_eq_rdropWhile]
  exact List.rdropWhile_idempotent _ _

/-- A blank character in front makes no difference. -/
theorem trim_cons_of_isBlankChar {c : Char} (hc : isBlankChar c = true) (t : Text) :
    trim (c :: t) = trim t := by
  rw [trim, List.dropWhile_cons_of_pos hc, trim]

end Text

namespace TypeName

/-! ## Brackets and commas -/

/-- The nesting of brackets behind a text. -/
def levelFrom (level : Nat) (t : Text) : Nat := t.foldl nest level

@[simp] theorem levelFrom_nil (n : Nat) : levelFrom n [] = n := rfl

@[simp] theorem levelFrom_cons (n : Nat) (c : Char) (t : Text) :
    levelFrom n (c :: t) = levelFrom (nest n c) t := rfl

theorem levelFrom_append (n : Nat) (t u : Text) :
    levelFrom n (t ++ u) = levelFrom (levelFrom n t) u := List.foldl_append

/-- A text has an outer comma if one of its commas stands outside brackets. -/
def HasOuterComma (t : Text) : Prop :=
  ∃ before after, t = before ++ ',' :: after ∧ levelFrom 0 before = 0

/-- A text is not cut if all its commas stand inside brackets. -/
theorem cutAtComma_eq_none_iff {n : Nat} {t : Text} :
    cutAtComma n t = none ↔
      ∀ before after, t = before ++ ',' :: after → levelFrom n before ≠ 0 := by
  induction t generalizing n with
  | nil => simp [cutAtComma]
  | cons c t ih =>
    rw [cutAtComma]
    by_cases hcut : c = ',' ∧ n = 0
    · rw [if_pos hcut]
      refine iff_of_false (Option.some_ne_none _) fun h => ?_
      refine h [] t ?_ hcut.2
      rw [hcut.1, List.nil_append]
    · rw [if_neg hcut, Option.map_eq_none_iff, ih]
      constructor
      · intro h before after heq
        cases before with
        | nil =>
          obtain ⟨rfl, -⟩ := List.cons.inj heq
          exact fun hn => hcut ⟨rfl, hn⟩
        | cons b before =>
          obtain ⟨rfl, htail⟩ := List.cons.inj heq
          exact h before after htail
      · intro h before after heq
        refine h (c :: before) after ?_
        rw [heq, List.cons_append]

theorem cutAtComma_zero_eq_none_iff {t : Text} : cutAtComma 0 t = none ↔ ¬ HasOuterComma t := by
  rw [cutAtComma_eq_none_iff, HasOuterComma]
  push Not
  rfl

/-- A text is cut at its first comma outside brackets. -/
theorem cutAtComma_eq_some_iff {n : Nat} {t before after : Text} :
    cutAtComma n t = some (before, after) ↔
      t = before ++ ',' :: after ∧ levelFrom n before = 0 ∧ cutAtComma n before = none := by
  induction t generalizing n before with
  | nil => simp [cutAtComma]
  | cons c t ih =>
    rw [cutAtComma]
    by_cases hcut : c = ',' ∧ n = 0
    · obtain ⟨rfl, rfl⟩ := hcut
      rw [if_pos ⟨rfl, rfl⟩]
      constructor
      · intro h
        cases h
        exact ⟨rfl, rfl, rfl⟩
      · rintro ⟨heq, -, hnone⟩
        cases before with
        | nil =>
          obtain ⟨-, rfl⟩ := List.cons.inj heq
          rfl
        | cons b before =>
          -- a longer first piece would hold this comma, and be cut at it
          obtain ⟨rfl, -⟩ := List.cons.inj heq
          rw [cutAtComma, if_pos ⟨rfl, rfl⟩] at hnone
          cases hnone
    · rw [if_neg hcut, Option.map_eq_some_iff]
      constructor
      · rintro ⟨⟨x, y⟩, hxy, heq⟩
        cases heq
        obtain ⟨rfl, hlevel, hnone⟩ := ih.1 hxy
        refine ⟨rfl, hlevel, ?_⟩
        rw [cutAtComma, if_neg hcut, hnone, Option.map_none]
      · rintro ⟨heq, hlevel, hnone⟩
        cases before with
        | nil =>
          obtain ⟨rfl, -⟩ := List.cons.inj heq
          exact absurd ⟨rfl, hlevel⟩ hcut
        | cons b before =>
          obtain ⟨rfl, rfl⟩ := List.cons.inj heq
          rw [cutAtComma, if_neg hcut, Option.map_eq_none_iff] at hnone
          exact ⟨(before, after), ih.2 ⟨rfl, hlevel, hnone⟩, rfl⟩

/-- Where brackets are closed and no comma stands outside them, a text is cut at the comma that
follows. -/
theorem cutAtComma_append {before : Text} (hcomma : ¬ HasOuterComma before)
    (hclosed : levelFrom 0 before = 0) (after : Text) :
    cutAtComma 0 (before ++ ',' :: after) = some (before, after) :=
  cutAtComma_eq_some_iff.2 ⟨rfl, hclosed, cutAtComma_zero_eq_none_iff.2 hcomma⟩

/-! ## Blanks beside brackets -/

/-- A blank character is no bracket. -/
theorem nest_of_isBlankChar {c : Char} (hc : Text.isBlankChar c = true) (n : Nat) :
    nest n c = n := by
  have hne : ∀ b : Char, Text.isBlankChar b = false → (c == b) = false := by
    intro b hb
    rw [beq_eq_false_iff_ne]
    rintro rfl
    rw [hb] at hc
    cases hc
  simp [nest, hne '[' (by decide), hne '<' (by decide), hne ']' (by decide), hne '>' (by decide)]

/-- Blank text does not change the nesting. -/
theorem levelFrom_of_blank {t : Text} (ht : ∀ c ∈ t, Text.isBlankChar c = true) (n : Nat) :
    levelFrom n t = n := by
  induction t with
  | nil => rfl
  | cons c t ih =>
    rw [List.forall_mem_cons] at ht
    rw [levelFrom_cons, nest_of_isBlankChar ht.1, ih ht.2]

/-- Trimming does not change the nesting. -/
theorem levelFrom_trim (n : Nat) (t : Text) : levelFrom n t.trim = levelFrom n t := by
  obtain ⟨front, back, ht, hfront, hback⟩ := t.exists_eq_append_trim
  have hlevel : levelFrom n (front ++ t.trim ++ back) = levelFrom n t.trim := by
    rw [levelFrom_append, levelFrom_append, levelFrom_of_blank hfront, levelFrom_of_blank hback]
  rw [← hlevel, ← ht]

/-- Trimming brings no comma outside brackets. -/
theorem hasOuterComma_of_trim {t : Text} (h : HasOuterComma t.trim) : HasOuterComma t := by
  obtain ⟨before, after, htrim, hlevel⟩ := h
  obtain ⟨front, back, ht, hfront, -⟩ := t.exists_eq_append_trim
  refine ⟨front ++ before, after ++ back, ?_, ?_⟩
  · rw [ht, htrim]
    simp
  · rw [levelFrom_append, levelFrom_of_blank hfront, hlevel]

/-! ## Canonical forms -/

/-- An assembly is simple if it is some text without commas and without blanks around it. -/
def IsSimple (assembly : Text) : Prop :=
  assembly ≠ [] ∧ ',' ∉ assembly ∧ assembly.trim = assembly

/-- The canonical forms: a trimmed text without outer commas, or such a text with its brackets
closed, a comma, a blank and a simple assembly. -/
inductive IsCanonical : Text → Prop
  | bare {t : Text} (hcomma : ¬ HasOuterComma t) (htrim : t.trim = t) : IsCanonical t
  | withAssembly {fullName assembly : Text} (hcomma : ¬ HasOuterComma fullName)
      (hclosed : levelFrom 0 fullName = 0) (htrim : fullName.trim = fullName)
      (hassembly : IsSimple assembly) : IsCanonical (qualified fullName assembly)

/-- An identity as a text that a comma divides. -/
theorem qualified_eq (fullName assembly : Text) :
    qualified fullName assembly = fullName ++ ',' :: ' ' :: assembly := by
  rw [qualified, List.append_assoc]
  rfl

/-- The assembly in the text behind the comma, if there is one. -/
def assemblyIn (after : Text) : Option Text :=
  let assembly := (after.beforeFirst (· == ',')).trim
  if assembly.isEmpty then none else some assembly

/-- An assembly that is read is simple. -/
theorem isSimple_of_assemblyIn {after assembly : Text} (h : assemblyIn after = some assembly) :
    IsSimple assembly := by
  simp only [assemblyIn] at h
  split at h
  · cases h
  · rename_i hne
    obtain rfl := Option.some.inj h
    refine ⟨by simpa using hne, fun hcomma => ?_, Text.trim_trim _⟩
    have hmem := Text.mem_of_mem_trim hcomma
    have hnot := List.mem_takeWhile_imp hmem
    simp at hnot

/-- A simple assembly behind a blank is read as it stands. -/
theorem assemblyIn_of_isSimple {assembly : Text} (h : IsSimple assembly) :
    assemblyIn (' ' :: assembly) = some assembly := by
  obtain ⟨hne, hcomma, htrim⟩ := h
  have hbefore : Text.beforeFirst (· == ',') (' ' :: assembly) = ' ' :: assembly := by
    rw [Text.beforeFirst, List.takeWhile_eq_self_iff]
    intro c hc
    rcases List.mem_cons.1 hc with rfl | hc
    · rfl
    · have hne : c ≠ ',' := fun h => hcomma (h ▸ hc)
      simpa using hne
  have hblank : Text.trim (' ' :: assembly) = assembly := by
    rw [Text.trim_cons_of_isBlankChar (by decide), htrim]
  simp only [assemblyIn, hbefore, hblank]
  rw [if_neg (by simpa using hne)]

/-- A tag without outer comma is a full name. -/
theorem parse_of_not_hasOuterComma {tag : Text} (h : ¬ HasOuterComma tag) :
    Tag.parse tag = ⟨tag.trim, none⟩ := by
  rw [Tag.parse, cutAtComma_zero_eq_none_iff.2 h]

/-- A tag with an outer comma is a full name and, it may be, an assembly. -/
theorem parse_append {before : Text} (hcomma : ¬ HasOuterComma before)
    (hclosed : levelFrom 0 before = 0) (after : Text) :
    Tag.parse (before ++ ',' :: after) = ⟨before.trim, assemblyIn after⟩ := by
  rw [Tag.parse, cutAtComma_append hcomma hclosed]
  rfl

/-- A tag has no outer comma, or is cut at the first. -/
theorem hasOuterComma_cases (tag : Text) :
    ¬ HasOuterComma tag ∨
      ∃ before after, tag = before ++ ',' :: after ∧ ¬ HasOuterComma before ∧
        levelFrom 0 before = 0 := by
  cases hcut : cutAtComma 0 tag with
  | none => exact Or.inl (cutAtComma_zero_eq_none_iff.1 hcut)
  | some p =>
    obtain ⟨before, after⟩ := p
    obtain ⟨htag, hclosed, hnone⟩ := cutAtComma_eq_some_iff.1 hcut
    exact Or.inr ⟨before, after, htag, cutAtComma_zero_eq_none_iff.1 hnone, hclosed⟩

/-- Every tag is read as a text in canonical form. -/
theorem isCanonical_canonical (tag : Text) : IsCanonical (canonical tag) := by
  rcases hasOuterComma_cases tag with hcomma | ⟨before, after, rfl, hcomma, hclosed⟩
  · rw [canonical, parse_of_not_hasOuterComma hcomma]
    exact .bare (fun h => hcomma (hasOuterComma_of_trim h)) (Text.trim_trim tag)
  · rw [canonical, parse_append hcomma hclosed]
    have hcomma' : ¬ HasOuterComma before.trim := fun h => hcomma (hasOuterComma_of_trim h)
    cases hassembly : assemblyIn after with
    | none => exact .bare hcomma' (Text.trim_trim before)
    | some assembly =>
      have hclosed' : levelFrom 0 before.trim = 0 := by rw [levelFrom_trim, hclosed]
      exact .withAssembly hcomma' hclosed' (Text.trim_trim before)
        (isSimple_of_assemblyIn hassembly)

/-- A text in canonical form is read as it stands. -/
theorem canonical_of_isCanonical {t : Text} (h : IsCanonical t) : canonical t = t := by
  cases h with
  | bare hcomma htrim =>
    rw [canonical, parse_of_not_hasOuterComma hcomma]
    exact htrim
  | withAssembly hcomma hclosed htrim hassembly =>
    rw [canonical, qualified_eq, parse_append hcomma hclosed, assemblyIn_of_isSimple hassembly]
    show qualified _ _ = _
    rw [htrim, qualified_eq]

theorem canonical_eq_self_iff {t : Text} : canonical t = t ↔ IsCanonical t := by
  constructor
  · intro h
    rw [← h]
    exact isCanonical_canonical t
  · exact canonical_of_isCanonical

/-- The canonical form of a tag is read as the tag itself is. -/
theorem parse_canonical (tag : Text) : Tag.parse (canonical tag) = Tag.parse tag := by
  rcases hasOuterComma_cases tag with hcomma | ⟨before, after, rfl, hcomma, hclosed⟩
  · have hcomma' : ¬ HasOuterComma tag.trim := fun h => hcomma (hasOuterComma_of_trim h)
    rw [canonical, parse_of_not_hasOuterComma hcomma]
    show Tag.parse tag.trim = _
    rw [parse_of_not_hasOuterComma hcomma', Text.trim_trim]
  · have hcomma' : ¬ HasOuterComma before.trim := fun h => hcomma (hasOuterComma_of_trim h)
    rw [canonical, parse_append hcomma hclosed]
    cases hassembly : assemblyIn after with
    | none =>
      show Tag.parse before.trim = _
      rw [parse_of_not_hasOuterComma hcomma', Text.trim_trim]
    | some assembly =>
      have hclosed' : levelFrom 0 before.trim = 0 := by rw [levelFrom_trim, hclosed]
      show Tag.parse (qualified before.trim assembly) = _
      rw [qualified_eq, parse_append hcomma' hclosed', Text.trim_trim,
        assemblyIn_of_isSimple (isSimple_of_assemblyIn hassembly)]

/-- A tag and its canonical form have the same key. -/
theorem tagKey_canonical (tag : Text) : tagKey (canonical tag) = tagKey tag := by
  rw [tagKey, parse_canonical, tagKey]

/-! ## Further fields -/

/-- What follows another comma does not belong to the assembly. -/
theorem assemblyIn_append_comma (after suffix : Text) :
    assemblyIn (after ++ ',' :: suffix) = assemblyIn after := by
  have hbefore : Text.beforeFirst (· == ',') (after ++ ',' :: suffix)
      = Text.beforeFirst (· == ',') after := by
    induction after with
    | nil => rfl
    | cons c after ih =>
      rw [Text.beforeFirst, Text.beforeFirst] at ih
      rw [List.cons_append, Text.beforeFirst, Text.beforeFirst, List.takeWhile_cons,
        List.takeWhile_cons, ih]
  simp only [assemblyIn, hbefore]

/-- A tag that has a comma outside brackets is read without what follows another comma. -/
theorem parse_append_field {tag : Text} (h : HasOuterComma tag) (suffix : Text) :
    Tag.parse (tag ++ ',' :: suffix) = Tag.parse tag := by
  rcases hasOuterComma_cases tag with hcomma | ⟨before, after, rfl, hcomma, hclosed⟩
  · exact absurd h hcomma
  · rw [List.append_assoc, List.cons_append, parse_append hcomma hclosed,
      parse_append hcomma hclosed, assemblyIn_append_comma]

/-! ## Identities -/

/-- An identity is cut behind its full name, if brackets are closed there. -/
theorem cutAtComma_qualified {fullName : Text} (hcomma : ¬ HasOuterComma fullName)
    (hclosed : levelFrom 0 fullName = 0) (assembly : Text) :
    cutAtComma 0 (qualified fullName assembly) = some (fullName, ' ' :: assembly) := by
  rw [qualified_eq]
  exact cutAtComma_append hcomma hclosed _

/-- More text leaves an outer comma where it is. -/
theorem HasOuterComma.append {t : Text} (h : HasOuterComma t) (u : Text) :
    HasOuterComma (t ++ u) := by
  obtain ⟨before, after, rfl, hlevel⟩ := h
  exact ⟨before, after ++ u, by simp, hlevel⟩

/-- An identity in canonical form has no outer comma in its full name. -/
theorem not_hasOuterComma_of_isCanonical {fullName assembly : Text}
    (h : IsCanonical (qualified fullName assembly)) : ¬ HasOuterComma fullName := by
  intro hcomma
  generalize ht : qualified fullName assembly = t at h
  cases h with
  | bare hnone =>
    rw [← ht, qualified_eq] at hnone
    exact hnone (hcomma.append _)
  | @withAssembly fullName' assembly' hcomma' hclosed' _ hassembly =>
    rcases hasOuterComma_cases fullName with hnone | ⟨before, after, rfl, hbefore, hclosed⟩
    · exact hnone hcomma
    · -- the first cut is inside the full name, so the comma behind it is in the assembly
      have hcut : cutAtComma 0 (qualified (before ++ ',' :: after) assembly)
          = some (before, after ++ ',' :: ' ' :: assembly) := by
        rw [qualified_eq, List.append_assoc, List.cons_append]
        exact cutAtComma_append hbefore hclosed _
      rw [ht, cutAtComma_qualified hcomma' hclosed'] at hcut
      have hafter : ' ' :: assembly' = after ++ ',' :: ' ' :: assembly :=
        congrArg Prod.snd (Option.some.inj hcut)
      have hmem : ',' ∈ ' ' :: assembly' := by
        rw [hafter]
        exact List.mem_append_right _ List.mem_cons_self
      rcases List.mem_cons.1 hmem with hblank | hmem
      · cases hblank
      · exact hassembly.2.1 hmem

/-- An identity whose full name has its brackets closed is in canonical form exactly if the full
name has no outer comma, nothing is to be trimmed, and the assembly is simple. -/
theorem isCanonical_qualified_iff {fullName assembly : Text} (hclosed : levelFrom 0 fullName = 0) :
    IsCanonical (qualified fullName assembly) ↔
      ¬ HasOuterComma fullName ∧ fullName.trim = fullName ∧ IsSimple assembly := by
  constructor
  · intro h
    have hcomma := not_hasOuterComma_of_isCanonical h
    generalize ht : qualified fullName assembly = t at h
    cases h with
    | bare hnone =>
      refine absurd ⟨fullName, ' ' :: assembly, ?_, hclosed⟩ hnone
      rw [← ht, qualified_eq]
    | withAssembly hcomma' hclosed' htrim hassembly =>
      -- a text is cut in one way only, so the two identities have the same parts
      have hcut := cutAtComma_qualified hcomma hclosed assembly
      rw [ht, cutAtComma_qualified hcomma' hclosed'] at hcut
      cases hcut
      exact ⟨hcomma, htrim, hassembly⟩
  · rintro ⟨hcomma, htrim, hassembly⟩
    exact .withAssembly hcomma hclosed htrim hassembly

/-- The full name that an identity in canonical form is read with starts with the full name of the
identity. -/
theorem exists_fullName_parse_eq_append {fullName assembly : Text}
    (h : IsCanonical (qualified fullName assembly)) :
    ∃ rest, (Tag.parse (qualified fullName assembly)).fullName = fullName ++ rest := by
  have hcomma := not_hasOuterComma_of_isCanonical h
  generalize ht : qualified fullName assembly = t at h
  cases h with
  | bare hnone htrim =>
    refine ⟨',' :: ' ' :: assembly, ?_⟩
    rw [parse_of_not_hasOuterComma hnone, htrim, ← ht, qualified_eq]
  | withAssembly hcomma' hclosed' htrim _ =>
    rw [qualified_eq, parse_append hcomma' hclosed', htrim]
    rw [qualified_eq, qualified_eq] at ht
    rcases List.append_eq_append_iff.1 ht with ⟨mid, hmid, -⟩ | ⟨mid, hmid, hrest⟩
    · exact ⟨mid, hmid⟩
    · -- the other way round, the comma of the cut would be an outer comma of the full name
      cases mid with
      | nil => exact ⟨[], by simpa using hmid.symm⟩
      | cons c mid =>
        obtain ⟨rfl, -⟩ := List.cons.inj hrest
        exact absurd ⟨_, mid, hmid, hclosed'⟩ hcomma

/-- Where brackets are left open, the arguments of a generic type have begun. -/
theorem exists_opensArguments_of_levelFrom_ne_zero {t : Text} (h : levelFrom 0 t ≠ 0) :
    ∃ c ∈ t, opensArguments c = true := by
  by_contra hnone
  push Not at hnone
  refine h ?_
  induction t with
  | nil => rfl
  | cons c t ih =>
    rw [List.forall_mem_cons] at hnone
    have hnest : nest 0 c = 0 := by
      have hc := hnone.1
      simp only [opensArguments, ne_eq, Bool.or_eq_true, beq_iff_eq, not_or] at hc
      simp [nest, hc.1.1, hc.2]
    rw [levelFrom_cons, hnest] at h ⊢
    exact ih h hnone.2

/-- What follows the start of the arguments does not belong to the short name. -/
theorem short_append {t : Text} (h : ∃ c ∈ t, opensArguments c = true) (u : Text) :
    short (t ++ u) = short t := by
  have hhead : head (t ++ u) = head t := by
    -- up to the character that opens the arguments both heads take the same characters
    induction t with
    | nil =>
      obtain ⟨c, hc, -⟩ := h
      cases hc
    | cons b t ih =>
      rw [List.cons_append, head, head, Text.beforeFirst, Text.beforeFirst, List.takeWhile_cons,
        List.takeWhile_cons]
      by_cases hb : opensArguments b = true
      · simp [hb]
      · have ht : ∃ c ∈ t, opensArguments c = true := by
          obtain ⟨c, hc, hopens⟩ := h
          rcases List.mem_cons.1 hc with rfl | hc
          · exact absurd hopens hb
          · exact ⟨c, hc, hopens⟩
        have htail := ih ht
        rw [head, head, Text.beforeFirst, Text.beforeFirst] at htail
        rw [htail]
  rw [short, short, hhead]

/-- An identity is read as itself, with the short name of its full name, exactly if it is in
canonical form. -/
theorem tagKey_qualified_iff (fullName assembly : Text) :
    tagKey (qualified fullName assembly) = ⟨qualified fullName assembly, short fullName⟩ ↔
      IsCanonical (qualified fullName assembly) := by
  constructor
  · intro h
    exact canonical_eq_self_iff.1 (congrArg Key.identity h)
  · intro h
    have hidentity := canonical_of_isCanonical h
    have hname : short (Tag.parse (qualified fullName assembly)).fullName = short fullName := by
      by_cases hclosed : levelFrom 0 fullName = 0
      · obtain ⟨hcomma, htrim, -⟩ := (isCanonical_qualified_iff hclosed).1 h
        rw [qualified_eq, parse_append hcomma hclosed, htrim]
      · -- with brackets left open, the full name that is read may go on behind the comma
        obtain ⟨rest, hrest⟩ := exists_fullName_parse_eq_append h
        rw [hrest, short_append (exists_opensArguments_of_levelFrom_ne_zero hclosed)]
    show Key.mk (canonical _) _ = _
    rw [hidentity, hname]

end TypeName

end Rampart
