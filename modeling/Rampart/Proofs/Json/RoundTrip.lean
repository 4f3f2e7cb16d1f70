import Mathlib
import Rampart.Json.Printer
import Rampart.Proofs.Json.Nodes
import Rampart.Proofs.Json.Number

/-!
# What is written is read back

Reading undoes writing for every document in which each number alone is read back from its text and
each object has distinct keys, the first of them not the mark of a value that is written as text.
Whole numbers are always read back, but doubles need not be, since their decimal digits are scaled
by rounded powers of ten.

* `Json.stringBody_flatMap_escape` : strings are read back;
* `Json.value_write` : values are read back in front of any text that may follow them;
* `Json.parse_write` : documents are read back.
-/

namespace Rampart.Json

/-! ## Strings -/

/-- The value of a hexadecimal digit that is written. -/
theorem hexDigit?_digitChar {d : Nat} (hd : d < 16) : Text.hexDigit? d.digitChar = some d := by
  interval_cases d <;> rfl

/-- A short escape is read as the character it stands for. -/
theorem stringBody_simpleEscape {e c : Char} (he : simpleEscape? e = some c) (t : Text) :
    stringBody ('\\' :: e :: t) = push c (stringBody t) := by
  have hu : e ≠ 'u' := by
    rintro rfl
    cases he
  rw [stringBody.eq_def]
  simp only [if_neg (show '\\' ≠ '"' by decide), if_neg hu, he]
  rfl

/-- A control character is read from the four digits of its number. -/
theorem stringBody_hexEscape {c : Char} (hc : c.toNat < 0x20) (t : Text) :
    stringBody ('\\' :: 'u' :: '0' :: '0' :: (c.toNat / 16).digitChar
      :: (c.toNat % 16).digitChar :: t) = push c (stringBody t) := by
  have hhex : hex4? '0' '0' (c.toNat / 16).digitChar (c.toNat % 16).digitChar = some c.toNat := by
    have hzero : Text.hexDigit? '0' = some 0 := rfl
    simp only [hex4?, hzero, hexDigit?_digitChar (d := c.toNat / 16) (by omega),
      hexDigit?_digitChar (d := c.toNat % 16) (by omega), Option.bind_eq_bind, Option.bind_some]
    show some _ = some _
    congr 1
    omega
  have hlow : (0xDC00 ≤ c.toNat && c.toNat ≤ 0xDFFF) = false := by
    simp
    omega
  have hhigh : (0xD800 ≤ c.toNat && c.toNat ≤ 0xDBFF) = false := by
    simp
    omega
  rw [stringBody.eq_def]
  simp only [hhex, hlow, hhigh, Char.ofNat_toNat]
  rfl

/-- A character is read back from its escaped form. -/
theorem stringBody_escape (c : Char) (t : Text) :
    stringBody (escape c ++ t) = push c (stringBody t) := by
  unfold escape
  split_ifs with hquote hslash hfeed hreturn htab hback hform hcontrol
  · subst hquote
    exact stringBody_simpleEscape rfl t
  · subst hslash
    exact stringBody_simpleEscape rfl t
  · subst hfeed
    exact stringBody_simpleEscape rfl t
  · subst hreturn
    exact stringBody_simpleEscape rfl t
  · subst htab
    exact stringBody_simpleEscape rfl t
  · subst hback
    exact stringBody_simpleEscape rfl t
  · subst hform
    exact stringBody_simpleEscape rfl t
  · exact stringBody_hexEscape hcontrol t
  · rw [List.singleton_append, stringBody.eq_def]
    simp only [if_neg hquote, if_neg hslash, if_neg hcontrol]

/-- A string is read back up to its closing quote. -/
theorem stringBody_flatMap_escape (s rest : Text) :
    stringBody (s.flatMap escape ++ '"' :: rest) = .ok (s, rest) := by
  induction s with
  | nil =>
    rw [List.flatMap_nil, List.nil_append, stringBody.eq_def]
    rfl
  | cons c s ih =>
    rw [List.flatMap_cons, List.append_assoc, stringBody_escape, ih]
    rfl

/-! ## The start of a value -/

/-- The characters that a value may start with as far as blanks and brackets go. -/
def Opens (c : Char) : Prop := Text.isBlankChar c = false ∧ c ≠ ']'

instance : DecidablePred Opens := fun _ => inferInstanceAs (Decidable (_ ∧ _))

/-- The blanks of a document are blank characters. -/
theorem isBlank_of_opens {c : Char} (hc : Opens c) : isBlank c = false := by
  by_contra h
  rw [Bool.not_eq_false, isBlank, Bool.or_eq_true, Bool.or_eq_true, Bool.or_eq_true] at h
  simp only [beq_iff_eq] at h
  rcases h with ((rfl | rfl) | rfl) | rfl
  all_goals exact Bool.noConfusion hc.1

/-- Nothing is skipped in front of a value. -/
theorem skipBlanks_of_opens {c : Char} (hc : Opens c) (t : Text) :
    skipBlanks (c :: t) = c :: t :=
  List.dropWhile_cons_of_neg (by rw [isBlank_of_opens hc]; exact Bool.false_ne_true)

/-- Digits are not blank. -/
theorem opens_of_isDigit {c : Char} (hc : Text.isDigit c = true) : Opens c := by
  have hrange : 48 ≤ c.toNat ∧ c.toNat ≤ 57 := by
    simpa [Text.isDigit, Text.digit?, Char.le_def, UInt32.le_iff_toNat_le] using hc
  constructor
  · simp [Text.isBlankChar]
    omega
  · rintro rfl
    exact absurd hrange (by decide)

/-! ## Legible documents -/

/-- What is asked of a node for it to be read back, apart from what is inside it: a number is read
back from its text, and an object has distinct keys of which the first is not the mark. -/
def Legible : Json → Prop
  | .num n => simpleValue (JsonNumber.write n) = .ok (.num n, [])
  | .obj members => (keys members).Nodup ∧ (keys members).head? ≠ some wrapMark
  | _ => True

/-- A document with legible nodes only. -/
def ReadsBack (j : Json) : Prop := ∀ n ∈ j.nodes, n.Legible

theorem readsBack_arr {items : List Json} : ReadsBack (.arr items) ↔ ∀ j ∈ items, j.ReadsBack := by
  rw [ReadsBack, forall_nodes_arr]
  exact and_iff_right trivial

theorem readsBack_obj {members : List (Text × Json)} :
    ReadsBack (.obj members) ↔
      ((keys members).Nodup ∧ (keys members).head? ≠ some wrapMark) ∧
        ∀ m ∈ members, m.2.ReadsBack := forall_nodes_obj

/-- The keys of a legible document are distinct. -/
theorem keysDistinct_of_readsBack {j : Json} (hj : j.ReadsBack) : j.KeysDistinct := by
  rintro n hn members rfl
  exact (hj _ hn).1

theorem readsBack_null : ReadsBack .null := by simp [ReadsBack, Legible]

theorem readsBack_str (s : Text) : ReadsBack (.str s) := by simp [ReadsBack, Legible]

/-- Whole numbers of 64 bits are legible. -/
theorem readsBack_int {n : Int} (hlow : -(2 : Int) ^ 63 ≤ n) (hhigh : n < 2 ^ 64) :
    ReadsBack (.num (.int n)) :=
  List.forall_mem_singleton.2 (simpleValue_ofInt hlow hhigh)

/-- A written value starts with a character that may start one. -/
theorem exists_write {j : Json} (hj : j.ReadsBack) : ∃ c t, write j = c :: t ∧ Opens c := by
  cases j with
  | null => exact ⟨'n', _, rfl, by decide⟩
  | bool b =>
    cases b with
    | false => exact ⟨'f', _, rfl, by decide⟩
    | true => exact ⟨'t', _, rfl, by decide⟩
  | num n =>
    have hn : Legible (.num n) := hj _ List.mem_cons_self
    obtain ⟨c, u, hcu, rfl | hc⟩ := exists_of_simpleValue_eq_num hn
    · exact ⟨'-', u, by rw [write, hcu], by decide⟩
    · exact ⟨c, u, by rw [write, hcu], opens_of_isDigit hc⟩
  | str s => exact ⟨'"', _, rfl, by decide⟩
  | arr items => exact ⟨'[', _, rfl, by decide⟩
  | obj members => exact ⟨'{', _, rfl, by decide⟩

/-- Items are written with a comma in front of each but the first. -/
theorem writeItems_cons (j : Json) (js : List Json) :
    writeItems (j :: js) = write j ++ js.flatMap fun j => ',' :: write j := by
  induction js generalizing j with
  | nil => simp [writeItems]
  | cons j' js ih =>
    rw [writeItems, ih, List.flatMap_cons, List.cons_append]
    exact List.cons_ne_nil j' js

/-- The text of one member. -/
def writeMember (m : Text × Json) : Text := writeString m.1 ++ ':' :: write m.2

/-- Members are written with a comma in front of each but the first. -/
theorem writeMembers_cons (m : Text × Json) (ms : List (Text × Json)) :
    writeMembers (m :: ms) = writeMember m ++ ms.flatMap fun m => ',' :: writeMember m := by
  induction ms generalizing m with
  | nil => simp [writeMembers, writeMember]
  | cons m' ms ih =>
    obtain ⟨k, v⟩ := m
    rw [writeMembers, ih, List.flatMap_cons]
    · simp [writeMember]
    · exact List.cons_ne_nil m' ms

/-! ## Reading values -/

/-- A punctuation mark ends a number. -/
theorem endsNumber_cons {c : Char} (hc : c = ',' ∨ c = ']' ∨ c = '}') (t : Text) :
    EndsNumber (c :: t) := by
  intro d hd
  obtain rfl : c = d := Option.some.inj hd
  rcases hc with rfl | rfl | rfl
  all_goals decide

/-- Whatever stands in the text of a list behind an item ends a number. -/
theorem endsNumber_flatMap {α : Type} (f : α → Text) (as : List α) {c : Char}
    (hc : c = ']' ∨ c = '}') (rest : Text) :
    EndsNumber ((as.flatMap fun a => ',' :: f a) ++ c :: rest) := by
  cases as with
  | nil => exact endsNumber_cons (Or.inr hc) rest
  | cons a as => exact endsNumber_cons (Or.inl rfl) _

/-- A value is read back with enough fuel and room, whatever may follow it. -/
def IsRead (j : Json) : Prop :=
  ∀ fuel room rest, 2 * (write j).length ≤ fuel → j.depth ≤ room → EndsNumber rest →
    value true fuel room (write j ++ rest) = .ok (j, rest)

/-- Whatever is neither string, array nor object is read as a simple value. -/
theorem value_eq_simpleValue {c : Char} {t : Text} (hc : Opens c) (hquote : c ≠ '"')
    (hbrace : c ≠ '\x7b') (hbracket : c ≠ '[') (fuel room : Nat) :
    value true (fuel + 1) room (c :: t) = simpleValue (c :: t) := by
  rw [value, skipBlanks_of_opens hc]
  split
  · rename_i heq
    exact absurd (List.cons.inj heq).1 hquote
  · rename_i heq
    exact absurd (List.cons.inj heq).1 hbrace
  · rename_i heq
    exact absurd (List.cons.inj heq).1 hbracket
  · rfl

/-- Numbers, words and strings are read back.  They need no room. -/
theorem isRead_of_simpleValue {j : Json} {c : Char} {t : Text} (hwrite : write j = c :: t)
    (hc : Opens c) (hquote : c ≠ '"') (hbrace : c ≠ '\x7b') (hbracket : c ≠ '[')
    (hread : ∀ rest, EndsNumber rest → simpleValue (write j ++ rest) = .ok (j, rest)) :
    IsRead j := by
  intro fuel room rest hfuel hroom hrest
  rw [hwrite, List.length_cons] at hfuel
  obtain ⟨fuel, rfl⟩ : ∃ n, fuel = n + 1 := ⟨fuel - 1, by omega⟩
  rw [← hread rest hrest, hwrite, List.cons_append]
  exact value_eq_simpleValue hc hquote hbrace hbracket fuel room

theorem isRead_num {n : JsonNumber} (hn : Legible (.num n)) : IsRead (.num n) := by
  have hread : ∀ rest, EndsNumber rest →
      simpleValue (write (.num n) ++ rest) = .ok (.num n, rest) := by
    intro rest hrest
    rw [write]
    exact simpleValue_append hrest hn
  obtain ⟨c, u, hcu, hc⟩ := exists_of_simpleValue_eq_num hn
  have hwrite : write (.num n) = c :: u := by rw [write, hcu]
  rcases hc with rfl | hc
  · exact isRead_of_simpleValue hwrite (by decide) (by decide) (by decide) (by decide) hread
  · refine isRead_of_simpleValue hwrite (opens_of_isDigit hc) ?_ ?_ ?_ hread
    all_goals
      rintro rfl
      exact absurd hc (by decide)

/-- A string is read back by either reader, whatever follows it. -/
theorem value_writeString (unwraps : Bool) (fuel room : Nat) (s rest : Text) :
    value unwraps (fuel + 1) room (writeString s ++ rest) = .ok (.str s, rest) := by
  rw [writeString, List.cons_append, List.append_assoc, value, skipBlanks_of_opens (by decide)]
  show (stringBody (s.flatMap escape ++ '"' :: rest) >>= _) = _
  rw [stringBody_flatMap_escape]
  rfl

theorem isRead_str (s : Text) : IsRead (.str s) := by
  intro fuel room rest hfuel hroom hrest
  rw [write] at hfuel ⊢
  rw [writeString, List.length_cons] at hfuel
  obtain ⟨fuel, rfl⟩ : ∃ n, fuel = n + 1 := ⟨fuel - 1, by omega⟩
  exact value_writeString true fuel room s rest

/-! ### Arrays -/

theorem nextItem_first {c : Char} (hc : Opens c) (t : Text) :
    nextItem true (c :: t) = .ok (true, c :: t) := by
  rw [nextItem, skipBlanks_of_opens hc]
  exact if_neg hc.2

theorem nextItem_comma {c : Char} (hc : Opens c) (t : Text) :
    nextItem false (',' :: c :: t) = .ok (true, c :: t) := by
  rw [nextItem, skipBlanks_of_opens (by decide)]
  simp [skipBlanks_of_opens hc, hc.2]

theorem nextItem_end (first : Bool) (t : Text) :
    nextItem first (']' :: t) = .ok (false, ']' :: t) := rfl

/-- Items are read one after the other. -/
theorem items_of_next {fuel room : Nat} {first : Bool} {t t₁ t₂ rest : Text} {j : Json}
    {js : List Json} (hnext : nextItem first t = .ok (true, t₁))
    (hvalue : value true fuel room t₁ = .ok (j, t₂))
    (htail : items true fuel room false t₂ = .ok (js, rest)) :
    items true (fuel + 1) room first t = .ok (j :: js, rest) := by
  rw [items, hnext]
  show (value true fuel room t₁ >>= _) = _
  rw [hvalue]
  show (items true fuel room false t₂ >>= _) = _
  rw [htail]
  rfl

/-- The items behind the first are read back, each with its comma. -/
theorem items_flatMap {js : List Json} (hread : ∀ j ∈ js, IsRead j) (hback : ∀ j ∈ js, j.ReadsBack)
    {fuel room : Nat} (rest : Text) (hfuel : 2 * (js.flatMap fun j => ',' :: write j).length < fuel)
    (hroom : ∀ j ∈ js, j.depth ≤ room) :
    items true fuel room false ((js.flatMap fun j => ',' :: write j) ++ ']' :: rest)
      = .ok (js, rest) := by
  induction js generalizing fuel with
  | nil =>
    obtain ⟨fuel, rfl⟩ : ∃ n, fuel = n + 1 := ⟨fuel - 1, by omega⟩
    rw [List.flatMap_nil, List.nil_append, items, nextItem_end]
    rfl
  | cons j js ih =>
    rw [List.forall_mem_cons] at hread hback hroom
    rw [List.flatMap_cons, List.length_append, List.length_cons] at hfuel
    -- the comma pays for the fuel that is spent on this item
    obtain ⟨fuel, rfl⟩ : ∃ n, fuel = n + 1 := ⟨fuel - 1, by omega⟩
    refine items_of_next ?_ (hread.1 fuel room _ (by omega) hroom.1
      (endsNumber_flatMap write js (Or.inl rfl) rest)) (ih hread.2 hback.2 (by omega) hroom.2)
    obtain ⟨c, t, hct, hc⟩ := exists_write hback.1
    rw [List.flatMap_cons, List.append_assoc, hct]
    exact nextItem_comma hc _

/-- All items are read back up to the bracket. -/
theorem items_writeItems {js : List Json} (hread : ∀ j ∈ js, IsRead j)
    (hback : ∀ j ∈ js, j.ReadsBack) {fuel room : Nat} (rest : Text)
    (hfuel : 2 * (writeItems js).length < fuel) (hroom : ∀ j ∈ js, j.depth ≤ room) :
    items true fuel room true (writeItems js ++ ']' :: rest) = .ok (js, rest) := by
  obtain ⟨fuel, rfl⟩ : ∃ n, fuel = n + 1 := ⟨fuel - 1, by omega⟩
  cases js with
  | nil =>
    rw [writeItems, List.nil_append, items, nextItem_end]
    rfl
  | cons j js =>
    rw [List.forall_mem_cons] at hread hback hroom
    obtain ⟨c, t, hct, hc⟩ := exists_write hback.1
    -- there is no comma in front of the first item, but its own text is not empty
    have hlength : 0 < (write j).length := by
      rw [hct]
      exact Nat.succ_pos _
    rw [writeItems_cons, List.length_append] at hfuel
    rw [writeItems_cons, List.append_assoc]
    refine items_of_next ?_ (hread.1 fuel room _ (by omega) hroom.1
      (endsNumber_flatMap write js (Or.inl rfl) rest))
      (items_flatMap hread.2 hback.2 rest (by omega) hroom.2)
    rw [hct]
    exact nextItem_first hc _

/-- No item is nested deeper than its array allows. -/
theorem depth_le_depthItems {items : List Json} {j : Json} (hj : j ∈ items) :
    j.depth ≤ depthItems items := by
  induction items with
  | nil => cases hj
  | cons i rest ih =>
    rw [depthItems]
    rcases List.mem_cons.1 hj with rfl | hj
    · exact Nat.le_max_left _ _
    · exact Nat.le_trans (ih hj) (Nat.le_max_right _ _)

theorem isRead_arr {items : List Json} (hread : ∀ j ∈ items, IsRead j)
    (hback : ∀ j ∈ items, j.ReadsBack) : IsRead (.arr items) := by
  intro fuel room rest hfuel hroom hrest
  rw [depth] at hroom
  rw [write, List.length_cons, List.length_append, List.length_singleton] at hfuel
  -- the two brackets pay for this step and for finding the end of the items
  obtain ⟨fuel, rfl⟩ : ∃ n, fuel = n + 1 := ⟨fuel - 1, by omega⟩
  have hitems : Json.items true fuel (room - 1) true (writeItems items ++ ']' :: rest)
      = .ok (items, rest) :=
    items_writeItems hread hback rest (by omega)
      fun j hj => Nat.le_trans (depth_le_depthItems hj) (by omega)
  rw [write, List.cons_append, List.append_assoc, value, skipBlanks_of_opens (by decide)]
  show (if room = 0 then _ else Json.items true fuel (room - 1) true _ >>= _) = _
  rw [if_neg (by omega), List.singleton_append, hitems]
  rfl

/-! ### Objects -/

theorem nextKey_end (first : Bool) (t : Text) :
    nextKey first ('\x7d' :: t) = .ok (false, '\x7d' :: t) := rfl

/-- The text of a member in front of another text. -/
theorem writeMember_append (m : Text × Json) (t : Text) :
    writeMember m ++ t = '"' :: (m.1.flatMap escape ++ '"' :: ':' :: (write m.2 ++ t)) := by
  simp [writeMember, writeString]

/-- Members are read one after the other. -/
theorem members_of_next {fuel room : Nat} {t rest : Text} {m : Text × Json}
    {ms : List (Text × Json)} (hvalue : value true fuel room (write m.2 ++ t) = .ok (m.2, t))
    (htail : members true fuel room false t = .ok (ms, rest)) :
    members true (fuel + 1) room false (',' :: (writeMember m ++ t)) = .ok (m :: ms, rest) := by
  rw [writeMember_append, members]
  show (stringBody _ >>= _) = _
  rw [stringBody_flatMap_escape]
  show (value true fuel room _ >>= _) = _
  rw [hvalue]
  show (members true fuel room false t >>= _) = _
  rw [htail]
  rfl

/-- The members behind the first are read back, each with its comma. -/
theorem members_flatMap {ms : List (Text × Json)} (hread : ∀ m ∈ ms, IsRead m.2)
    {fuel room : Nat} (rest : Text)
    (hfuel : 2 * (ms.flatMap fun m => ',' :: writeMember m).length < fuel)
    (hroom : ∀ m ∈ ms, m.2.depth ≤ room) :
    members true fuel room false ((ms.flatMap fun m => ',' :: writeMember m) ++ '\x7d' :: rest)
      = .ok (ms, rest) := by
  induction ms generalizing fuel with
  | nil =>
    obtain ⟨fuel, rfl⟩ : ∃ n, fuel = n + 1 := ⟨fuel - 1, by omega⟩
    rw [List.flatMap_nil, List.nil_append, members, nextKey_end]
    rfl
  | cons m ms ih =>
    rw [List.forall_mem_cons] at hread hroom
    have hlength : (write m.2).length ≤ (writeMember m).length := by
      rw [writeMember, List.length_append, List.length_cons]
      omega
    rw [List.flatMap_cons, List.length_append, List.length_cons] at hfuel
    obtain ⟨fuel, rfl⟩ : ∃ n, fuel = n + 1 := ⟨fuel - 1, by omega⟩
    rw [List.flatMap_cons, List.append_assoc]
    exact members_of_next (hread.1 fuel room _ (by omega) hroom.1
      (endsNumber_flatMap writeMember ms (Or.inr rfl) rest)) (ih hread.2 (by omega) hroom.2)

/-- An object is read from its first member on.  Its key is not the mark, so the object stands for
itself. -/
theorem object_of_next {fuel room : Nat} {t rest : Text} {m : Text × Json}
    {ms : List (Text × Json)} (hmark : m.1 ≠ wrapMark)
    (hvalue : value true fuel room (write m.2 ++ t) = .ok (m.2, t))
    (htail : members true fuel room false t = .ok (ms, rest)) :
    object true (fuel + 1) room (writeMember m ++ t) = .ok (ofMembers (m :: ms), rest) := by
  rw [writeMember_append, object]
  show (stringBody _ >>= _) = _
  rw [stringBody_flatMap_escape]
  show (if (true && decide (m.1 = wrapMark)) = true then _
    else value true fuel room (write m.2 ++ t) >>= _) = _
  rw [if_neg (by simpa using hmark), hvalue]
  show (members true fuel room false t >>= _) = _
  rw [htail]
  rfl

/-- All members are read back up to the brace. -/
theorem object_writeMembers {ms : List (Text × Json)} (hread : ∀ m ∈ ms, IsRead m.2)
    (hms : Legible (.obj ms)) {fuel room : Nat} (rest : Text)
    (hfuel : 2 * (writeMembers ms).length < fuel) (hroom : ∀ m ∈ ms, m.2.depth ≤ room) :
    object true fuel room (writeMembers ms ++ '\x7d' :: rest) = .ok (.obj ms, rest) := by
  obtain ⟨fuel, rfl⟩ : ∃ n, fuel = n + 1 := ⟨fuel - 1, by omega⟩
  cases ms with
  | nil =>
    rw [writeMembers, List.nil_append, object, nextKey_end]
    rfl
  | cons m ms =>
    rw [List.forall_mem_cons] at hread hroom
    have hlength : (write m.2).length < (writeMember m).length := by
      rw [writeMember, List.length_append, List.length_cons]
      omega
    have hmark : m.1 ≠ wrapMark := by
      intro h
      exact hms.2 (by rw [← h]; rfl)
    rw [writeMembers_cons, List.length_append] at hfuel
    rw [writeMembers_cons, List.append_assoc, ← ofMembers_of_nodup hms.1]
    exact object_of_next hmark (hread.1 fuel room _ (by omega) hroom.1
      (endsNumber_flatMap writeMember ms (Or.inr rfl) rest))
      (members_flatMap hread.2 rest (by omega) hroom.2)

/-- No member is nested deeper than its object allows. -/
theorem depth_le_depthMembers {members : List (Text × Json)} {m : Text × Json}
    (hm : m ∈ members) : m.2.depth ≤ depthMembers members := by
  induction members with
  | nil => cases hm
  | cons i rest ih =>
    rw [depthMembers]
    rcases List.mem_cons.1 hm with rfl | hm
    · exact Nat.le_max_left _ _
    · exact Nat.le_trans (ih hm) (Nat.le_max_right _ _)

theorem isRead_obj {members : List (Text × Json)} (hread : ∀ m ∈ members, IsRead m.2)
    (hmembers : Legible (.obj members)) : IsRead (.obj members) := by
  intro fuel room rest hfuel hroom hrest
  rw [depth] at hroom
  rw [write, List.length_cons, List.length_append, List.length_singleton] at hfuel
  obtain ⟨fuel, rfl⟩ : ∃ n, fuel = n + 1 := ⟨fuel - 1, by omega⟩
  have hobject : object true fuel (room - 1) (writeMembers members ++ '\x7d' :: rest)
      = .ok (.obj members, rest) :=
    object_writeMembers hread hmembers rest (by omega)
      fun m hm => Nat.le_trans (depth_le_depthMembers hm) (by omega)
  rw [write, List.cons_append, List.append_assoc, value, skipBlanks_of_opens (by decide)]
  show (if room = 0 then _ else object true fuel (room - 1) _) = _
  rw [if_neg (by omega), List.singleton_append, hobject]

/-! ## Documents -/

/-- Values are read back in front of any text that may follow them. -/
theorem value_write {j : Json} (hj : j.ReadsBack) : IsRead j := by
  induction j using Json.induction with
  | null =>
    exact isRead_of_simpleValue rfl (by decide) (by decide) (by decide) (by decide) fun _ _ => rfl
  | bool b =>
    cases b with
    | false =>
      exact isRead_of_simpleValue rfl (by decide) (by decide) (by decide) (by decide) fun _ _ => rfl
    | true =>
      exact isRead_of_simpleValue rfl (by decide) (by decide) (by decide) (by decide) fun _ _ => rfl
  | num n => exact isRead_num (hj _ List.mem_cons_self)
  | str s => exact isRead_str s
  | arr items ih =>
    rw [readsBack_arr] at hj
    exact isRead_arr (fun j hmem => ih j hmem (hj j hmem)) hj
  | obj members ih =>
    rw [readsBack_obj] at hj
    exact isRead_obj (fun m hmem => ih m hmem (hj.2 m hmem)) hj.1

/-- **Reading undoes writing.**  A document with legible nodes that is not nested too deep is read
back from its text. -/
theorem parse_write {j : Json} (hj : j.ReadsBack) (hdepth : j.depth ≤ maxRoom) :
    parse (write j) = .ok j := by
  have hend : EndsNumber [] := by
    intro c hc
    cases hc
  have hvalue := value_write hj (2 * (write j).length + 2) maxRoom [] (by omega) hdepth hend
  rw [List.append_nil] at hvalue
  rw [parse, hvalue]
  rfl

end Rampart.Json
