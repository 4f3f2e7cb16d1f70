/-!
# Text

Every piece of text in this library, be it a path, a type name or a message, is the list of its
characters, so that rules about characters are stated by recursion on the list.  This module holds
the type, the blank characters and trimming, substrings, and the decimal text of numbers.
-/

namespace Rampart

/-- Text is the list of its characters. -/
abbrev Text := List Char

instance : Coe String Text := ⟨String.toList⟩

namespace Text

/-! ## Blank characters -/

/-- The characters that the Unicode property `White_Space` holds of. -/
def isBlankChar (c : Char) : Bool :=
  let n := c.toNat
  (0x9 ≤ n && n ≤ 0xD) || n == 0x20 || n == 0x85 || n == 0xA0 || n == 0x1680
    || (0x2000 ≤ n && n ≤ 0x200A) || n == 0x2028 || n == 0x2029 || n == 0x202F
    || n == 0x205F || n == 0x3000

/-- Text is blank when it is empty or holds blank characters only. -/
def isBlank (t : Text) : Bool := t.all isBlankChar

/-- Text without the blank characters at its two ends. -/
def trim (t : Text) : Text :=
  ((t.dropWhile isBlankChar).reverse.dropWhile isBlankChar).reverse

@[simp] theorem isBlank_nil : isBlank [] = true := rfl

@[simp] theorem trim_nil : trim [] = [] := rfl

/-- Blank text is the text that trimming empties. -/
theorem trim_eq_nil_iff (t : Text) : trim t = [] ↔ isBlank t = true := by
  have key : ∀ l : Text, l.dropWhile isBlankChar = [] ↔ ∀ c ∈ l, isBlankChar c = true := by
    intro l
    induction l with
    | nil => simp
    | cons c l ih =>
      by_cases h : isBlankChar c = true
      · simp [List.dropWhile, h, ih]
      · simp [List.dropWhile, h]
  constructor
  · intro h
    have hr : (t.dropWhile isBlankChar).reverse.dropWhile isBlankChar = [] := by
      simpa [trim] using h
    have hall := (key _).1 hr
    have hnil : t.dropWhile isBlankChar = [] := by
      cases hd : t.dropWhile isBlankChar with
      | nil => rfl
      | cons c l =>
        have hc : isBlankChar c = true := hall c (by simp [hd])
        have hne : t.dropWhile isBlankChar ≠ [] := by simp [hd]
        have := List.head_dropWhile_not isBlankChar hne
        simp [hd, hc] at this
    simpa [isBlank] using (key t).1 hnil
  · intro h
    have : t.dropWhile isBlankChar = [] := (key t).2 (by simpa [isBlank] using h)
    simp [trim, this]

/-! ## Pieces of text -/

/-- Whether `needle` occurs somewhere in `t`. -/
def has : (t needle : Text) → Bool
  | [], needle => needle.isEmpty
  | c :: t, needle => needle.isPrefixOf (c :: t) || has t needle

/-- To occur somewhere is to be an infix. -/
theorem has_iff (t needle : Text) : has t needle = true ↔ needle <:+: t := by
  induction t with
  | nil => simp [has]
  | cons c t ih => simp [has, ih, List.infix_cons_iff]

/-- Whether `a` stands before `b` when texts are ordered by their characters from the first on. -/
def before : (a b : Text) → Bool
  | _, [] => false
  | [], _ :: _ => true
  | c :: a, d :: b => c.toNat < d.toNat || (c == d && before a b)

/-- The part of `t` after its last character with property `p`; all of it when there is none. -/
def afterLast (p : Char → Bool) (t : Text) : Text := (t.reverse.takeWhile fun c => !p c).reverse

/-- The part of `t` before its first character with property `p`; all of it when there is none. -/
def beforeFirst (p : Char → Bool) (t : Text) : Text := t.takeWhile fun c => !p c

/-- The number of bytes of the UTF-8 form. -/
def byteSize (t : Text) : Nat := t.foldr (fun c n => c.utf8Size + n) 0

@[simp] theorem byteSize_nil : byteSize [] = 0 := rfl

@[simp] theorem byteSize_cons (c : Char) (t : Text) : byteSize (c :: t) = c.utf8Size + byteSize t :=
  rfl

/-- The text behind its first `n` bytes. -/
def dropBytes : (n : Nat) → Text → Text
  | 0, t => t
  | _, [] => []
  | n + 1, c :: t => dropBytes (n + 1 - c.utf8Size) t

/-- The text up to its byte `n`. -/
def takeBytes : (n : Nat) → Text → Text
  | 0, _ => []
  | _, [] => []
  | n + 1, c :: t => c :: takeBytes (n + 1 - c.utf8Size) t

/-- The UTF-8 form. -/
def toUtf8 (t : Text) : List UInt8 := (String.ofList t).toUTF8.toList

/-- The text with the given UTF-8 form, if the bytes are one. -/
def ofUtf8? (bytes : List UInt8) : Option Text :=
  let b := ByteArray.mk bytes.toArray
  if h : b.IsValidUTF8 then some (String.ofByteArray b h).toList else none

/-! ## Numbers -/

/-- The decimal digits of a natural number. -/
def ofNat (n : Nat) : Text := Nat.toDigits 10 n

/-- The decimal digits of an integer, after a minus sign if it is negative. -/
def ofInt : Int → Text
  | .ofNat n => ofNat n
  | .negSucc n => '-' :: ofNat (n + 1)

/-- The value of a decimal digit. -/
def digit? (c : Char) : Option Nat :=
  if '0' ≤ c ∧ c ≤ '9' then some (c.toNat - '0'.toNat) else none

/-- Whether a character is one of the ten ASCII digits. -/
def isDigit (c : Char) : Bool := (digit? c).isSome

/-- The number that a list of decimal digits denotes, most significant first. -/
def digitsValue (t : Text) : Nat := t.foldl (fun n c => 10 * n + (digit? c).getD 0) 0

/-- Whether a minus sign stands in front, and the text behind a sign. -/
def signed : Text → Bool × Text
  | '-' :: rest => (true, rest)
  | '+' :: rest => (false, rest)
  | t => (false, t)

/-- The whole number that decimal digits, behind a sign or not, denote. -/
def toInt? (t : Text) : Option Int :=
  let (negative, digits) := signed t
  if digits.isEmpty || !digits.all isDigit then none
  else if negative then some (-digitsValue digits)
  else some (digitsValue digits)

/-- The last `width` digits of a natural number, with zeros in front as needed. -/
def padded (width n : Nat) : Text :=
  let digits := ofNat n
  List.replicate (width - digits.length) '0' ++ digits

/-- The hexadecimal digits of a natural number, in lower case. -/
def hex (n : Nat) : Text := Nat.toDigits 16 n

/-- The value of a hexadecimal digit. -/
def hexDigit? (c : Char) : Option Nat :=
  if '0' ≤ c ∧ c ≤ '9' then some (c.toNat - '0'.toNat)
  else if 'a' ≤ c ∧ c ≤ 'f' then some (c.toNat - 'a'.toNat + 10)
  else if 'A' ≤ c ∧ c ≤ 'F' then some (c.toNat - 'A'.toNat + 10)
  else none

/-- The character with the given number, if there is one. -/
def charOf? (n : Nat) : Option Char :=
  if n < 0xD800 || (0xDFFF < n && n < 0x110000) then some (Char.ofNat n) else none

/-- The character with the number that hexadecimal digits denote. -/
def charOfHex? (digits : Text) : Option Char := do
  charOf? (← digits.foldlM (fun n c => do return 16 * n + (← hexDigit? c)) 0)

/-- The text without the mark of its encoding in front. -/
def withoutMark : Text → Text
  | [] => []
  | c :: rest => if c.toNat = 0xFEFF then rest else c :: rest

end Text

end Rampart
