import Mathlib
import Rampart.Proofs.Audit.Progress
import Rampart.Proofs.Audit.Reading

/-!
# One line for each event

What an event holds is escaped, so there is no line feed in its text, and the lines of events are
told apart by the line feeds behind them.  The bytes of the lines are those of one text.

* `Text.ofUtf8?_toUtf8` : text is read back from its UTF-8 form;
* `Event.feed_not_mem_write` : an event is written in one line;
* `splitOn_flatMap_line` : the lines of events split into one line for each.
-/

namespace Rampart

/-! ## The UTF-8 form -/

namespace Text

/-- The bytes from a position on are put behind those that were collected. -/
theorem toList_loop (b : ByteArray) (i : Nat) (found : List UInt8) :
    ByteArray.toList.loop b i found = found.reverse ++ b.data.toList.drop i := by
  fun_induction ByteArray.toList.loop b i found with
  | case1 i found hlt ih =>
    have hlength : i < b.data.toList.length := by simpa using hlt
    rw [ih, List.drop_eq_getElem_cons hlength, List.reverse_cons, List.append_assoc]
    show _ ++ (b.data[i]! :: _) = _
    rw [getElem!_pos b.data i hlt]
    rfl
  | case2 i found hlt =>
    have hlength : b.data.toList.length ≤ i := by simpa using hlt
    rw [List.drop_eq_nil_of_le hlength, List.append_nil]

theorem toUtf8_eq (t : Text) : toUtf8 t = (String.ofList t).toByteArray.data.toList := by
  rw [toUtf8, ByteArray.toList, toList_loop]
  rfl

theorem toUtf8_append (t u : Text) : toUtf8 (t ++ u) = toUtf8 t ++ toUtf8 u := by
  rw [toUtf8_eq, toUtf8_eq, toUtf8_eq, String.ofList_append, String.toByteArray_append]
  simp

theorem toUtf8_nil : toUtf8 [] = [] := by
  rw [toUtf8_eq]
  rfl

/-- The bytes of several texts are those of the texts one after the other. -/
theorem flatMap_toUtf8 {α : Type} (f : α → Text) (as : List α) :
    (as.flatMap fun a => toUtf8 (f a)) = toUtf8 (as.flatMap f) := by
  induction as with
  | nil => exact toUtf8_nil.symm
  | cons a as ih => rw [List.flatMap_cons, List.flatMap_cons, toUtf8_append, ih]

/-- **Text is read back from its UTF-8 form.** -/
theorem ofUtf8?_toUtf8 (t : Text) : ofUtf8? (toUtf8 t) = some t := by
  have hbytes : ByteArray.mk (toUtf8 t).toArray = (String.ofList t).toByteArray := by
    rw [toUtf8_eq]
  unfold ofUtf8?
  simp only [hbytes, (String.ofList t).isValidUTF8]
  exact congrArg some String.toList_ofList

end Text

/-! ## One line for each event -/

namespace Json

/-- No character is written with a line feed. -/
theorem feed_not_mem_escape (c : Char) : '\n' ∉ escape c := by
  have hdigit : ∀ d < 16, '\n' ≠ Nat.digitChar d := by decide
  unfold escape
  split_ifs with hquote hslash hfeed hreturn htab hback hform hcontrol
  -- most escapes are a backslash and a fixed character
  all_goals try decide
  · -- the two digits of a control character
    have hhigh := hdigit (c.toNat / 16) (by omega)
    have hlow := hdigit (c.toNat % 16) (by omega)
    simp only [List.mem_cons, List.not_mem_nil, or_false, not_or]
    exact ⟨by decide, by decide, by decide, by decide, hhigh, hlow⟩
  · -- a character that stands for itself is no line feed, since that is escaped
    intro hmem
    exact hfeed (List.mem_singleton.1 hmem).symm

/-- **A string is written in one line**, whatever it holds. -/
theorem feed_not_mem_writeString (s : Text) : '\n' ∉ writeString s := by
  intro hmem
  rw [writeString, List.mem_cons, List.mem_append, List.mem_flatMap, List.mem_singleton] at hmem
  rcases hmem with hmem | ⟨c, -, hc⟩ | hmem
  · exact absurd hmem (by decide)
  · exact feed_not_mem_escape c hc
  · exact absurd hmem (by decide)

end Json

namespace Audit

open Json

/-- A member with a text is written in one line. -/
theorem feed_not_mem_writeMember (f : Text × Text) : '\n' ∉ writeMember (member f) := by
  intro hmem
  rw [writeMember, member, List.mem_append, List.mem_cons, write] at hmem
  rcases hmem with hmem | hmem | hmem
  · exact feed_not_mem_writeString f.1 hmem
  · exact absurd hmem (by decide)
  · exact feed_not_mem_writeString f.2 hmem

/-- **An event is written in one line.** -/
theorem Event.feed_not_mem_write (e : Event) : '\n' ∉ e.toJson.write := by
  intro hmem
  rw [Event.write_toJson, List.mem_cons, List.mem_append, List.mem_append, List.mem_flatMap] at hmem
  rcases hmem with hmem | hmem | ⟨m, hm, hmem⟩ | hmem
  · exact absurd hmem (by decide)
  · exact feed_not_mem_writeMember _ hmem
  · obtain ⟨f, -, rfl⟩ := List.mem_map.1 hm
    rcases List.mem_cons.1 hmem with hmem | hmem
    · exact absurd hmem (by decide)
    · exact feed_not_mem_writeMember f hmem
  · exact absurd hmem (by decide)

/-- **There is one line for each event**, and nothing behind the last. -/
theorem splitOn_flatMap_line (es : List Event) :
    (es.flatMap Event.line).splitOn '\n' = es.map (fun e => e.toJson.write) ++ [[]] := by
  induction es with
  | nil => rfl
  | cons e es ih =>
    rw [List.flatMap_cons, Event.line, List.append_assoc, List.singleton_append,
      List.splitOn_append_cons_self_of_not_mem e.feed_not_mem_write, ih, List.map_cons,
      List.cons_append]

/-- The lines of events are no lines at all only if there are no events. -/
theorem lines_eq_nil_iff {es : List Event} : lines es = [] ↔ es = [] := by
  constructor
  · intro h
    cases es with
    | nil => rfl
    | cons e es =>
      have hline : Text.toUtf8 e.line = [] := (List.append_eq_nil_iff.1 h).1
      have hread := Text.ofUtf8?_toUtf8 e.line
      rw [hline, ← Text.toUtf8_nil, Text.ofUtf8?_toUtf8] at hread
      exact absurd (Option.some.inj hread).symm (List.append_ne_nil_of_right_ne_nil _ (by decide))
  · rintro rfl
    rfl

end Audit

end Rampart
