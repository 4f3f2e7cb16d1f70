import Mathlib
import Rampart.Proofs.Path.Spelling

/-!
# Percent signs

Each text of a request may have one `%`, and nothing looks at all of them together.  So a path has
no more of them than the texts it was built from, and exactly as many if none of them is rooted, but
it can have more than one.  Between any two of them there is a separator.

* `Lexical.percents` : the percent signs in the names of a path;
* `Lexical.percents_of_parse`, `Lexical.percents_joinAll_le`, `Lexical.percents_joinAll` : what
  reading and joining make of them;
* `Lexical.Canonical.count_render` : writing adds none;
* `built_text_percents` : the percent signs of a path that is built.
-/

namespace Rampart.Path

/-! ## Counting in pieces -/

/-- A character that does not split a text is as frequent in all of its pieces as in the text. -/
theorem count_flatten_splitOnP {p : Char → Bool} {c : Char} (hc : p c = false) (v : Text) :
    (v.splitOnP p).flatten.count c = v.count c := by
  induction v with
  | nil => rfl
  | cons x v ih =>
    obtain ⟨first, rest, hsplit⟩ := List.exists_cons_of_ne_nil (List.splitOnP_ne_nil p v)
    rw [List.splitOnP_cons_eq_if_modifyHead]
    by_cases hx : p x = true
    · have hne : x ≠ c := by
        rintro rfl
        rw [hc] at hx
        cases hx
      rw [if_pos hx, List.flatten_cons, List.nil_append, ih, List.count_cons_of_ne hne]
    · rw [hsplit, List.flatten_cons] at ih
      rw [if_neg hx, hsplit, List.modifyHead_cons, List.flatten_cons, List.cons_append,
        List.count_cons, List.count_cons, ih]

/-- Pieces without a character may be left out where it is counted. -/
theorem count_flatten_filter {keep : Text → Bool} {c : Char} {pieces : List Text}
    (h : ∀ v ∈ pieces, keep v = false → v.count c = 0) :
    (pieces.filter keep).flatten.count c = pieces.flatten.count c := by
  induction pieces with
  | nil => rfl
  | cons v pieces ih =>
    have hrest := ih fun w hw => h w (List.mem_cons_of_mem v hw)
    by_cases hv : keep v = true
    · rw [List.filter_cons_of_pos hv, List.flatten_cons, List.flatten_cons, List.count_append,
        List.count_append, hrest]
    · have hzero : v.count c = 0 := h v List.mem_cons_self (Bool.eq_false_of_not_eq_true hv)
      rw [List.filter_cons_of_neg hv, List.flatten_cons, List.count_append, hrest, hzero,
        Nat.zero_add]

namespace Lexical

/-- No percent sign is lost where a text is split. -/
theorem count_split (s : Style) (v : Text) : (split s v).flatten.count '%' = v.count '%' := by
  have hsep : s.isSeparator '%' = false := by
    cases s <;> rfl
  rw [split, count_flatten_filter, count_flatten_splitOnP hsep]
  intro part _ hdropped
  rw [Bool.and_eq_false_iff] at hdropped
  rcases hdropped with hempty | hdot
  · rw [Bool.not_eq_false', List.isEmpty_iff] at hempty
    rw [hempty]
    rfl
  · rw [bne_eq_false_iff_eq] at hdot
    rw [hdot]
    rfl

/-! ## Percent signs in paths -/

/-- How many percent signs there are in the names of a path. -/
def percents (p : Lexical) : Nat := p.names.flatten.count '%'

/-- A path has the percent signs of its root and of its components. -/
theorem percents_eq_add (p : Lexical) :
    p.percents = p.root.names.flatten.count '%' + p.components.flatten.count '%' := by
  rw [percents, names, List.flatten_append, List.count_append]

/-- A path has the percent signs of the text that it is read from. -/
theorem percents_of_parse {s : Style} {v : Text} {p : Lexical} (h : parse s v = .ok p) :
    p.percents = v.count '%' := by
  cases s with
  | posix =>
    rw [parse, Except.ok.injEq] at h
    subst h
    rw [percents_eq_add, count_split]
    split <;> exact Nat.zero_add _
  | windows =>
    have hreads := readsAs v
    rw [h] at hreads
    cases hreads with
    | share hdouble hsplit =>
      rw [← count_split .windows v, hsplit]
      rfl
    | @drive letter rest hv halpha =>
      have hletter : letter ≠ '%' := by
        rintro rfl
        cases halpha
      have hcolon : ':' ≠ '%' := by decide
      rw [hv, List.count_cons_of_ne hletter, List.count_cons_of_ne hcolon,
        ← count_split .windows rest]
      rfl
    | separator =>
      rw [← count_split .windows v]
      rfl
    | relative =>
      rw [← count_split .windows v]
      rfl

/-- Joining adds no percent signs. -/
theorem percents_join_le (p tail : Lexical) :
    (p.join tail).percents ≤ p.percents + tail.percents := by
  -- a tail rooted by a separator leaves nothing of the path but its volume
  have hvolume : percents ⟨p.root, tail.components⟩ ≤ p.percents + tail.percents := by
    simp only [percents_eq_add]
    omega
  unfold join
  split
  · simp only [percents_eq_add, List.flatten_append, List.count_append]
    omega
  · exact hvolume
  · exact hvolume
  · exact Nat.le_add_left _ _

/-- A tail without root is joined with all its percent signs, and so is the path. -/
theorem percents_join {tail : Lexical} (h : tail.root = .relative) (p : Lexical) :
    (p.join tail).percents = p.percents + tail.percents := by
  obtain ⟨root, cs⟩ := tail
  subst h
  have hroot : (Root.names .relative).flatten.count '%' = 0 := rfl
  show percents ⟨p.root, p.components ++ cs⟩ = _
  simp only [percents_eq_add, List.flatten_append, List.count_append]
  omega

/-- Joining segments adds no percent signs to those of the path and of the segments. -/
theorem percents_joinAll_le {s : Style} {p q : Lexical} {tail : List Text}
    (h : joinAll s p tail = .ok q) : q.percents ≤ p.percents + tail.flatten.count '%' := by
  induction tail generalizing p with
  | nil =>
    cases h
    exact Nat.le_add_right _ _
  | cons v tail ih =>
    rw [joinAll, bind_eq_ok_iff] at h
    obtain ⟨t, hparse, hrest⟩ := h
    have hjoin := percents_join_le p t
    have hread := percents_of_parse hparse
    have hnext := ih hrest
    rw [List.flatten_cons, List.count_append]
    omega

/-- Segments without root are joined with all their percent signs. -/
theorem percents_joinAll {s : Style} {p q : Lexical} {tail : List Text}
    (hunrooted : ∀ v ∈ tail, IsUnrooted s v) (h : joinAll s p tail = .ok q) :
    q.percents = p.percents + tail.flatten.count '%' := by
  induction tail generalizing p with
  | nil =>
    cases h
    rfl
  | cons v tail ih =>
    obtain ⟨hv, htail⟩ := List.forall_mem_cons.1 hunrooted
    rw [joinAll, bind_eq_ok_iff] at h
    obtain ⟨t, hparse, hrest⟩ := h
    have hroot : t.root = .relative := by
      rw [parse_of_isUnrooted hv] at hparse
      cases hparse
      rfl
    have hjoin := percents_join hroot p
    have hread := percents_of_parse hparse
    have hnext := ih htail hrest
    rw [List.flatten_cons, List.count_append]
    omega

/-- The text of a canonical path has the percent signs of its names and no other. -/
theorem Canonical.count_render {s : Style} {q : Lexical} (hq : q.Canonical s)
    (hdepth : 0 < q.depth) : (q.render s).count '%' = q.percents := by
  have hsep : '%' ≠ s.separator := by
    cases s <;> decide
  have hroot : q.root.pieces.flatten.count '%' = q.root.names.flatten.count '%' := by
    cases hcase : q.root with
    | relative => rfl
    | separator => rfl
    | share server volume => rfl
    | drive letter =>
      have hupper := (hq.isUpper_drive hcase).2
      have hletter : letter ≠ '%' := by
        rintro rfl
        cases hupper
      exact List.count_cons_of_ne hletter
  rw [render_eq_intercalate (List.length_pos_iff.1 hdepth), count_intercalate hsep,
    List.flatten_append, List.count_append, hroot, percents_eq_add]

/-- If no name has more than one percent sign, there is a separator between any two of them. -/
theorem separator_mem_of_isInfix_render {s : Style} {q : Lexical} (hdepth : 0 < q.depth)
    (hnames : ∀ c ∈ q.names, c.count '%' ≤ 1) {between : Text}
    (h : '%' :: (between ++ ['%']) <:+: q.render s) : s.separator ∈ between := by
  by_contra hbetween
  have hpercent : s.separator ≠ '%' := by
    cases s <;> decide
  have hsep : s.separator ∉ '%' :: (between ++ ['%']) := by
    rw [List.mem_cons, List.mem_append, List.mem_singleton]
    rintro (h | h | h)
    · exact hpercent h
    · exact hbetween h
    · exact hpercent h
  have htwo : 2 ≤ ('%' :: (between ++ ['%'])).count '%' := by
    rw [List.count_cons_self, List.count_append, List.count_singleton_self]
    omega
  rcases isInfix_of_isInfix_render hdepth (List.cons_ne_nil _ _) hsep h with
    ⟨letter, -, hdrive⟩ | ⟨c, hc, hname⟩
  · -- the drive is too short: its second character is the colon
    have hcount := hdrive.sublist.count_le '%'
    have hdrive : [letter, ':'].count '%' ≤ 1 := by
      rw [List.count_cons]
      split <;> decide
    omega
  · have hcount := hname.sublist.count_le '%'
    have hc := hnames c hc
    omega

end Lexical

/-! ## Percent signs in built paths -/

/-- Sound texts that are combined with a qualified base give the text of the canonical path that
comes of the joins, as nothing is taken back. -/
theorem exists_joined_of_combine {s : Style} {cwd : WorkingDirectory} {base : Text} {b : Lexical}
    {tail : List Text} {k : Containment} {p : ValidatedPath}
    (hsound : ∀ v ∈ base :: tail, IsSound s v) (hb : Lexical.parse s base = .ok b)
    (hqualified : b.isQualified s = true) (h : combine s cwd base tail k = .ok p) :
    ∃ j, joinAll s b tail = .ok j ∧ j.Canonical s ∧ 0 < j.depth ∧ p.text = j.render s := by
  obtain ⟨hbase, htail⟩ := List.forall_mem_cons.1 hsound
  -- a name that is `..` would stand in a text that has passed the check for it
  have hclimb : ∀ v t, IsSound s v → Lexical.parse s v = .ok t → ∀ c ∈ t.names, c ≠ ['.', '.'] := by
    rintro v t hv ht c hc rfl
    exact hv.noClimb (Lexical.isInfix_of_mem_names ht hc)
  have hnormal : ∀ q : Lexical, (∀ c ∈ q.names, c ≠ ['.', '.']) → q.normalize = q := by
    intro q hq
    refine Lexical.normalize_of_noClimb fun hmem => ?_
    exact hq _ (List.mem_append_right _ hmem) rfl
  have hresolve : resolveBase s cwd base = .ok b := by
    rw [resolveBase_of_isQualified hb hqualified, hnormal b (hclimb base b hbase hb)]
  have hcanon : b.Canonical s := canonical_of_isQualified hresolve hqualified
  rw [combine_of_resolveBase hresolve hcanon, bind_eq_ok_iff] at h
  obtain ⟨j, hj, h⟩ := h
  have hnames : ∀ c ∈ j.names, c ≠ ['.', '.'] :=
    Lexical.forall_names_joinAll (hclimb base b hbase hb)
      (fun v hv t ht => hclimb v t (htail v hv) ht) hj
  have hjoined : j.Canonical s := by
    have hcanonical := hcanon.normalize_joinAll hj
    rw [hnormal j hnames] at hcanonical
    exact hcanonical
  rw [hnormal j hnames] at h
  split at h
  · rename_i hin
    rw [Bool.and_eq_true] at hin
    have hdeeper : b.depth < j.depth := Containment.lt_of_admits hin.2
    cases h
    exact ⟨j, hj, hjoined, by omega, rfl⟩
  · cases h

/-- **Percent signs.**  Each text of a request that is granted below a qualified base has at most
one `%`.  The path has no more of them than all these texts together, and exactly as many if none of
the texts behind the base is rooted; between any two of them there is a separator. -/
theorem built_text_percents {s : Style} {cwd : WorkingDirectory} {base : Text} {b : Lexical}
    {r : Request} {p : ValidatedPath} (hb : Lexical.parse s base = .ok b)
    (hqualified : b.isQualified s = true) (h : r.build s cwd base = .ok p) :
    (∀ v ∈ base :: r.tail, v.count '%' ≤ 1) ∧
    p.text.count '%' ≤ (base :: r.tail).flatten.count '%' ∧
    ((∀ v ∈ r.tail, IsUnrooted s v) →
      p.text.count '%' = (base :: r.tail).flatten.count '%') ∧
    ∀ between, '%' :: (between ++ ['%']) <:+: p.text → s.separator ∈ between := by
  rw [Request.build_eq, refuse_bind_eq_ok_iff] at h
  obtain ⟨hfault, hcombine⟩ := h
  have hparts := Request.forall_of_fault hfault
  obtain ⟨j, hj, hcanon, hdepth, htext⟩ :=
    exists_joined_of_combine (fun v hv => (hparts v hv).1) hb hqualified hcombine
  have hread : b.percents = base.count '%' := Lexical.percents_of_parse hb
  rw [htext, hcanon.count_render hdepth, List.flatten_cons, List.count_append, ← hread]
  refine ⟨fun v hv => (hparts v hv).2, Lexical.percents_joinAll_le hj,
    fun hunrooted => Lexical.percents_joinAll hunrooted hj, fun between hbetween => ?_⟩
  have hname : ∀ v ∈ base :: r.tail, ∀ t, Lexical.parse s v = .ok t →
      ∀ c ∈ t.names, c.count '%' ≤ 1 := by
    intro v hv t ht c hc
    exact le_trans ((Lexical.isInfix_of_mem_names ht hc).sublist.count_le '%') (hparts v hv).2
  have hnames : ∀ c ∈ j.names, c.count '%' ≤ 1 :=
    Lexical.forall_names_joinAll (hname base List.mem_cons_self b hb)
      (fun v hv => hname v (List.mem_cons_of_mem base hv)) hj
  exact Lexical.separator_mem_of_isInfix_render hdepth hnames hbetween

/-- The name of a variable with a sign before it, and a file name with a sign behind it, bring two
of them into one path; they stand in different names. -/
theorem built_text_percents_two :
    ∃ b, Lexical.parse .windows "C:\\data".toList = .ok b ∧ b.isQualified .windows = true ∧
      (Request.segments ["%TEMP".toList, "x%".toList]).build .windows .missing "C:\\data".toList
        = .ok ⟨"C:\\data\\%TEMP\\x%".toList, .windows⟩ ∧
      "C:\\data\\%TEMP\\x%".toList.count '%' ≤ 2 ∧
      ∀ between, '%' :: (between ++ ['%']) <:+: "C:\\data\\%TEMP\\x%".toList →
        Style.windows.separator ∈ between := by
  have hb : Lexical.parse .windows "C:\\data".toList = .ok ⟨.drive 'C', ["data".toList]⟩ := rfl
  have hbuild : (Request.segments ["%TEMP".toList, "x%".toList]).build .windows .missing
      "C:\\data".toList = .ok ⟨"C:\\data\\%TEMP\\x%".toList, .windows⟩ := rfl
  obtain ⟨-, hle, -, hbetween⟩ := built_text_percents hb rfl hbuild
  exact ⟨_, hb, rfl, hbuild, hle, hbetween⟩

/-- A path that is built below a qualified base can have more than one `%`. -/
theorem not_built_text_one_percent :
    ¬ ∀ s cwd base b r p, Lexical.parse s base = .ok b → b.isQualified s = true →
      Request.build s cwd base r = .ok p → p.text.count '%' ≤ 1 := by
  intro hall
  have hcount := hall .posix .missing "/b".toList ⟨.separator, ["b".toList]⟩
    (.segments ["a%".toList, "c%".toList]) ⟨"/b/a%/c%".toList, .posix⟩ rfl rfl rfl
  exact absurd hcount (by decide)

end Rampart.Path
