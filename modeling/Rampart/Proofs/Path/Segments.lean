import Mathlib
import Rampart.Proofs.Path.Checks

/-!
# Names, tails and segments

The same path can be asked for as a bare name, as a tail, or as a list of segments.  A bare name
comes to the same in all three, and a tail may be cut into segments anywhere between its names.  The
last segment is the file name of what is built, unless it is `.`, which adds nothing to the path.

* `requests_agree_on_bare_names` : the three requests on a bare name;
* `segments_built_iff_tail_built` : a tail and its segments;
* `fileName_eq_last_iff` : the final component of what a list of segments gives.
-/

namespace Rampart.Path

/-! ## Bare names -/

theorem ne_nil_of_not_blank {v : Text} (h : v.isBlank = false) : v ≠ [] := by
  rintro rfl
  cases h

/-- No character of a name leads elsewhere if none is a separator or the sign of a volume. -/
theorem changesDirectory_of_bare {s : Style} {name : Text}
    (h : ∀ c ∈ name, s.isSeparator c = false ∧ s.volumeSeparator ≠ some c) :
    ∀ c ∈ name, changesDirectory s c = false := by
  intro c hc
  obtain ⟨hseparator, hvolume⟩ := h c hc
  rw [changesDirectory, hseparator, Bool.false_or, beq_eq_false_iff_ne]
  exact Ne.symm hvolume

/-- A bare name adds at most one component, so to lie below the base is to lie directly in it. -/
theorem combine_descendant_of_bare {s : Style} {cwd : WorkingDirectory} (hcwd : cwd.IsAbsolute)
    {base name : Text} (hne : name ≠ []) (hleaves : ¬ Leaves s name) :
    combine s cwd base [name] .descendant = combine s cwd base [name] .exactParent := by
  cases hb : resolveBase s cwd base with
  | error r => rw [combine_of_resolveBase_error hb, combine_of_resolveBase_error hb]
  | ok b =>
    have hcanon : b.Canonical s := canonical_of_resolveBase hcwd hb
    have hparse := Lexical.parse_of_bare hne hleaves
    generalize ht : (if name = ['.'] then [] else [name]) = names at hparse
    have hlength : names.length ≤ 1 := by
      rw [← ht]
      split <;> simp
    have hclimb : ['.', '.'] ∉ names := by
      intro hmem
      rw [← ht] at hmem
      split at hmem
      · cases hmem
      · exact ne_climb_of_not_leaves hleaves (List.mem_singleton.1 hmem).symm
    have hadmits : Containment.descendant.admits b.depth (b.depth + names.length)
        = Containment.exactParent.admits b.depth (b.depth + names.length) := by
      rw [Containment.admits, Containment.admits, Bool.eq_iff_iff, decide_eq_true_iff, beq_iff_eq]
      omega
    rw [combine_relative hb hcanon hparse rfl hclimb, combine_relative hb hcanon hparse rfl hclimb]
    show (if Containment.descendant.admits b.depth (b.depth + names.length) then _ else _)
      = if Containment.exactParent.admits b.depth (b.depth + names.length) then _ else _
    rw [hadmits]

/-- The refusal as a list of segments gives it, which calls every argument a segment. -/
def Rejection.amongSegments : Rejection → Rejection
  | .blank _ => .blank .segments
  | r => r

theorem Rejection.amongSegments_of_kind {r : Rejection} (h : r.kind ≠ .invalidArgument) :
    r.amongSegments = r := by
  cases r with
  | blank argument => exact absurd rfl h
  | _ => rfl

/-- Whatever is wrong with a base makes an invalid path. -/
theorem kind_of_baseFault {s : Style} {v : Text} {r : Rejection} (h : baseFault s v = some r) :
    r.kind = .invalidPath := by
  rw [baseFault, Option.orElse_eq_some, Option.orElse_eq_some, Option.orElse_eq_some] at h
  rcases h with h | ⟨-, h | ⟨-, h | ⟨-, h⟩⟩⟩
  · rw [reservedPathFault, Option.map_eq_some_iff] at h
    obtain ⟨c, -, rfl⟩ := h
    rfl
  · rw [Option.ite_none_right_eq_some] at h
    obtain ⟨-, ⟨⟩⟩ := h
    rfl
  · rw [volumeFault, Option.bind_eq_some_iff] at h
    obtain ⟨c, -, h⟩ := h
    rw [Option.ite_none_right_eq_some] at h
    obtain ⟨-, ⟨⟩⟩ := h
    rfl
  · rw [percentFault, Option.ite_none_right_eq_some] at h
    obtain ⟨-, ⟨⟩⟩ := h
    rfl

/-- Whatever is wrong with a file name, it is not that it is blank. -/
theorem kind_of_fileNameFault {s : Style} {v : Text} {r : Rejection}
    (h : fileNameFault s v = some r) : r.kind ≠ .invalidArgument := by
  by_cases hleaves : Leaves s v
  · obtain ⟨r', hr', hkind⟩ := fileNameFault_of_leaves hleaves
    rw [h] at hr'
    cases hr'
    rw [hkind]
    decide
  · by_cases hill : IsIllSpelled s v
    · obtain ⟨r', hr', hkind⟩ := fileNameFault_of_isIllSpelled hleaves hill
      rw [h] at hr'
      cases hr'
      rw [hkind]
      decide
    · rw [fileNameFault_of_isPlainName hleaves hill] at h
      cases h

/-- The checks of a base and a file name find no fault with the arguments. -/
theorem kind_of_checks {s : Style} {base name : Text} {r : Rejection}
    (h : (baseFault s base <|> fileNameFault s name) = some r) : r.kind ≠ .invalidArgument := by
  rw [Option.orElse_eq_some] at h
  rcases h with h | ⟨-, h⟩
  · rw [kind_of_baseFault h]
    decide
  · exact kind_of_fileNameFault h

/-- Segments that cannot be read make an invalid path. -/
theorem kind_of_joinAll {s : Style} {p : Lexical} {segments : List Text} {r : Rejection}
    (h : joinAll s p segments = .error r) : r.kind = .invalidPath := by
  induction segments generalizing p with
  | nil => cases h
  | cons segment rest ih =>
    rw [joinAll, bind_eq_error_iff] at h
    rcases h with h | ⟨tail, -, h⟩
    · rw [(Lexical.parse_eq_error_iff.1 h).1]
      rfl
    · exact ih h

/-- Combining finds no fault with the arguments. -/
theorem kind_of_combine {s : Style} {cwd : WorkingDirectory} (hcwd : cwd.IsAbsolute) {base : Text}
    {tail : List Text} {k : Containment} {r : Rejection}
    (h : combine s cwd base tail k = .error r) : r.kind ≠ .invalidArgument := by
  cases hb : resolveBase s cwd base with
  | error r' =>
    rw [combine_of_resolveBase_error hb] at h
    cases h
    rw [kind_of_resolveBase hb]
    decide
  | ok b =>
    rw [combine_of_resolveBase hb (canonical_of_resolveBase hcwd hb), bind_eq_error_iff] at h
    rcases h with h | ⟨j, -, h⟩
    · rw [kind_of_joinAll h]
      decide
    · split at h
      · cases h
      · cases h
        exact nofun

theorem mapError_amongSegments {α : Type} {x : Except Rejection α}
    (h : ∀ r, x = .error r → r.kind ≠ .invalidArgument) :
    x.mapError Rejection.amongSegments = x := by
  cases x with
  | ok a => rfl
  | error r => exact congrArg Except.error (Rejection.amongSegments_of_kind (h r rfl))

/-- A base and a bare name as a list of segments give what they give as they are, but for the name
of a blank argument. -/
theorem buildFromSegments_pair {s : Style} {cwd : WorkingDirectory} (hcwd : cwd.IsAbsolute)
    (base name : Text) :
    buildFromSegments s cwd [base, name]
      = (buildExact s cwd base name).mapError Rejection.amongSegments := by
  have hblank : [base, name].findSome? (blankFault .segments)
      = (blankFault .basePath base <|> blankFault .fileName name).map
          Rejection.amongSegments := by
    rw [List.findSome?_cons, List.findSome?_singleton]
    unfold blankFault
    cases base.isBlank <;> cases name.isBlank <;> rfl
  have hpair := buildFromSegments_append s cwd base [] name
  rw [List.nil_append, hblank] at hpair
  rw [hpair, buildExact]
  cases hargs : (blankFault .basePath base <|> blankFault .fileName name) with
  | some r => rfl
  | none =>
    have hfaults : (baseFault s base <|> [].findSome? (relativeFault s .segment)
        <|> fileNameFault s name) = (baseFault s base <|> fileNameFault s name) := rfl
    rw [hfaults]
    cases hfault : (baseFault s base <|> fileNameFault s name) with
    | some r =>
      show Except.error r = Except.error r.amongSegments
      rw [Rejection.amongSegments_of_kind (kind_of_checks hfault)]
    | none =>
      obtain ⟨-, hname⟩ := (Option.orElse_eq_none _ _).1 hargs
      obtain ⟨-, hcheck⟩ := (Option.orElse_eq_none _ _).1 hfault
      have hne : name ≠ [] := ne_nil_of_not_blank (blankFault_eq_none_iff.1 hname)
      show combine s cwd base [name] .descendant
        = (combine s cwd base [name] .exactParent).mapError Rejection.amongSegments
      rw [combine_descendant_of_bare hcwd hne (not_leaves_of_fileNameFault hcheck),
        mapError_amongSegments fun r => kind_of_combine hcwd]

/-- An argument of a base and a bare name is at fault only if it is blank, and is called by its own
name. -/
theorem blank_of_buildExact {s : Style} {cwd : WorkingDirectory} (hcwd : cwd.IsAbsolute)
    {base name : Text} {r : Rejection} (h : buildExact s cwd base name = .error r)
    (hkind : r.kind = .invalidArgument) : r = .blank .basePath ∨ r = .blank .fileName := by
  rw [buildExact, bind_eq_error_iff] at h
  rcases h with h | ⟨-, -, h⟩
  · rw [refuse_eq_error_iff, Option.orElse_eq_some] at h
    unfold blankFault at h
    rcases h with h | ⟨-, h⟩
    · rw [Option.ite_none_right_eq_some] at h
      obtain ⟨-, ⟨⟩⟩ := h
      exact Or.inl rfl
    · rw [Option.ite_none_right_eq_some] at h
      obtain ⟨-, ⟨⟩⟩ := h
      exact Or.inr rfl
  · rw [bind_eq_error_iff, refuse_eq_error_iff] at h
    rcases h with h | ⟨-, -, h⟩
    · exact absurd hkind (kind_of_checks h)
    · exact absurd hkind (kind_of_combine hcwd h)

/-- **Bare names.**  A base and a name give the same as a list of two segments, path or refusal, but
for the name of a blank argument.  What is built of a bare name is built of it as a tail; and what
is built of a tail is built of it as a bare name if it has neither a separator nor the sign of a
volume. -/
theorem requests_agree_on_bare_names (s : Style) (cwd : WorkingDirectory) (hcwd : cwd.IsAbsolute)
    (base name : Text) :
    (buildFromSegments s cwd [base, name]
        = (buildExact s cwd base name).mapError Rejection.amongSegments ∧
      ∀ r, buildExact s cwd base name = .error r →
        r.amongSegments.kind = r.kind ∧ r.amongSegments.detail = r.detail ∧
        (r.kind ≠ .invalidArgument → r.amongSegments.message = r.message) ∧
        (r.kind = .invalidArgument → r.amongSegments.argument ≠ r.argument)) ∧
    (∀ p, buildExact s cwd base name = .ok p → buildWithSubdirectories s cwd base name = .ok p) ∧
    (∀ p, buildWithSubdirectories s cwd base name = .ok p →
      (∀ c ∈ name, s.isSeparator c = false ∧ s.volumeSeparator ≠ some c) →
      buildExact s cwd base name = .ok p) := by
  refine ⟨⟨buildFromSegments_pair hcwd base name, fun r h => ?_⟩, fun p h => ?_,
    fun p h hbare => ?_⟩
  · refine ⟨?_, ?_, fun hkind => ?_, fun hkind => ?_⟩
    · cases r <;> rfl
    · cases r <;> rfl
    · rw [Rejection.amongSegments_of_kind hkind]
    · rcases blank_of_buildExact hcwd h hkind with rfl | rfl
      · decide
      · decide
  · rw [buildExact_eq_ok_iff] at h
    obtain ⟨hblank, ⟨hbase, hcheck⟩, hcombine⟩ := h
    obtain ⟨hsound, -, hpercent⟩ := fileNameFault_eq_none_iff.1 hcheck
    have hleaves : ¬ Leaves s name := not_leaves_of_fileNameFault hcheck
    rw [← combine_descendant_of_bare hcwd (ne_nil_of_not_blank hblank.2) hleaves] at hcombine
    exact buildWithSubdirectories_eq_ok_iff.2
      ⟨hblank, ⟨hbase, relativeFault_eq_none_iff.2 ⟨hsound, hpercent⟩⟩, hcombine⟩
  · rw [buildWithSubdirectories_eq_ok_iff] at h
    obtain ⟨hblank, ⟨hbase, hcheck⟩, hcombine⟩ := h
    obtain ⟨hsound, hpercent⟩ := relativeFault_eq_none_iff.1 hcheck
    have hname : fileNameFault s name = none :=
      fileNameFault_eq_none_iff.2 ⟨hsound, changesDirectory_of_bare hbare, hpercent⟩
    have hleaves : ¬ Leaves s name := not_leaves_of_fileNameFault hname
    rw [combine_descendant_of_bare hcwd (ne_nil_of_not_blank hblank.2) hleaves] at hcombine
    exact buildExact_eq_ok_iff.2 ⟨hblank, ⟨hbase, hname⟩, hcombine⟩

/-- Below a relative base, a blank name is refused as a segment and a name with a colon is built as
a tail; on a drive, a tail that ends in a dot is built as a bare name. -/
theorem requests_agree_on_bare_names_punctuated :
    (WorkingDirectory.at "/w".toList).IsAbsolute ∧ WorkingDirectory.missing.IsAbsolute ∧
    (buildFromSegments .posix (.at "/w".toList) ["d".toList, " ".toList]
        = .error (.blank .segments) ∧
      (Rejection.blank .segments).argument ≠ (Rejection.blank .fileName).argument) ∧
    buildWithSubdirectories .posix (.at "/w".toList) "d".toList "a:b".toList
      = .ok ⟨"/w/d/a:b".toList, .posix⟩ ∧
    buildExact .windows .missing "c:d".toList "a.".toList
      = .ok ⟨"C:\\d\\a.".toList, .windows⟩ := by
  have hcwd : (WorkingDirectory.at "/w".toList).IsAbsolute := rfl
  refine ⟨hcwd, trivial, ?_, ?_, ?_⟩
  · obtain ⟨⟨hsegments, hrefused⟩, -⟩ :=
      requests_agree_on_bare_names .posix _ hcwd "d".toList " ".toList
    rw [hsegments]
    exact ⟨rfl, (hrefused (.blank .fileName) rfl).2.2.2 rfl⟩
  · exact (requests_agree_on_bare_names .posix _ hcwd _ _).2.1 _ rfl
  · refine (requests_agree_on_bare_names .windows .missing trivial _ _).2.2 _ rfl ?_
    simp [Style.isSeparator, Style.volumeSeparator]

/-! ## Tails in segments -/

/-- Unrooted segments add their components to a path, one after the other. -/
theorem joinAll_of_isUnrooted {s : Style} {p : Lexical} {segments : List Text}
    (h : ∀ v ∈ segments, IsUnrooted s v) :
    joinAll s p segments
      = .ok ⟨p.root, p.components ++ segments.flatMap (Lexical.split s)⟩ := by
  induction segments generalizing p with
  | nil => rw [joinAll, List.flatMap_nil, List.append_nil]
  | cons v segments ih =>
    have hparse := Lexical.parse_of_isUnrooted (h v List.mem_cons_self)
    have hrest := ih (p := p.join ⟨.relative, Lexical.split s v⟩) fun w hw =>
      h w (List.mem_cons_of_mem _ hw)
    rw [joinAll, hparse]
    show joinAll s (p.join ⟨.relative, Lexical.split s v⟩) segments = _
    rw [hrest, List.flatMap_cons, ← List.append_assoc]
    rfl

/-- A tail leads where its segments lead. -/
theorem joinAll_intercalate {s : Style} {p : Lexical} {segments : List Text}
    (h : ∀ v ∈ segments, v ≠ [] ∧ IsUnrooted s v) :
    joinAll s p [[s.separator].intercalate segments] = joinAll s p segments := by
  have hjoined : ∀ v ∈ [[s.separator].intercalate segments], IsUnrooted s v := by
    intro v hv
    rw [List.mem_singleton.1 hv]
    exact isUnrooted_intercalate h
  rw [joinAll_of_isUnrooted hjoined, joinAll_of_isUnrooted fun v hv => (h v hv).2,
    List.flatMap_singleton, Lexical.split_intercalate_eq_flatMap]

/-- What is built hangs on where the segments lead, not on how many there are. -/
theorem combine_congr {s : Style} {tail tail' : List Text}
    (h : ∀ b, joinAll s b tail = joinAll s b tail') (cwd : WorkingDirectory) (base : Text)
    (k : Containment) : combine s cwd base tail k = combine s cwd base tail' k := by
  unfold combine
  simp only [h]

/-- Directories and a bare name pass their checks exactly if all of them are sound, as long as none
has more than one `%`. -/
theorem checks_iff_isSound {s : Style} {dirs : List Text} {name : Text}
    (hbare : ∀ c ∈ name, changesDirectory s c = false)
    (hcount : ∀ v ∈ dirs ++ [name], v.count '%' ≤ 1) :
    ((∀ dir ∈ dirs, relativeFault s .segment dir = none) ∧ fileNameFault s name = none) ↔
      ∀ v ∈ dirs ++ [name], IsSound s v := by
  have hname : fileNameFault s name = none ↔ IsSound s name := by
    rw [fileNameFault_eq_none_iff]
    exact and_iff_left ⟨hbare, hcount name (by simp)⟩
  have hdirs : (∀ dir ∈ dirs, relativeFault s .segment dir = none) ↔
      ∀ dir ∈ dirs, IsSound s dir := by
    refine forall₂_congr fun dir hdir => ?_
    rw [relativeFault_eq_none_iff]
    exact and_iff_left (hcount dir (by simp [hdir]))
  rw [hdirs, hname, List.forall_mem_append, List.forall_mem_singleton]

/-- Texts with separators between them are not blank if the first is not. -/
theorem isBlank_intercalate {x : Char} {texts : List Text} (hne : texts ≠ [])
    (h : ∀ v ∈ texts, v.isBlank = false) : Text.isBlank ([x].intercalate texts) = false := by
  obtain ⟨v, rest, rfl⟩ := List.exists_cons_of_ne_nil hne
  have hv := h v List.mem_cons_self
  unfold Text.isBlank at hv ⊢
  rw [Lexical.intercalate_eq_append_flatMap, List.all_append, hv, Bool.false_and]

/-- **Tails in segments.**  Unrooted segments, the last of which is a bare name, give the path that
they give as a tail with separators between them. -/
theorem segments_built_iff_tail_built {s : Style} {cwd : WorkingDirectory} {base : Text}
    {segments : List Text} (hne : segments ≠ [])
    (hsegments : ∀ v ∈ segments, v.isBlank = false ∧ IsUnrooted s v)
    (hlast : ∀ name ∈ segments.getLast?, ∀ c ∈ name,
      s.isSeparator c = false ∧ s.volumeSeparator ≠ some c)
    (hpercent : segments.flatten.count '%' ≤ 1) (p : ValidatedPath) :
    buildFromSegments s cwd (base :: segments) = .ok p ↔
      buildWithSubdirectories s cwd base ([s.separator].intercalate segments) = .ok p := by
  have hblank : ∀ v ∈ segments, v.isBlank = false := fun v hv => (hsegments v hv).1
  have hunrooted : ∀ v ∈ segments, v ≠ [] ∧ IsUnrooted s v := fun v hv =>
    ⟨ne_nil_of_not_blank (hblank v hv), (hsegments v hv).2⟩
  have hcount : ∀ v ∈ segments, v.count '%' ≤ 1 := fun v hv =>
    le_trans ((List.sublist_flatten_of_mem hv).count_le '%') hpercent
  have hjoined : ([s.separator].intercalate segments).count '%' ≤ 1 := by
    rw [count_intercalate (by cases s <;> decide)]
    exact hpercent
  have hcombine := combine_congr (fun b => joinAll_intercalate (p := b) hunrooted) cwd base
    .descendant
  obtain ⟨dirs, name, rfl⟩ := (List.eq_nil_or_concat' segments).resolve_left hne
  have hbare : ∀ c ∈ name, changesDirectory s c = false :=
    changesDirectory_of_bare (hlast name (by simp))
  -- both sides ask that no text is blank, that all are sound, and where they lead together
  rw [buildFromSegments_eq_ok_iff, buildWithSubdirectories_eq_ok_iff, hcombine,
    checks_iff_isSound hbare hcount, relativeFault_eq_none_iff, isSound_intercalate_iff hunrooted,
    and_iff_left hjoined, List.forall_mem_cons, and_iff_left hblank,
    and_iff_left (isBlank_intercalate hne hblank)]

/-- On a drive, segments that end in separators or in `.` give the path of the tail that has them
all, with its doubled separators. -/
theorem segments_built_iff_tail_built_seams :
    buildFromSegments .windows .missing
        ["c:d".toList, "a/".toList, "b\\.".toList, "x%".toList]
      = .ok ⟨"C:\\d\\a\\b\\x%".toList, .windows⟩ ∧
    buildWithSubdirectories .windows .missing "c:d".toList "a/\\b\\.\\x%".toList
      = .ok ⟨"C:\\d\\a\\b\\x%".toList, .windows⟩ := by
  have hbuilt : buildFromSegments .windows .missing
      ["c:d".toList, "a/".toList, "b\\.".toList, "x%".toList]
        = .ok ⟨"C:\\d\\a\\b\\x%".toList, .windows⟩ := rfl
  have hsegments : ∀ v ∈ ["a/".toList, "b\\.".toList, "x%".toList],
      Text.isBlank v = false ∧ IsUnrooted .windows v := by
    have hunrooted : ∀ (a b : Char) (rest : Text), Style.windows.isSeparator a = false →
        b ≠ ':' → IsUnrooted .windows (a :: b :: rest) := by
      intro a b rest ha hb
      refine ⟨fun c hc => ?_, ?_⟩
      · cases hc
        exact ha
      · rintro - ⟨letter, rest', h, -⟩
        cases h
        exact hb rfl
    intro v hv
    rcases List.mem_cons.1 hv with rfl | hv
    · exact ⟨rfl, hunrooted 'a' '/' [] rfl (by decide)⟩
    rcases List.mem_cons.1 hv with rfl | hv
    · exact ⟨rfl, hunrooted 'b' '\\' ['.'] rfl (by decide)⟩
    · cases List.mem_singleton.1 hv
      exact ⟨rfl, hunrooted 'x' '%' [] rfl (by decide)⟩
  refine ⟨hbuilt, (segments_built_iff_tail_built (by decide) hsegments ?_ (by decide) _).1 hbuilt⟩
  simp [Style.isSeparator, Style.volumeSeparator]

/-! ## The last segment -/

/-- Segments are joined front to back. -/
theorem joinAll_append (s : Style) (p : Lexical) (front back : List Text) :
    joinAll s p (front ++ back) = joinAll s p front >>= fun q => joinAll s q back := by
  induction front generalizing p with
  | nil => rfl
  | cons segment front ih =>
    rw [List.cons_append, joinAll, joinAll]
    cases Lexical.parse s segment with
    | error r => rfl
    | ok tail => exact ih (p.join tail)

/-- A bare name behind other segments is added to where they lead, and `.` adds nothing. -/
theorem joinAll_concat_eq_ok_iff {s : Style} {p q : Lexical} {dirs : List Text} {name : Text}
    (hne : name ≠ []) (hleaves : ¬ Leaves s name) :
    joinAll s p (dirs ++ [name]) = .ok q ↔ ∃ i, joinAll s p dirs = .ok i ∧
      q = ⟨i.root, i.components ++ if name = ['.'] then [] else [name]⟩ := by
  rw [joinAll_append, bind_eq_ok_iff]
  refine exists_congr fun i => and_congr_right fun _ => ?_
  rw [joinAll_singleton, Lexical.parse_of_bare hne hleaves]
  constructor
  · intro h
    cases h
    rfl
  · rintro rfl
    rfl

/-- A path to which a name other than `..` is added ends in this name when it is normalized. -/
theorem Lexical.components_normalize_append {root : Root} {cs : List Text} {name : Text}
    (h : name ≠ ['.', '.']) :
    (Lexical.normalize ⟨root, cs ++ [name]⟩).components
      = (Lexical.normalize ⟨root, cs⟩).components ++ [name] := by
  show (cs ++ [name]).foldl step [] = cs.foldl step [] ++ [name]
  rw [List.foldl_append, List.foldl_cons, List.foldl_nil, step, if_neg h]

/-- A path that is built ends in a name, which is not `.`. -/
theorem fileName_ne_dot {s : Style} {q : Lexical} (hq : q.Canonical s) (hdepth : 0 < q.depth) :
    ValidatedPath.fileName ⟨q.render s, s⟩ ≠ ['.'] := by
  obtain ⟨front, name, h⟩ :=
    (List.eq_nil_or_concat' q.components).resolve_left (List.length_pos_iff.1 hdepth)
  have hname : IsComponent s name := hq.components name (by simp [h])
  rw [hq.fileName_render h]
  exact hname.2.1

/-- **The last segment.**  The final component of what a list of segments gives is the last segment,
unless that is `.`.  Then the path is the one that the other segments lead to. -/
theorem fileName_eq_last_iff {s : Style} {cwd : WorkingDirectory} (hcwd : cwd.IsAbsolute)
    {segments : List Text} {p : ValidatedPath} (h : buildFromSegments s cwd segments = .ok p) :
    ∃ base dirs last, segments = base :: (dirs ++ [last]) ∧
      (p.fileName = last ↔ last ≠ ['.']) ∧
      (last = ['.'] → combine s cwd base dirs .descendant = .ok p) := by
  obtain ⟨base, dirs, last, rfl⟩ := exists_segments_of_buildFromSegments h
  obtain ⟨hblank, ⟨-, -, hcheck⟩, hcombine⟩ := buildFromSegments_eq_ok_iff.1 h
  have hne : last ≠ [] := ne_nil_of_not_blank (hblank last (by simp))
  have hleaves : ¬ Leaves s last := not_leaves_of_fileNameFault hcheck
  obtain ⟨b, j, hb, hj, hin, hadm, rfl⟩ := (combine_eq_ok_iff hcwd).1 hcombine
  have hcanon : b.Canonical s := canonical_of_resolveBase hcwd hb
  have hq : j.normalize.Canonical s := hcanon.normalize_joinAll hj
  obtain ⟨i, hi, hij⟩ := (joinAll_concat_eq_ok_iff hne hleaves).1 hj
  refine ⟨base, dirs, last, rfl, ?_⟩
  by_cases hdot : last = ['.']
  · -- nothing is added, so the file name is the last component of what was there
    rw [if_pos hdot, List.append_nil] at hij
    have hdepth : 0 < j.normalize.depth := by
      have hlt := Containment.lt_of_admits hadm
      omega
    refine ⟨iff_of_false (hdot ▸ fileName_ne_dot hq hdepth) (not_not.2 hdot), fun _ => ?_⟩
    exact (combine_eq_ok_iff hcwd).2 ⟨b, j, hb, hij ▸ hi, hin, hadm, rfl⟩
  · rw [if_neg hdot] at hij
    have hclimb : last ≠ ['.', '.'] := ne_climb_of_not_leaves hleaves
    have hlast : j.normalize.components = i.normalize.components ++ [last] := by
      rw [hij]
      exact Lexical.components_normalize_append hclimb
    exact ⟨iff_of_true (hq.fileName_render hlast) hdot, fun h => absurd h hdot⟩

/-- A last segment that ends in a dot is kept, and `.` is dropped. -/
theorem fileName_eq_last_iff_dots :
    WorkingDirectory.missing.IsAbsolute ∧
    (∃ base dirs last,
      ["c:d".toList, "/D/a".toList, "x.".toList] = base :: (dirs ++ [last]) ∧
      (ValidatedPath.fileName ⟨"C:\\D\\a\\x.".toList, .windows⟩ = last ↔ last ≠ ['.']) ∧
      (last = ['.'] → combine .windows .missing base dirs .descendant
        = .ok ⟨"C:\\D\\a\\x.".toList, .windows⟩)) ∧
    ∃ base dirs last,
      ["c:d".toList, "a".toList, ".".toList] = base :: (dirs ++ [last]) ∧
      (ValidatedPath.fileName ⟨"C:\\d\\a".toList, .windows⟩ = last ↔ last ≠ ['.']) ∧
      (last = ['.'] → combine .windows .missing base dirs .descendant
        = .ok ⟨"C:\\d\\a".toList, .windows⟩) := by
  have hcwd : WorkingDirectory.missing.IsAbsolute := trivial
  refine ⟨hcwd, ?_, ?_⟩
  · exact fileName_eq_last_iff hcwd (by rfl)
  · exact fileName_eq_last_iff hcwd (by rfl)

/-- Asked for the file `.` in the directory `a`, a list of segments gives the directory. -/
theorem last_segment_dropped :
    ["/b".toList, "a".toList, ".".toList].getLast? = some ".".toList ∧
    ∃ p, buildFromSegments .posix .missing ["/b".toList, "a".toList, ".".toList] = .ok p ∧
      p.text = "/b/a".toList ∧ p.fileName = "a".toList ∧ p.fileName ≠ ".".toList :=
  ⟨rfl, ⟨"/b/a".toList, .posix⟩, rfl, rfl, rfl, by decide⟩

end Rampart.Path
