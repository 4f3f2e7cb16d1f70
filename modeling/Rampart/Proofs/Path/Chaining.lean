import Mathlib
import Rampart.Proofs.Path.Combining

/-!
# Chains of builds

A path that was built may be the base of the next one.  Each build may spell the names of its base
in another case, but it stays within the base and goes deeper, and the text that it hands out is
resolved as exactly the path that was compared.  So a whole chain stays within its first base.

* `Request` : what can be asked for, of any of the three kinds;
* `Request.build_eq` : every request is checked and then combined;
* `Request.reaches` : one build;
* `buildChain_reaches` : a chain of builds;
* `chain_confined` : what this means for the texts that are handed out.
-/

namespace Rampart.Path

/-! ## Requests -/

/-- A request for a path below a base that is given apart. -/
inductive Request
  | bare (name : Text)
  | below (tail : Text)
  | segments (names : List Text)

/-- What a request gives below a base. -/
def Request.build (s : Style) (cwd : WorkingDirectory) (base : Text) :
    Request → Except Rejection ValidatedPath
  | .bare name => buildExact s cwd base name
  | .below tail => buildWithSubdirectories s cwd base tail
  | .segments names => buildFromSegments s cwd (base :: names)

/-- One request after the other, each with the working directory of its time.  The text of each
result is the base of the next request. -/
def buildChain (s : Style) : (base : Text) → (first : WorkingDirectory × Request) →
    (more : List (WorkingDirectory × Request)) → Except Rejection ValidatedPath
  | base, first, [] => first.2.build s first.1 base
  | base, first, next :: more => do
    let p ← first.2.build s first.1 base
    buildChain s p.text next more

/-! ## Checking, then combining -/

/-- The first rule that a request breaks. -/
def Request.fault (s : Style) (base : Text) : Request → Option Rejection
  | .bare name =>
    blankFault .basePath base <|> blankFault .fileName name <|> baseFault s base
      <|> fileNameFault s name
  | .below tail =>
    blankFault .basePath base <|> blankFault .relativePath tail <|> baseFault s base
      <|> relativeFault s .relativePath tail
  | .segments names =>
    if h : names = [] then some (.tooFewSegments 1)
    else (base :: names).findSome? (blankFault .segments) <|> baseFault s base
      <|> names.dropLast.findSome? (relativeFault s .segment) <|> fileNameFault s (names.getLast h)

/-- What a request joins to its base. -/
def Request.tail : Request → List Text
  | .bare name => [name]
  | .below tail => [tail]
  | .segments names => names

/-- How far below its base a request may lead. -/
def Request.containment : Request → Containment
  | .bare _ => .exactParent
  | .below _ | .segments _ => .descendant

/-- Two checks in a row are one check. -/
theorem refuse_orElse_bind {α : Type} (fault next : Option Rejection)
    (f : Unit → Except Rejection α) :
    refuse (fault <|> next) >>= f = refuse fault >>= fun _ => refuse next >>= f := by
  cases fault <;> rfl

/-- Every request is first held to rules that look at its texts alone, and then combined. -/
theorem Request.build_eq (s : Style) (cwd : WorkingDirectory) (base : Text) (r : Request) :
    r.build s cwd base =
      refuse (r.fault s base) >>= fun _ => combine s cwd base r.tail r.containment := by
  cases r with
  | bare name =>
    show buildExact s cwd base name = _
    simp only [buildExact, Request.fault, refuse_orElse_bind]
    rfl
  | below tail =>
    show buildWithSubdirectories s cwd base tail = _
    simp only [buildWithSubdirectories, Request.fault, refuse_orElse_bind]
    rfl
  | segments names =>
    cases names with
    | nil => rfl
    | cons first more =>
      rw [Request.fault, dif_neg (List.cons_ne_nil first more), refuse_orElse_bind]
      rfl

/-- Whatever is built, it was combined with the base. -/
theorem Request.combine_of_build {s : Style} {cwd : WorkingDirectory} {base : Text} {r : Request}
    {p : ValidatedPath} (h : r.build s cwd base = .ok p) :
    combine s cwd base r.tail r.containment = .ok p := by
  rw [Request.build_eq, bind_eq_ok_iff] at h
  obtain ⟨-, -, hcombine⟩ := h
  exact hcombine

/-- The base of a path that was built is resolved. -/
theorem Request.exists_resolveBase {s : Style} {cwd : WorkingDirectory} {base : Text}
    {r : Request} {p : ValidatedPath} (h : r.build s cwd base = .ok p) :
    ∃ b, resolveBase s cwd base = .ok b := by
  have hcombine := Request.combine_of_build h
  rw [combine, bind_eq_ok_iff] at hcombine
  obtain ⟨b, hb, -⟩ := hcombine
  exact ⟨b, hb⟩

/-! ## Going deeper -/

/-- The path `p` is the text of the canonical path `q`, which lies within `b` and at least `n`
levels below it. -/
structure Reaches (s : Style) (b : Lexical) (n : Nat) (q : Lexical) (p : ValidatedPath) :
    Prop where
  canonical : q.Canonical s
  text : p.text = q.render s
  within : q.isWithin s b = true
  deeper : b.depth + n ≤ q.depth

/-- What is reached from a path that was reached. -/
theorem Reaches.trans {s : Style} {b q q' : Lexical} {n n' : Nat} {p p' : ValidatedPath}
    (h : Reaches s b n q p) (h' : Reaches s q n' q' p') : Reaches s b (n + n') q' p' := by
  have hdeeper : b.depth + (n + n') ≤ q'.depth := by
    have hfirst := h.deeper
    have hnext := h'.deeper
    omega
  exact ⟨h'.canonical, h'.text, Lexical.isWithin_trans h'.within h.within, hdeeper⟩

/-- One build reaches a path below the base. -/
theorem Request.reaches {s : Style} {cwd : WorkingDirectory} {base : Text} {b : Lexical}
    {r : Request} {p : ValidatedPath} (hb : resolveBase s cwd base = .ok b)
    (hcanon : b.Canonical s) (h : r.build s cwd base = .ok p) : ∃ q, Reaches s b 1 q p := by
  have hcombine := Request.combine_of_build h
  rw [combine_of_resolveBase hb hcanon, bind_eq_ok_iff] at hcombine
  obtain ⟨j, hj, hcombine⟩ := hcombine
  split at hcombine
  · rename_i hin
    rw [Bool.and_eq_true] at hin
    cases hcombine
    -- what was joined to a canonical base is canonical, so its text is read back as it is
    exact ⟨j.normalize, hcanon.normalize_joinAll hj, rfl, hin.1, Containment.lt_of_admits hin.2⟩
  · cases hcombine

/-- A chain of builds reaches a path that lies below the first base by at least the number of
builds. -/
theorem buildChain_reaches {s : Style} {base : Text} {b : Lexical}
    {first : WorkingDirectory × Request} {more : List (WorkingDirectory × Request)}
    {p : ValidatedPath} (hb : resolveBase s first.1 base = .ok b) (hcanon : b.Canonical s)
    (h : buildChain s base first more = .ok p) : ∃ q, Reaches s b (more.length + 1) q p := by
  induction more generalizing base b first with
  | nil =>
    rw [buildChain] at h
    exact Request.reaches hb hcanon h
  | cons next more ih =>
    rw [buildChain, bind_eq_ok_iff] at h
    obtain ⟨p₁, hfirst, hrest⟩ := h
    obtain ⟨q₁, hq₁⟩ := Request.reaches hb hcanon hfirst
    -- the text of the first result is resolved as the path that was reached
    have hb₁ : resolveBase s next.1 p₁.text = .ok q₁ := by
      rw [hq₁.text]
      exact resolveBase_render hq₁.canonical next.1
    obtain ⟨q, hq⟩ := ih hb₁ hq₁.canonical hrest
    have hlength : 1 + (more.length + 1) = (next :: more).length + 1 := by
      rw [List.length_cons]
      omega
    exact ⟨q, hlength ▸ hq₁.trans hq⟩

/-! ## Confinement of chains -/

/-- **Confinement survives chaining.**  The last path of a chain is read as a path within the first
base, deeper than it by at least the number of builds; as the next base it would be resolved as that
same path and written as the same text.  To lie within is reflexive and transitive, whichever way
names are compared. -/
theorem chain_confined (s : Style) :
    (∀ base first more p, first.1.IsAbsolute → buildChain s base first more = .ok p →
      ∃ b q, resolveBase s first.1 base = .ok b ∧ Lexical.parse s p.text = .ok q ∧
        q.isWithin s b = true ∧ b.depth + (more.length + 1) ≤ q.depth ∧
        (∀ cwd, resolveBase s cwd p.text = .ok q) ∧ q.render s = p.text) ∧
    (∀ p : Lexical, p.isWithin s p = true) ∧
    ∀ p q r : Lexical, p.isWithin s q = true → q.isWithin s r = true → p.isWithin s r = true := by
  refine ⟨?_, Lexical.isWithin_refl s, fun p q r => Lexical.isWithin_trans⟩
  intro base first more p hcwd h
  have hfirst : ∃ p₁, first.2.build s first.1 base = .ok p₁ := by
    cases more with
    | nil =>
      rw [buildChain] at h
      exact ⟨p, h⟩
    | cons next more =>
      rw [buildChain, bind_eq_ok_iff] at h
      obtain ⟨p₁, hp₁, -⟩ := h
      exact ⟨p₁, hp₁⟩
  obtain ⟨p₁, hp₁⟩ := hfirst
  obtain ⟨b, hb⟩ := Request.exists_resolveBase hp₁
  obtain ⟨q, hq⟩ := buildChain_reaches hb (canonical_of_resolveBase hcwd hb) h
  refine ⟨b, q, hb, ?_, hq.within, hq.deeper, fun cwd => ?_, hq.text.symm⟩
  · rw [hq.text]
    exact Lexical.parse_render hq.canonical.toWellFormed hq.canonical.qualified
  · rw [hq.text]
    exact resolveBase_render hq.canonical cwd

/-- On a drive, a rooted tail spells the name of the base in another case, and the next builds start
from that spelling; the chain still lies within the base. -/
theorem chain_confined_other_case :
    WorkingDirectory.missing.IsAbsolute ∧
      ∃ b q, resolveBase .windows .missing "c:a".toList = .ok b ∧
        Lexical.parse .windows "C:\\A\\b\\c\\d".toList = .ok q ∧ q.isWithin .windows b = true ∧
        b.depth + 3 ≤ q.depth ∧
        (∀ cwd, resolveBase .windows cwd "C:\\A\\b\\c\\d".toList = .ok q) ∧
        q.render .windows = "C:\\A\\b\\c\\d".toList := by
  refine ⟨trivial, (chain_confined .windows).1 "c:a".toList (.missing, .below "/A/b".toList)
    [(.illegible, .segments ["c".toList]), (.missing, .bare "d".toList)]
    ⟨"C:\\A\\b\\c\\d".toList, .windows⟩ trivial ?_⟩
  rfl

end Rampart.Path
