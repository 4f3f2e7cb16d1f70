import Mathlib
import Rampart.Proofs.Path.Spelling

/-!
# The working directory

Combining anchors two paths, the base and what comes of the joins, and each of them could be
anchored at another directory.  It is not so: what is joined to an anchored base is anchored with
it, so a call asks for the working directory at most once, and only for a base without root.

* `Asking` : runs that ask for the working directory each time they need it;
* `combineBy` : combining, with the way to anchor a path left open;
* `Request.answer_asking`, `Request.reads_asking_le` : the answer of a call and how often it asks;
* `working_directory_dependence` : what the outcome owes to the working directory.
-/

namespace Rampart.Path

/-! ## Asking for the working directory -/

/-- A run that asks for the working directory each time it needs it. -/
inductive Asking (α : Type)
  | done (outcome : Except Rejection α)
  | ask (next : WorkingDirectory → Asking α)

namespace Asking

variable {α β : Type}

/-- One run after the other.  The second starts if the first ends well. -/
def bind : Asking α → (α → Asking β) → Asking β
  | .done (.ok a), f => f a
  | .done (.error r), _ => .done (.error r)
  | .ask next, f => .ask fun cwd => (next cwd).bind f

instance : Monad Asking where
  pure a := .done (.ok a)
  bind := bind

/-- What needs no working directory asks for none. -/
instance : MonadLift (Except Rejection) Asking := ⟨.done⟩

/-- The outcome of a run in a working directory that stays. -/
def answer (cwd : WorkingDirectory) : Asking α → Except Rejection α
  | .done outcome => outcome
  | .ask next => (next cwd).answer cwd

/-- How often a run asks. -/
def reads (cwd : WorkingDirectory) : Asking α → Nat
  | .done _ => 0
  | .ask next => (next cwd).reads cwd + 1

/-- The second run goes on with what the first one ends with. -/
theorem answer_bind (cwd : WorkingDirectory) (x : Asking α) (f : α → Asking β) :
    (x >>= f).answer cwd = x.answer cwd >>= fun a => (f a).answer cwd := by
  induction x with
  | done outcome => cases outcome <;> rfl
  | ask next ih => exact ih cwd

/-- One run after the other asks no more often than the two together. -/
theorem reads_bind_le {cwd : WorkingDirectory} {x : Asking α} {f : α → Asking β} {n m : Nat}
    (hx : x.reads cwd ≤ n) (hf : ∀ a, x.answer cwd = .ok a → (f a).reads cwd ≤ m) :
    (x >>= f).reads cwd ≤ n + m := by
  induction x generalizing n with
  | done outcome =>
    cases outcome with
    | error r => exact Nat.zero_le _
    | ok a =>
      have hsecond : (f a).reads cwd ≤ m := hf a rfl
      show (f a).reads cwd ≤ n + m
      omega
  | ask next ih =>
    have hfirst : (next cwd).reads cwd + 1 ≤ n := hx
    have hnext : (next cwd >>= f).reads cwd ≤ (next cwd).reads cwd + m := ih cwd le_rfl hf
    show (next cwd >>= f).reads cwd + 1 ≤ n + m
    omega

/-- What goes before without asking does not count. -/
theorem reads_lift_bind_le {cwd : WorkingDirectory} {x : Except Rejection α} {f : α → Asking β}
    {n : Nat} (hf : ∀ a, x = .ok a → (f a).reads cwd ≤ n) :
    ((Asking.done x) >>= f).reads cwd ≤ n := by
  have h := reads_bind_le (x := Asking.done x) (f := f) (n := 0) le_rfl hf
  omega

/-- A run that does not ask in one working directory has the same outcome in all. -/
theorem answer_eq_of_reads_eq_zero {cwd : WorkingDirectory} {x : Asking α}
    (h : x.reads cwd = 0) (cwd' cwd'' : WorkingDirectory) : x.answer cwd' = x.answer cwd'' := by
  cases x with
  | done outcome => rfl
  | ask next => cases h

end Asking

/-- Anchors a path that is not qualified at the working directory, which is asked for only where
paths are of the style of the machine. -/
def Lexical.anchor (s : Style) (p : Lexical) : Asking Lexical :=
  if p.isQualified s then .done (.ok p)
  else if s = .native then
    .ask fun cwd => .done ((Lexical.ofWorkingDirectory s cwd).map fun w => w.join p)
  else .done (.error (.unqualified s))

namespace Lexical

/-- Asked and answered, a path is anchored where it would be. -/
theorem answer_anchor (s : Style) (cwd : WorkingDirectory) (p : Lexical) :
    (p.anchor s).answer cwd = p.absolutize s cwd := by
  unfold anchor absolutize
  split
  · rfl
  · split
    · rfl
    · rename_i hs
      unfold ofWorkingDirectory
      rw [if_neg hs]
      rfl

/-- Nothing is asked for a qualified path. -/
theorem anchor_of_isQualified {s : Style} {p : Lexical} (h : p.isQualified s = true) :
    p.anchor s = .done (.ok p) := by
  rw [anchor, if_pos h]

/-- To anchor one path, the working directory is asked for at most once. -/
theorem reads_anchor_le_one (s : Style) (cwd : WorkingDirectory) (p : Lexical) :
    (p.anchor s).reads cwd ≤ 1 := by
  unfold anchor
  split
  · exact Nat.zero_le 1
  · split
    · exact le_rfl
    · exact Nat.zero_le 1

/-- A path of a style that is not the machine's is anchored without asking. -/
theorem reads_anchor_windows (cwd : WorkingDirectory) (p : Lexical) :
    (p.anchor .windows).reads cwd = 0 := by
  unfold anchor
  split <;> rfl

end Lexical

/-! ## Calls that ask -/

/-- The path of `tail` below `base`, with `anchor` to anchor the base and what comes of the
joins. -/
def combineBy {m : Type → Type} [Monad m] [MonadLiftT (Except Rejection) m]
    (anchor : Lexical → m Lexical) (s : Style) (base : Text) (tail : List Text)
    (containment : Containment) : m ValidatedPath := do
  let b ← Lexical.parse s base
  let b ← anchor b
  let p ← joinAll s b.normalize tail
  let p ← anchor p
  liftM (m := Except Rejection) <|
    if p.normalize.isWithin s b.normalize
        && containment.admits b.normalize.depth p.normalize.depth then
      return ⟨p.normalize.render s, s⟩
    else throw (.outside (p.normalize.render s) (b.normalize.render s))

/-- A call that asks for the working directory each time it anchors a path. -/
def Request.asking (s : Style) (base : Text) (r : Request) : Asking ValidatedPath := do
  refuse (r.fault s base)
  combineBy (Lexical.anchor s) s base r.tail r.containment

/-- Combining is to anchor in the working directory that is given. -/
theorem combine_eq_combineBy (s : Style) (cwd : WorkingDirectory) (base : Text)
    (tail : List Text) (k : Containment) :
    combine s cwd base tail k = combineBy (Lexical.absolutize s cwd) s base tail k := by
  rw [combine, resolveBase, bind_assoc]
  apply bind_congr
  intro p
  rw [bind_assoc]
  apply bind_congr
  intro b
  rw [pure_bind]
  rfl

/-- Asked and answered, a call has the outcome that it has in that working directory. -/
theorem Request.answer_asking (s : Style) (cwd : WorkingDirectory) (base : Text) (r : Request) :
    (r.asking s base).answer cwd = r.build s cwd base := by
  rw [Request.build_eq, combine_eq_combineBy, Request.asking, Asking.answer_bind]
  apply bind_congr
  intro _
  rw [combineBy, Asking.answer_bind]
  apply bind_congr
  intro p
  rw [Asking.answer_bind, Lexical.answer_anchor]
  apply bind_congr
  intro b
  rw [Asking.answer_bind]
  apply bind_congr
  intro j
  rw [Asking.answer_bind, Lexical.answer_anchor]
  rfl

/-- A call asks no more often than it does for the base, if it does not ask for what comes of the
joins. -/
theorem Request.reads_asking_le {s : Style} {cwd : WorkingDirectory} {base : Text} (r : Request)
    {n : Nat} (hbase : ∀ p, Lexical.parse s base = .ok p → (p.anchor s).reads cwd ≤ n)
    (hjoined : ∀ b j, resolveBase s cwd base = .ok b → joinAll s b r.tail = .ok j →
      (j.anchor s).reads cwd = 0) :
    (r.asking s base).reads cwd ≤ n := by
  -- neither the checks nor what reads a text ask for anything
  apply Asking.reads_lift_bind_le
  intro _ _
  apply Asking.reads_lift_bind_le
  intro p hp
  refine Asking.reads_bind_le (m := 0) (hbase p hp) ?_
  intro b hb
  apply Asking.reads_lift_bind_le
  intro j hj
  have hresolve : resolveBase s cwd base = .ok b.normalize := by
    rw [resolveBase_of_parse hp, ← Lexical.answer_anchor, hb]
    rfl
  exact Asking.reads_bind_le (m := 0) (hjoined _ j hresolve hj).le fun _ _ => le_rfl

/-- Where the working directory is absolute, what is joined to a resolved base is qualified. -/
theorem isQualified_of_joinAll_resolveBase {s : Style} {cwd : WorkingDirectory}
    (hcwd : cwd.IsAbsolute) {base : Text} {b j : Lexical} {tail : List Text}
    (hb : resolveBase s cwd base = .ok b) (hj : joinAll s b tail = .ok j) :
    j.isQualified s = true :=
  Lexical.isQualified_joinAll (canonical_of_resolveBase hcwd hb).qualified hj

/-- A call asks at most once in an absolute working directory. -/
theorem Request.reads_asking_le_one (s : Style) {cwd : WorkingDirectory} (hcwd : cwd.IsAbsolute)
    (base : Text) (r : Request) : (r.asking s base).reads cwd ≤ 1 := by
  refine r.reads_asking_le (fun p _ => Lexical.reads_anchor_le_one s cwd p) fun b j hb hj => ?_
  rw [Lexical.anchor_of_isQualified (isQualified_of_joinAll_resolveBase hcwd hb hj)]
  rfl

/-- A base that starts at the root is qualified. -/
theorem parse_posix_of_rooted {base : Text} (h : base.head? = some '/') :
    Lexical.parse .posix base = .ok ⟨.separator, Lexical.split .posix base⟩ := by
  rw [Lexical.parse, h]
  rfl

/-- A call does not ask in the style of another machine, nor for a base that starts at the root. -/
theorem Request.reads_asking_eq_zero {s : Style} {base : Text}
    (h : s = .windows ∨ base.head? = some '/') (cwd : WorkingDirectory) (r : Request) :
    (r.asking s base).reads cwd = 0 := by
  rw [← Nat.le_zero]
  cases s with
  | windows =>
    exact r.reads_asking_le (fun p _ => (Lexical.reads_anchor_windows cwd p).le)
      fun _ j _ _ => Lexical.reads_anchor_windows cwd j
  | posix =>
    have hhead : base.head? = some '/' := h.resolve_left nofun
    have hparse := parse_posix_of_rooted hhead
    refine r.reads_asking_le (fun p hp => ?_) fun b j hb hj => ?_
    · rw [hparse] at hp
      cases hp
      exact le_rfl
    · rw [resolveBase_of_isQualified hparse rfl] at hb
      cases hb
      rw [Lexical.anchor_of_isQualified (Lexical.isQualified_joinAll rfl hj)]
      rfl

/-! ## Bases without root -/

/-- Nothing but whether it is blank and what its check finds is looked at in a base before it is
resolved. -/
theorem Request.fault_congr {s : Style} {base base' : Text} (hblank : base.isBlank = base'.isBlank)
    (hfault : baseFault s base = baseFault s base') (r : Request) :
    r.fault s base = r.fault s base' := by
  have hblanks : ∀ a, blankFault a base = blankFault a base' := by
    intro a
    rw [blankFault, blankFault, hblank]
  cases r with
  | bare name => simp only [Request.fault, hblanks, hfault]
  | below tail => simp only [Request.fault, hblanks, hfault]
  | segments names => simp only [Request.fault, List.findSome?_cons, hblanks, hfault]

/-- In the posix style the end of a text that passes the check of bases passes it too. -/
theorem baseFault_posix_of_suffix {v w : Text} (hsuffix : v <:+ w)
    (h : baseFault .posix w = none) : baseFault .posix v = none := by
  rw [baseFault_eq_none_iff] at h ⊢
  obtain ⟨hsound, hpercent⟩ := h
  refine ⟨⟨?_, ?_, ?_⟩, ?_⟩
  · intro c hc
    exact hsound.unreserved c (hsuffix.subset hc)
  · intro hclimb
    exact hsound.noClimb (hclimb.trans hsuffix.isInfix)
  · intro c hc
    cases hc
  · exact le_trans (hsuffix.sublist.count_le '%') hpercent

/-- A base without root is resolved like the same base written behind the working directory. -/
theorem resolveBase_unrooted {w base : Text} (hbase : base.head? ≠ some '/')
    (hw : w.head? = some '/') (cwd : WorkingDirectory) :
    resolveBase .posix (.at w) base = resolveBase .posix cwd (w ++ '/' :: base) := by
  have hparse : Lexical.parse .posix base = .ok ⟨.relative, Lexical.split .posix base⟩ := by
    rw [Lexical.parse, if_neg (by rw [beq_iff_eq]; exact hbase)]
  have hhead : (w ++ '/' :: base).head? = some '/' := by
    rw [List.head?_append, hw]
    rfl
  have hsplit : Lexical.split .posix (w ++ '/' :: base)
      = Lexical.split .posix w ++ Lexical.split .posix base :=
    Lexical.split_append_cons rfl w base
  have hanchor : Lexical.absolutize .posix (.at w) ⟨.relative, Lexical.split .posix base⟩
      = (Lexical.parse .posix w).map fun p => p.join ⟨.relative, Lexical.split .posix base⟩ := rfl
  rw [resolveBase_of_isQualified (parse_posix_of_rooted hhead) rfl, hsplit,
    resolveBase_of_parse hparse, hanchor, parse_posix_of_rooted hw]
  rfl

/-- What combining gives hangs on the resolved base and not on how it was written. -/
theorem combine_eq_of_resolveBase {s : Style} {cwd cwd' : WorkingDirectory} {base base' : Text}
    (hcwd : cwd.IsAbsolute) (hb : resolveBase s cwd base = resolveBase s cwd' base')
    (tail : List Text) (k : Containment) :
    combine s cwd base tail k = combine s cwd' base' tail k := by
  cases hresolve : resolveBase s cwd base with
  | error r =>
    rw [combine_of_resolveBase_error hresolve, combine_of_resolveBase_error (hb ▸ hresolve)]
  | ok b =>
    have hcanon : b.Canonical s := canonical_of_resolveBase hcwd hresolve
    rw [combine_of_resolveBase hresolve hcanon, combine_of_resolveBase (hb ▸ hresolve) hcanon]

/-- A call with a base without root is the same call with the working directory written in front of
the base. -/
theorem Request.build_unrooted {w base : Text} (hblank : base.isBlank = false)
    (hbase : base.head? ≠ some '/') (hw : w.head? = some '/')
    (hfault : baseFault .posix (w ++ '/' :: base) = none) (cwd : WorkingDirectory) (r : Request) :
    r.build .posix (.at w) base = r.build .posix cwd (w ++ '/' :: base) := by
  have hblanks : base.isBlank = (w ++ '/' :: base).isBlank := by
    rw [hblank, isBlank_of_separator_mem (s := .posix)]
    exact List.mem_append_right w List.mem_cons_self
  have hsuffix : base <:+ w ++ '/' :: base :=
    (List.suffix_cons '/' base).trans (List.suffix_append w _)
  have hfaults : baseFault .posix base = baseFault .posix (w ++ '/' :: base) := by
    rw [hfault, baseFault_posix_of_suffix hsuffix hfault]
  have habsolute : WorkingDirectory.IsAbsolute (.at w) := hw
  rw [Request.build_eq, Request.build_eq, Request.fault_congr hblanks hfaults,
    combine_eq_of_resolveBase habsolute (resolveBase_unrooted hbase hw cwd)]

/-! ## What the outcome owes to the working directory -/

/-- **Dependence on the working directory.**  In the windows style and for a base that starts at the
root every call has the same outcome in any two working directories, even if there is none that can
be told.  A call asks for the working directory at most once, and only for a posix base without
root, since what comes of the joins is qualified already.  Such a base is taken like the one with
the working directory written in front of it. -/
theorem working_directory_dependence (s : Style) (base : Text) (r : Request) :
    ((s = .windows ∨ base.head? = some '/') →
      ∀ cwd cwd', r.build s cwd base = r.build s cwd' base) ∧
    (∀ cwd cwd', buildFromSegments s cwd [] = buildFromSegments s cwd' []) ∧
    (∀ cwd, (r.asking s base).answer cwd = r.build s cwd base) ∧
    (∀ cwd, 0 < (r.asking s base).reads cwd → s = .posix ∧ base.head? ≠ some '/') ∧
    (∀ cwd, cwd.IsAbsolute → (r.asking s base).reads cwd ≤ 1 ∧
      ∀ b tail j, resolveBase s cwd base = .ok b → joinAll s b tail = .ok j →
        j.isQualified s = true) ∧
    (s = .posix → base.isBlank = false → base.head? ≠ some '/' →
      ∀ w, w.head? = some '/' → baseFault s (w ++ '/' :: base) = none →
        ∀ cwd, r.build s (.at w) base = r.build s cwd (w ++ '/' :: base)) := by
  refine ⟨?_, fun _ _ => rfl, fun cwd => r.answer_asking s cwd base, ?_, ?_, ?_⟩
  · -- a call that does not ask cannot tell two working directories apart
    intro h cwd cwd'
    have hreads := r.reads_asking_eq_zero h cwd
    rw [← Request.answer_asking, ← Request.answer_asking]
    exact Asking.answer_eq_of_reads_eq_zero hreads cwd cwd'
  · intro cwd hreads
    have hasks : ¬ (s = .windows ∨ base.head? = some '/') := by
      intro h
      have hzero := r.reads_asking_eq_zero h cwd
      omega
    rw [not_or] at hasks
    cases s with
    | posix => exact ⟨rfl, hasks.2⟩
    | windows => exact absurd rfl hasks.1
  · intro cwd hcwd
    refine ⟨r.reads_asking_le_one s hcwd base, ?_⟩
    intro b tail j hb hj
    exact isQualified_of_joinAll_resolveBase hcwd hb hj
  · intro hs hblank hbase w hw hfault cwd
    subst hs
    exact r.build_unrooted hblank hbase hw hfault cwd

/-- A name below `/b` comes to the same wherever there is no working directory to be told; one below
`d` is built in `/w` with one look at the working directory, as if the base were `/w/d`. -/
theorem working_directory_dependence_rooted_and_unrooted :
    (Request.bare "f".toList).build .posix .missing "/b".toList
      = (Request.bare "f".toList).build .posix .illegible "/b".toList ∧
    0 < ((Request.bare "f".toList).asking .posix "d".toList).reads (.at "/w".toList) ∧
    WorkingDirectory.IsAbsolute (.at "/w".toList) ∧
    ((Request.bare "f".toList).asking .posix "d".toList).reads (.at "/w".toList) ≤ 1 ∧
    baseFault .posix "/w/d".toList = none ∧
    (Request.bare "f".toList).build .posix (.at "/w".toList) "d".toList
      = (Request.bare "f".toList).build .posix .missing "/w/d".toList := by
  obtain ⟨hrooted, -⟩ :=
    working_directory_dependence .posix "/b".toList (.bare "f".toList)
  obtain ⟨-, -, -, -, honce, hunrooted⟩ :=
    working_directory_dependence .posix "d".toList (.bare "f".toList)
  have habsolute : WorkingDirectory.IsAbsolute (.at "/w".toList) := rfl
  refine ⟨hrooted (Or.inr rfl) _ _, by decide, habsolute, (honce _ habsolute).1, by decide, ?_⟩
  exact hunrooted rfl (by decide) (by decide) "/w".toList rfl (by decide) .missing

end Rampart.Path
