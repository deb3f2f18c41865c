import Mathlib.Data.List.SplitBy
import SignedAccess.Proofs.Text.Runs

/-!
# Runs shortened as a substitution

Shortening the runs of a character is a substitution: read from left to right, every longest run
becomes a single character and all else stays (`Substituted`).  It can also be done group by group,
where a group is a longest stretch of the character or of others (`groups`).  Runs of different
characters are shortened independently of each other.

    Substituted c t s ↔ collapse c t = s                              (substituted_iff)
    collapse c t = the groups of t, those of c replaced by [c]        (collapse_eq_flatMap_groups)
    collapse c (collapse d t) = collapse d (collapse c t)             (collapse_comm)
-/

namespace SignedAccess.Text

variable {c d : Char} {t s : Text}

/-! ## Definitions -/

/-- Whether `s` is `t` with every longest run of `c` replaced by a single `c`. -/
inductive Substituted (c : Char) : (t s : Text) → Prop
  | done : Substituted c [] []
  | other {x : Char} {t s : Text} (hx : x ≠ c) (rest : Substituted c t s) :
      Substituted c (x :: t) (x :: s)
  /-- A run ends where another character or the end of the text follows. -/
  | run {n : Nat} {t s : Text} (hend : t.head? ≠ some c) (rest : Substituted c t s) :
      Substituted c (List.replicate (n + 1) c ++ t) (c :: s)

/-- Whether both of two characters are `c` or neither is. -/
def areAlike (c x y : Char) : Bool := (x == c) == (y == c)

/-- The longest stretches of `c` and of other characters. -/
def groups (c : Char) (t : Text) : List Text := t.splitBy (areAlike c)

/-- What a group becomes. -/
def shortened (c : Char) (group : Text) : Text := if group.head? = some c then [c] else group

/-! ## Equations -/

/-- A character is left out just when it stands before another one of the run. -/
theorem collapse_cons (c x : Char) (t : Text) :
    collapse c (x :: t) =
      if x = c ∧ t.head? = some c then collapse c t else x :: collapse c t := by
  cases t with
  | nil => simp [collapse]
  | cons y rest => simp only [collapse, List.head?_cons, Option.some.injEq]

/-- Runs on both sides of a cut are shortened apart, unless the cut goes through one. -/
theorem collapse_append {a b : Text} (h : ∀ x ∈ a.getLast?, ∀ y ∈ b.head?, ¬(x = c ∧ y = c)) :
    collapse c (a ++ b) = collapse c a ++ collapse c b := by
  induction a using collapse.induct c with
  | case1 => rfl
  | case2 x =>
    have hcut : ¬(x = c ∧ b.head? = some c) := fun hrun => h x rfl c hrun.2 ⟨hrun.1, rfl⟩
    rw [List.singleton_append, collapse_cons, if_neg hcut]
    rfl
  | case3 x y rest hxy ih =>
    rw [List.getLast?_cons_cons] at h
    rw [List.cons_append, List.cons_append, collapse, if_pos hxy, ← List.cons_append, ih h,
      collapse, if_pos hxy]
  | case4 x y rest hxy ih =>
    rw [List.getLast?_cons_cons] at h
    rw [List.cons_append, List.cons_append, collapse, if_neg hxy, ← List.cons_append, ih h,
      collapse, if_neg hxy, List.cons_append]

theorem collapse_replicate (c : Char) (n : Nat) :
    collapse c (List.replicate (n + 1) c) = [c] := by
  induction n with
  | zero => rfl
  | succ n ih =>
    rw [List.replicate_succ, collapse_cons, if_pos ⟨rfl, by rw [List.replicate_succ]; rfl⟩, ih]

/-! ## Substitution -/

theorem collapse_of_substituted (h : Substituted c t s) : collapse c t = s := by
  induction h with
  | done => rfl
  | other hx rest ih => rw [collapse_cons_of_ne hx, ih]
  | @run n t s hend rest ih =>
    have hcut : ∀ x ∈ (List.replicate (n + 1) c).getLast?, ∀ y ∈ t.head?, ¬(x = c ∧ y = c) :=
      fun x _ y hy hxy => hend (by rw [← hxy.2]; exact hy)
    rw [collapse_append hcut, collapse_replicate, ih, List.singleton_append]

/-- One more character in front of a run makes no difference. -/
theorem Substituted.longer (h : Substituted c (c :: t) s) : Substituted c (c :: c :: t) s := by
  generalize hu : c :: t = u at h
  cases h with
  | done => cases hu
  | other hx rest =>
    cases hu
    exact absurd rfl hx
  | @run n t s hend rest => exact Substituted.run (n := n + 1) hend rest

theorem substituted_collapse (c : Char) (t : Text) : Substituted c t (collapse c t) := by
  induction t using collapse.induct c with
  | case1 => exact .done
  | case2 x =>
    by_cases hx : x = c
    · subst hx
      exact Substituted.run (n := 0) (by simp) .done
    · exact .other hx .done
  | case3 x y rest hxy ih =>
    obtain ⟨rfl, rfl⟩ := hxy
    rw [collapse, if_pos ⟨rfl, rfl⟩]
    exact ih.longer
  | case4 x y rest hxy ih =>
    rw [collapse, if_neg hxy]
    by_cases hx : x = c
    · subst hx
      refine Substituted.run (n := 0) (fun hy => hxy ⟨rfl, ?_⟩) ih
      exact Option.some.inj hy
    · exact .other hx ih

/-- Shortening is the one substitution of single characters for longest runs. -/
theorem substituted_iff : Substituted c t s ↔ collapse c t = s :=
  ⟨collapse_of_substituted, fun h => h ▸ substituted_collapse c t⟩

/-! ## Groups -/

/-- All characters of a group are like its first one. -/
theorem beq_eq_of_mem_group {x : Char} {group : Text}
    (h : (x :: group).IsChain fun x y => areAlike c x y = true) :
    ∀ y ∈ group, (y == c) = (x == c) := by
  induction group generalizing x with
  | nil => exact nofun
  | cons z group ih =>
    obtain ⟨hhead, htail⟩ := List.isChain_cons.1 h
    have hz : (z == c) = (x == c) := (beq_iff_eq.1 (hhead z rfl)).symm
    intro y hy
    rcases List.mem_cons.1 hy with rfl | hy
    · exact hz
    · exact (ih htail y hy).trans hz

theorem shortened_eq_collapse {group : Text} (hne : group ≠ [])
    (h : group.IsChain fun x y => areAlike c x y = true) :
    shortened c group = collapse c group := by
  obtain ⟨x, rest, rfl⟩ := List.exists_cons_of_ne_nil hne
  have hlike := beq_eq_of_mem_group h
  unfold shortened
  by_cases hx : x = c
  · subst hx
    have hall : x :: rest = List.replicate (rest.length + 1) x := by
      refine List.eq_replicate_iff.2 ⟨rfl, fun y hy => ?_⟩
      rcases List.mem_cons.1 hy with rfl | hy
      · rfl
      · exact beq_iff_eq.1 ((hlike y hy).trans (beq_self_eq_true x))
    rw [List.head?_cons, if_pos rfl, hall, collapse_replicate]
  · have hno : c ∉ x :: rest := by
      intro hc
      rcases List.mem_cons.1 hc with rfl | hc
      · exact hx rfl
      · exact hx (beq_iff_eq.1 ((hlike c hc).symm.trans (beq_self_eq_true c)))
    rw [List.head?_cons, if_neg fun heq => hx (Option.some.inj heq),
      collapse_eq_self_iff.2 (noRun_of_not_mem hno)]

theorem collapse_flatten {gs : List Text}
    (h : gs.IsChain fun a b => ∃ ha hb, areAlike c (a.getLast ha) (b.head hb) = false) :
    collapse c gs.flatten = gs.flatMap (collapse c) := by
  induction gs with
  | nil => rfl
  | cons g gs ih =>
    obtain ⟨hcut, hrest⟩ := List.isChain_cons.1 h
    rw [List.flatten_cons, List.flatMap_cons, ← ih hrest]
    refine collapse_append fun x hx y hy hxy => ?_
    cases gs with
    | nil => cases hy
    | cons g' gs =>
      obtain ⟨hg, hg', hdiff⟩ := hcut g' rfl
      rw [List.getLast?_eq_some_getLast hg, Option.mem_some_iff] at hx
      rw [List.flatten_cons, List.head?_append_of_ne_nil _ hg', List.head?_eq_some_head hg',
        Option.mem_some_iff] at hy
      rw [hx, hy, hxy.1, hxy.2, areAlike, beq_self_eq_true] at hdiff
      cases hdiff

/-- Shortening can be done group by group. -/
theorem collapse_eq_flatMap_groups (c : Char) (t : Text) :
    collapse c t = (groups c t).flatMap (shortened c) := by
  have hflat : collapse c (groups c t).flatten = _ :=
    collapse_flatten (List.isChain_getLast_head_splitBy _ t)
  rw [groups, List.flatten_splitBy] at hflat
  rw [hflat]
  refine List.flatMap_congr fun g hg => (shortened_eq_collapse ?_ ?_).symm
  · exact List.ne_nil_of_mem_splitBy hg
  · exact List.isChain_of_mem_splitBy hg

/-! ## Other characters -/

/-- Without the character a shortened text is the text itself. -/
theorem filter_collapse (c : Char) (t : Text) :
    (collapse c t).filter (· ≠ c) = t.filter (· ≠ c) := by
  induction t with
  | nil => rfl
  | cons x t ih =>
    rw [collapse_cons]
    split
    · next hrun => rw [ih, List.filter_cons_of_neg (by simp [hrun.1])]
    · rw [List.filter_cons, List.filter_cons, ih]

/-- Runs of different characters are shortened independently of each other. -/
theorem collapse_comm (c d : Char) (t : Text) :
    collapse c (collapse d t) = collapse d (collapse c t) := by
  induction t with
  | nil => rfl
  | cons x t ih =>
    have hc := collapse_cons c x (collapse d t)
    have hd := collapse_cons d x (collapse c t)
    rw [head?_collapse] at hc hd
    by_cases hrunc : x = c ∧ t.head? = some c
    · rw [if_pos hrunc] at hc
      by_cases hrund : x = d ∧ t.head? = some d
      · rw [collapse_cons, if_pos hrund, collapse_cons, if_pos hrunc, ih]
      · rw [collapse_cons, if_neg hrund, hc, ih, collapse_cons c, if_pos hrunc]
    · rw [if_neg hrunc] at hc
      by_cases hrund : x = d ∧ t.head? = some d
      · rw [if_pos hrund] at hd
        rw [collapse_cons d, if_pos hrund, collapse_cons c, if_neg hrunc, hd, ih]
      · rw [if_neg hrund] at hd
        rw [collapse_cons d, if_neg hrund, hc, collapse_cons c, if_neg hrunc, hd, ih]

/-! ## Main statement -/

/-- What shortening the runs of a character does. -/
structure ShortensRuns (c : Char) (f : Text → Text) : Prop where
  /-- Longest runs become single characters, and nothing else changes. -/
  substituted : ∀ t s, Substituted c t s ↔ f t = s
  grouped : ∀ t, f t = (groups c t).flatMap (shortened c)
  noRun : ∀ t, NoRun c (f t)
  idempotent : ∀ t, f (f t) = f t
  /-- The other characters stay in order. -/
  others : ∀ t, (f t).filter (· ≠ c) = t.filter (· ≠ c)
  /-- What stands before another character stays before it, and so for what follows. -/
  inPlace : ∀ a x b, x ≠ c → f (a ++ x :: b) = f a ++ x :: f b
  first : ∀ t, (f t).head? = t.head?
  last : ∀ t, (f t).getLast? = t.getLast?

/-- Runs are shortened by substitution, and those of two characters in either order. -/
theorem collapse_shortensRuns :
    (∀ c, ShortensRuns c (collapse c)) ∧
      ∀ c d t, collapse c (collapse d t) = collapse d (collapse c t) ∧
        NoRun c (collapse c (collapse d t)) ∧ NoRun d (collapse c (collapse d t)) := by
  constructor
  · intro c
    exact {
      substituted := fun _ _ => substituted_iff
      grouped := collapse_eq_flatMap_groups c
      noRun := noRun_collapse c
      idempotent := fun t => collapse_eq_self_iff.2 (noRun_collapse c t)
      others := filter_collapse c
      inPlace := fun a _ b hx => collapse_append_cons hx a b
      first := head?_collapse c
      last := getLast?_collapse c }
  · intro c d t
    exact ⟨collapse_comm c d t, noRun_collapse c _, isChain_collapse c (noRun_collapse d t)⟩

/-- Tabs that a space keeps apart stay apart. -/
example : collapse '\t' (collapse ' ' "a  \t \t\t b".toList) = "a \t \t b".toList := by decide

end SignedAccess.Text
