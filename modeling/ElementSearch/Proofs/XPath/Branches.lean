import ElementSearch.Proofs.XPath.Nesting
import ElementSearch.Text.Blank
import Mathlib.Data.List.Forall2

/-! The alternatives of a query.
A query is cut at the bars that stand outside of literals and brackets.  Text that is put behind a
query goes to its last alternative alone, and the alternatives of that text follow as they are;
so every alternative is extended by it only if the query has one and the text adds none. -/

namespace ElementSearch.XPath

open Nesting

/-- The alternatives of a text whose reading begins at `s`. -/
def branchesFrom (s : Nesting) : List Char → List (List Char)
  | [] => [[]]
  | c :: cs =>
    if c = '|' ∧ s = outside then [] :: branchesFrom s cs
    else match branchesFrom (s.step c) cs with
      | [] => [[c]]
      | branch :: others => (c :: branch) :: others

def branches (cs : List Char) : List (List Char) := branchesFrom outside cs

theorem branchesFrom_bar (cs : List Char) :
    branchesFrom outside ('|' :: cs) = [] :: branchesFrom outside cs := by
  rw [branchesFrom, if_pos ⟨rfl, rfl⟩]

section Cut

variable {s : Nesting} {c : Char} {cs ys : List Char}

theorem branchesFrom_ne_nil (s : Nesting) (cs : List Char) : branchesFrom s cs ≠ [] := by
  cases cs with
  | nil => simp [branchesFrom]
  | cons c cs =>
    unfold branchesFrom
    split
    · simp
    · split <;> simp

theorem branchesFrom_cons {branch : List Char} {others : List (List Char)}
    (inside : ¬(c = '|' ∧ s = outside)) (rest : branchesFrom (s.step c) cs = branch :: others) :
    branchesFrom s (c :: cs) = (c :: branch) :: others := by
  rw [branchesFrom, if_neg inside, rest]

theorem branchesFrom_append {earlier others : List (List Char)} {last first : List Char}
    (front : branchesFrom s cs = earlier ++ [last])
    (back : branchesFrom (s.after cs) ys = first :: others) :
    branchesFrom s (cs ++ ys) = earlier ++ (last ++ first) :: others := by
  -- Reading goes on where it stood: the last alternative of the first text and the first one of the
  -- second are one alternative of both.
  -- over the first text: a cut takes one from `earlier`, any other character joins its head, or
  -- `last` once nothing stands before it
  induction cs generalizing s earlier last with
  | nil =>
    obtain ⟨rfl, same⟩ := List.append_eq_singleton_iff.mp front.symm |>.resolve_right (by simp)
    obtain rfl : last = [] := List.singleton_inj.mp same
    exact back
  | cons c cs ih =>
    rw [List.cons_append]
    by_cases cut : c = '|' ∧ s = outside
    · obtain ⟨rfl, rfl⟩ := cut
      rw [branchesFrom_bar] at front ⊢
      have stays : outside.step '|' = outside := by decide
      rw [after_cons, stays] at back
      cases earlier with
      | nil => exact absurd (List.cons.inj front).2 (branchesFrom_ne_nil outside cs)
      | cons e earlier =>
        obtain rfl : [] = e := (List.cons.inj front).1
        rw [ih (List.cons.inj front).2 back]
        rfl
    · obtain ⟨branch, rest, parts⟩ := List.exists_cons_of_ne_nil (branchesFrom_ne_nil (s.step c) cs)
      rw [branchesFrom_cons cut parts] at front
      cases earlier with
      | nil =>
        obtain ⟨rfl, rfl⟩ := List.cons.inj front
        have joined : branchesFrom (s.step c) (cs ++ ys) = [] ++ (branch ++ first) :: others :=
          ih parts back
        exact branchesFrom_cons cut joined
      | cons e earlier =>
        obtain ⟨rfl, rfl⟩ := List.cons.inj front
        have joined : branchesFrom (s.step c) (cs ++ ys) =
            (branch :: earlier) ++ (last ++ first) :: others := ih parts back
        exact branchesFrom_cons cut joined

theorem branchesFrom_inside
    (inside : ∀ front, front <+: cs → front ≠ cs → s.after front ≠ outside) :
    branchesFrom s cs = [cs] := by
  induction cs generalizing s with
  | nil => rfl
  | cons c cs ih =>
    have here : s ≠ outside := inside [] (List.nil_prefix) (by simp)
    refine branchesFrom_cons (fun cut => here cut.2) (ih ?_)
    intro front before other
    exact inside (c :: front) (List.cons_prefix_cons.mpr ⟨rfl, before⟩) (by simpa using other)

theorem eq_of_branchesFrom {branch : List Char} (only : branchesFrom s cs = [branch]) :
    branch = cs := by
  induction cs generalizing s branch with
  | nil => exact (List.singleton_inj.mp only).symm
  | cons c cs ih =>
    unfold branchesFrom at only
    split at only
    · exact absurd (List.cons.inj only).2 (branchesFrom_ne_nil s cs)
    split at only
    · rename_i none
      exact absurd none (branchesFrom_ne_nil _ cs)
    · rename_i first others parts
      obtain ⟨rfl, rfl⟩ := List.cons.inj only
      rw [ih parts]

theorem branches_predicate {inner : List Char} (balanced : Balanced inner) :
    branches ('[' :: (inner ++ [']'])) = ['[' :: (inner ++ [']'])] := by
  apply branchesFrom_cons (by decide)
  apply branchesFrom_inside
  intro front before proper
  have inInner : front <+: inner := by
    rcases List.prefix_concat_iff.mp before with whole | part
    · exact absurd whole proper
    · exact part
  obtain ⟨outer, same⟩ := (balanced.keepsToItself ['[']).2 front inInner
  intro left
  have opened : outside.step '[' = ⟨none, ['[']⟩ := by decide
  rw [opened] at left
  rw [left] at same
  exact absurd same (by simp [outside])

theorem branches_bar {xs : List Char} (one : branches xs = [xs]) (closed : Balanced xs)
    (ys : List Char) : branches (xs ++ '|' :: ys) = xs :: branches ys := by
  have back : branchesFrom (outside.after xs) ('|' :: ys) = [] :: branches ys := by
    rw [closed]
    exact branchesFrom_bar ys
  have joined : branches (xs ++ '|' :: ys) = [] ++ (xs ++ []) :: branches ys :=
    branchesFrom_append one back
  rwa [List.append_nil] at joined

end Cut

/-- `r` is `b`, up to the blanks around it, followed by `suffix`. -/
def Extends (suffix b r : List Char) : Prop :=
  ∃ core, Blank.trim core = Blank.trim b ∧ Blank.trim r = Blank.trim (core ++ suffix)

/-- Each alternative of the query is extended by the suffix put behind it, and there are no
others. -/
def ReachesAll (path suffix : List Char) : Prop :=
  List.Forall₂ (Extends suffix) (branches path) (branches (path ++ suffix))

def solid (cs : List Char) : Nat := cs.countP fun c => !Blank.isBlank c

theorem solid_dropWhile (cs : List Char) : solid (cs.dropWhile Blank.isBlank) = solid cs := by
  induction cs with
  | nil => rfl
  | cons c rest ih =>
    rw [List.dropWhile_cons]
    split
    · rename_i blank
      rw [ih]
      simp [solid, blank]
    · rfl

theorem solid_trim (cs : List Char) : solid (Blank.trim cs) = solid cs := by
  have reversed (ds : List Char) : solid ds.reverse = solid ds := List.countP_reverse ..
  rw [Blank.trim, Blank.trimEnd, reversed, solid_dropWhile, reversed, Blank.trimStart,
    solid_dropWhile]

theorem not_extends_self {suffix : List Char} (solidSuffix : solid suffix ≠ 0) (b : List Char) :
    ¬Extends suffix b b := by
  rintro ⟨core, same, extended⟩
  -- trimming moves blanks only, so what is not blank can be counted on both sides
  have fewer : solid core = solid b := by rw [← solid_trim, same, solid_trim]
  have more : solid b = solid core + solid suffix := by
    rw [← solid_trim, extended, solid_trim, solid, List.countP_append, solid, solid]
  omega

theorem reachesAll_iff {path suffix last first : List Char} {earlier others : List (List Char)}
    (solidSuffix : solid suffix ≠ 0) (front : branches path = earlier ++ [last])
    (back : branchesFrom (outside.after path) suffix = first :: others) :
    ReachesAll path suffix ↔ earlier = [] ∧ others = [] := by
  rw [ReachesAll, front, branches, branchesFrom_append front back]
  constructor
  · intro all
    have lengths := all.length_eq
    simp only [List.length_append, List.length_cons, List.length_nil] at lengths
    have none : others = [] := List.eq_nil_of_length_eq_zero (by omega)
    refine ⟨?_, none⟩
    cases earlier with
    | nil => rfl
    | cons b earlier =>
      cases all with
      | cons head _ => exact absurd head (not_extends_self solidSuffix b)
  · rintro ⟨rfl, rfl⟩
    obtain rfl : first = suffix := eq_of_branchesFrom back
    exact .cons ⟨last, rfl, rfl⟩ .nil

end ElementSearch.XPath
