import ElementSearch.Proofs.XPath.Branches

/-! The steps of a query and their predicates.
A query is cut at the signs that stand outside of literals and brackets: at bars into alternatives,
at slashes into steps, and before square brackets into a step's test and its predicates.  In a row
with holes the same cuts are made whatever balanced text fills the holes, as long as every hole
stands inside of brackets. -/

namespace ElementSearch.XPath

open Nesting

section Cut

variable {α : Type}

def joinHead (a : α) : List (List α) → List (List α)
  | [] => [[a]]
  | part :: others => (a :: part) :: others

/-- The parts of a row whose reading begins at `s`.  A mark outside of literals and brackets begins
a new part, and is kept in it or dropped. -/
def partsFrom (read : Nesting → α → Nesting) (isMark : α → Bool) (keep : Bool) :
    Nesting → List α → List (List α)
  | _, [] => [[]]
  | s, a :: rest =>
    let parts := partsFrom read isMark keep (read s a) rest
    if isMark a ∧ s = outside then [] :: (if keep then joinHead a parts else parts)
    else joinHead a parts

end Cut

def steps (cs : List Char) : List (List Char) :=
  partsFrom Nesting.step (· == '/') false outside cs

def lastStep (cs : List Char) : List Char := (steps cs).getLastD []

def segments (step : List Char) : List (List Char) :=
  partsFrom Nesting.step (· == '[') true outside step

def predicates (step : List Char) : List (List Char) := (segments step).tail.map Blank.trim

theorem branchesFrom_eq_partsFrom (s : Nesting) (cs : List Char) :
    branchesFrom s cs = partsFrom Nesting.step (· == '|') false s cs := by
  induction cs generalizing s with
  | nil => rfl
  | cons c cs ih =>
    by_cases cut : c = '|' ∧ s = outside
    · obtain ⟨rfl, rfl⟩ := cut
      rw [branchesFrom_bar, partsFrom, if_pos ⟨rfl, rfl⟩, ← ih]
      rfl
    · have other : ¬((c == '|') = true ∧ s = outside) := by simpa using cut
      rw [branchesFrom, if_neg cut, partsFrom, if_neg other, ← ih]
      cases branchesFrom (s.step c) cs <;> rfl

section Holes

def fillHoles (expression : List Char) (row : List (Option Char)) : List Char :=
  row.flatMap fun place => place.elim expression fun c => [c]

def pass (s : Nesting) (place : Option Char) : Nesting := place.elim s s.step

/-- Every hole is met inside of brackets and outside of literals. -/
def sheltered (s : Nesting) : List (Option Char) → Bool
  | [] => true
  | some c :: rest => sheltered (s.step c) rest
  | none :: rest => s.quote.isNone && !s.brackets.isEmpty && sheltered s rest

def unbroken? : List (Option Char) → Option (List Char)
  | [] => some []
  | some c :: rest => (unbroken? rest).map (c :: ·)
  | none :: _ => none

variable {s : Nesting} {mark : Char} {keep : Bool} {expression : List Char}

theorem partsFrom_ne_nil {α : Type} (read : Nesting → α → Nesting) (isMark : α → Bool)
    (keep : Bool) (s : Nesting) (row : List α) : partsFrom read isMark keep s row ≠ [] := by
  cases row with
  | nil => simp [partsFrom]
  | cons a rest =>
    have joined (parts : List (List α)) : joinHead a parts ≠ [] := by
      cases parts <;> simp [joinHead]
    rw [partsFrom]
    split
    · simp
    · exact joined _

theorem partsFrom_through {xs ys first : List Char} {others : List (List Char)}
    (shut : ∀ front, front <+: xs → s.after front ≠ outside)
    (back : partsFrom Nesting.step (· == mark) keep (s.after xs) ys = first :: others) :
    partsFrom Nesting.step (· == mark) keep s (xs ++ ys) = (xs ++ first) :: others := by
  induction xs generalizing s with
  | nil => exact back
  | cons c xs ih =>
    have here : ¬((c == mark) = true ∧ s = outside) := fun cut =>
      shut [] (List.nil_prefix) cut.2
    have rest := ih (s := s.step c) (fun front before =>
      shut (c :: front) (List.cons_prefix_cons.mpr ⟨rfl, before⟩)) back
    rw [List.cons_append, partsFrom, if_neg here, rest]
    rfl

theorem fillHoles_cons (place : Option Char) (row : List (Option Char)) :
    fillHoles expression (place :: row) =
      (place.elim expression fun c => [c]) ++ fillHoles expression row := List.flatMap_cons ..

theorem map_fillHoles_joinHead (expression : List Char) (c : Char)
    (parts : List (List (Option Char))) :
    (joinHead (some c) parts).map (fillHoles expression) =
      joinHead c (parts.map (fillHoles expression)) := by
  cases parts <;> rfl

theorem partsFrom_fillHoles (balanced : Balanced expression) {row : List (Option Char)}
    (safe : sheltered s row = true) :
    partsFrom Nesting.step (· == mark) keep s (fillHoles expression row) =
      (partsFrom pass (· == some mark) keep s row).map (fillHoles expression) := by
  induction row generalizing s with
  | nil => rfl
  | cons place rest ih =>
    cases place with
    | some c =>
      have behind := ih (s := s.step c) safe
      have joined := map_fillHoles_joinHead expression c
        (partsFrom pass (· == some mark) keep (s.step c) rest)
      rw [← behind] at joined
      have filled : fillHoles expression (some c :: rest) = c :: fillHoles expression rest := rfl
      rw [filled, partsFrom, partsFrom]
      by_cases cut : (c == mark) = true ∧ s = outside
      · have cut' : (some c == some mark) = true ∧ s = outside := cut
        rw [if_pos cut, if_pos cut', List.map_cons]
        cases keep with
        | true => exact congrArg _ joined.symm
        | false => exact congrArg _ behind
      · have cut' : ¬((some c == some mark) = true ∧ s = outside) := cut
        rw [if_neg cut, if_neg cut']
        exact joined.symm
    | none =>
      simp only [sheltered, Bool.and_eq_true, Option.isNone_iff_eq_none, Bool.not_eq_true',
        List.isEmpty_eq_false_iff] at safe
      obtain ⟨⟨unquoted, bracketed⟩, safe⟩ := safe
      obtain ⟨quote, outer⟩ := s
      cases unquoted
      -- a balanced text closes none of the brackets around the hole
      have shut : ∀ front, front <+: expression →
          (⟨none, outer⟩ : Nesting).after front ≠ outside := by
        intro front before left
        have kept := (balanced.keepsToItself outer).2 front before
        rw [left] at kept
        exact bracketed (List.suffix_nil.mp kept)
      have some_ := partsFrom_ne_nil pass (· == some mark) keep ⟨none, outer⟩ rest
      obtain ⟨first, others, parts⟩ := List.exists_cons_of_ne_nil some_
      have behind := ih safe
      rw [parts, List.map_cons] at behind
      have whole := partsFrom_through shut (by rw [balanced.after_eq]; exact behind)
      have open_ : ¬((none == some mark) = true ∧ (⟨none, outer⟩ : Nesting) = outside) :=
        fun cut => absurd cut.1 (by simp)
      have filled : fillHoles expression (none :: rest) =
          expression ++ fillHoles expression rest := rfl
      have passed : pass ⟨none, outer⟩ none = ⟨none, outer⟩ := rfl
      rw [filled, whole, partsFrom, if_neg open_, passed, parts]
      simp [joinHead, fillHoles_cons]

theorem fillHoles_unbroken {row : List (Option Char)} {cs : List Char}
    (unbroken : unbroken? row = some cs) : fillHoles expression row = cs := by
  induction row generalizing cs with
  | nil =>
    cases unbroken
    rfl
  | cons place rest ih =>
    cases place with
    | some c =>
      obtain ⟨others, inner, rfl⟩ := Option.map_eq_some_iff.mp unbroken
      rw [fillHoles_cons, ih inner]
      rfl
    | none => cases unbroken

/-- Every alternative of the query has the predicate on its last step. -/
def Bears (predicate query : List Char) : Prop :=
  ∀ branch ∈ branches query, predicate ∈ predicates (lastStep branch)

/-- Every alternative of the row has the predicate on its last step, spelled without a hole, and no
hole is met outside of brackets. -/
def bears (predicate : List Char) (row : List (Option Char)) : Bool :=
  sheltered outside row &&
    (partsFrom pass (· == some '|') false outside row).all fun branch =>
      let last := (partsFrom pass (· == some '/') false outside branch).getLastD []
      sheltered outside branch && sheltered outside last &&
        (partsFrom pass (· == some '[') true outside last).tail.any fun segment =>
          (unbroken? segment).map Blank.trim == some predicate

theorem branches_fillHoles (balanced : Balanced expression) {row : List (Option Char)}
    (safe : sheltered outside row = true) :
    branches (fillHoles expression row) =
      (partsFrom pass (· == some '|') false outside row).map (fillHoles expression) := by
  rw [branches, branchesFrom_eq_partsFrom, partsFrom_fillHoles balanced safe]

theorem lastStep_fillHoles (balanced : Balanced expression) {row : List (Option Char)}
    (safe : sheltered outside row = true) :
    lastStep (fillHoles expression row) =
      fillHoles expression ((partsFrom pass (· == some '/') false outside row).getLastD []) := by
  have nothing : fillHoles expression [] = [] := rfl
  rw [lastStep, steps, partsFrom_fillHoles balanced safe, ← nothing, List.getLastD_map]

theorem bears_fillHoles (balanced : Balanced expression) {predicate : List Char}
    {row : List (Option Char)} (borne : bears predicate row = true) :
    Bears predicate (fillHoles expression row) := by
  simp only [bears, Bool.and_eq_true, List.all_eq_true, List.any_eq_true, beq_iff_eq] at borne
  obtain ⟨safe, all⟩ := borne
  intro branch mem
  rw [branches_fillHoles balanced safe] at mem
  obtain ⟨part, among, rfl⟩ := List.mem_map.mp mem
  obtain ⟨⟨safe, safe'⟩, segment, among, spelled⟩ := all part among
  obtain ⟨cs, unbroken, trimmed⟩ := Option.map_eq_some_iff.mp spelled
  rw [lastStep_fillHoles balanced safe, predicates, segments, partsFrom_fillHoles balanced safe',
    ← List.map_tail, List.map_map]
  refine List.mem_map.mpr ⟨segment, among, ?_⟩
  rw [Function.comp_apply, fillHoles_unbroken unbroken, trimmed]

end Holes

end ElementSearch.XPath
