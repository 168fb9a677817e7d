/-! Cutting a text at a separator: at every occurrence of a character, or of two of it in a row.
A text without the separator is one part. -/

namespace ElementSearch.Cut

/-- The parts of `cs` between the occurrences of `c`. -/
def cut (c : Char) : List Char → List (List Char)
  | [] => [[]]
  | d :: rest =>
    if d = c then [] :: cut c rest
    else match cut c rest with
      | [] => [[d]]
      | part :: parts => (d :: part) :: parts

/-- The parts between pairs of `c`, taken from the left. -/
def cutPairs (c : Char) : List Char → List (List Char)
  | [] => [[]]
  | [d] => [[d]]
  | d :: e :: rest =>
    if d = c ∧ e = c then [] :: cutPairs c rest
    else match cutPairs c (e :: rest) with
      | [] => [[d]]
      | part :: parts => (d :: part) :: parts

def dotted (name : String) : List String := (cut '.' name.toList).map String.ofList

theorem cut_ne_nil (c : Char) (cs : List Char) : cut c cs ≠ [] := by
  cases cs with
  | nil => simp [cut]
  | cons d rest =>
    unfold cut
    split
    · simp
    · split <;> simp

theorem intercalate_cut (c : Char) (cs : List Char) : [c].intercalate (cut c cs) = cs := by
  induction cs with
  | nil => rfl
  | cons d rest ih =>
    unfold cut
    split
    · rename_i h
      cases parts : cut c rest with
      | nil => exact absurd parts (cut_ne_nil c rest)
      | cons part parts' =>
        rw [parts] at ih
        rw [List.intercalate_cons_cons, ih, h]
        rfl
    · cases parts : cut c rest with
      | nil => exact absurd parts (cut_ne_nil c rest)
      | cons part parts' =>
        rw [parts] at ih
        cases parts' with
        | nil =>
          simp only [List.intercalate_singleton] at ih ⊢
          rw [ih]
        | cons next others =>
          rw [List.intercalate_cons_cons] at ih ⊢
          rw [← ih]
          rfl

theorem notMem_of_mem_cut {c : Char} {cs part : List Char} (h : part ∈ cut c cs) : c ∉ part := by
  induction cs generalizing part with
  | nil =>
    rw [cut, List.mem_singleton] at h
    simp [h]
  | cons d rest ih =>
    unfold cut at h
    split at h
    · rcases List.mem_cons.mp h with rfl | h
      · simp
      · exact ih h
    · rename_i other
      cases parts : cut c rest with
      | nil => exact absurd parts (cut_ne_nil c rest)
      | cons first others =>
        rw [parts] at h
        rcases List.mem_cons.mp h with rfl | h
        · have below : c ∉ first := ih (parts ▸ List.mem_cons_self)
          simp only [List.mem_cons, not_or]
          exact ⟨fun e => other e.symm, below⟩
        · exact ih (parts ▸ List.mem_cons_of_mem first h)

theorem dotted_ne_nil (name : String) : dotted name ≠ [] := by
  simp [dotted, cut_ne_nil]

end ElementSearch.Cut
