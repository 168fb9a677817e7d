import ElementSearch.Proofs.XPath.Primary

/-! String expressions put together from runs.
Cut around its runs of single quotes, a text is `concat` of one literal for each run: a run is all
single quotes or has none, so one kind of quote is free to enclose it.  Such an expression stands
for the text like one that is cut at every quote. -/

namespace ElementSearch.XPath

/-- All characters agree on being `c`. -/
def IsEven (c : Char) (cs : List Char) : Prop := ∃ b : Bool, ∀ d ∈ cs, (d == c) = b

section Runs

variable {c : Char} {cs part : List Char}

theorem flatten_runs (c : Char) (cs : List Char) : (runs c cs).flatten = cs := by
  induction cs with
  | nil => rfl
  | cons d rest ih =>
    rw [runs]
    split
    · rename_i cut
      rw [cut] at ih
      split <;> simpa using ih
    · simpa using ih

theorem isEven_of_mem_runs (mem : part ∈ runs c cs) : IsEven c part := by
  have single (d : Char) : IsEven c [d] := ⟨d == c, by simp⟩
  induction cs generalizing part with
  | nil => cases mem
  | cons d rest ih =>
    rw [runs] at mem
    split at mem
    · rename_i e more parts cut
      have all (other : List Char) (mem : other ∈ (e :: more) :: parts) : IsEven c other :=
        ih (cut ▸ mem)
      split at mem
      · rename_i alike
        rcases List.mem_cons.mp mem with rfl | mem
        · obtain ⟨b, even⟩ := all (e :: more) List.mem_cons_self
          have first : (d == c) = b := (eq_of_beq alike).trans (even e List.mem_cons_self)
          exact ⟨b, List.forall_mem_cons.mpr ⟨first, even⟩⟩
        · exact all part (List.mem_cons_of_mem _ mem)
      · rcases List.mem_cons.mp mem with rfl | mem
        · exact single d
        · exact all part mem
    · rcases List.mem_cons.mp mem with rfl | mem
      · exact single d
      · exact ih mem

theorem two_le_length_runs {d : Char} (present : c ∈ cs) (other : d ∈ cs) (differ : d ≠ c) :
    2 ≤ (runs c cs).length := by
  have whole := flatten_runs c cs
  cases parts : runs c cs with
  | nil =>
    rw [parts] at whole
    rw [← whole] at present
    cases present
  | cons part rest =>
    cases rest with
    | nil =>
      rw [parts, List.flatten_cons, List.flatten_nil, List.append_nil] at whole
      subst whole
      obtain ⟨b, even⟩ := isEven_of_mem_runs (parts ▸ List.mem_cons_self)
      have same := (even c present).trans (even d other).symm
      simp [differ] at same
    | cons next others => simp

end Runs

theorem areArguments_intercalate {parts : List (List Char)} {write : List Char → List Char}
    (some_ : parts ≠ []) (literal : ∀ part ∈ parts, IsLiteral (write part) part) :
    AreArguments ([','].intercalate (parts.map write) ++ [')']) parts := by
  induction parts with
  | nil => exact absurd rfl some_
  | cons part rest ih =>
    have first := literal part List.mem_cons_self
    cases rest with
    | nil =>
      have only := AreArguments.last isGap_nil first isGap_nil
      simpa using only
    | cons next others =>
      have tail := ih (by simp) fun p mem => literal p (List.mem_cons_of_mem _ mem)
      have both := AreArguments.more isGap_nil first isGap_nil tail
      rw [List.map_cons, List.map_cons, List.intercalate_cons_cons, ← List.map_cons]
      simpa using both

theorem isLiteral_encloseRun {part : List Char} (even : IsEven '\'' part) :
    IsLiteral (encloseRun part) part := by
  unfold encloseRun
  split
  · rename_i present
    obtain ⟨b, alike⟩ := even
    have quotes : '"' ∉ part := by
      intro other
      have same := (alike '\'' present).trans (alike '"' other).symm
      exact absurd same (by decide)
    exact .quoted (.inr rfl) quotes
  · rename_i absent
    exact .quoted (.inl rfl) absent

theorem isPrimary_quoteRunsChars (cs : List Char) : IsPrimary (quoteRunsChars cs) cs := by
  unfold quoteRunsChars
  split
  · rename_i absent
    exact .literal (.quoted (.inl rfl) absent)
  split
  · rename_i absent
    exact .literal (.quoted (.inr rfl) absent)
  rename_i single double
  have several : 2 ≤ (runs '\'' cs).length :=
    two_le_length_runs (Decidable.not_not.mp single) (Decidable.not_not.mp double) (by decide)
  have some_ : runs '\'' cs ≠ [] := List.length_pos_iff.mp (by omega)
  have given := areArguments_intercalate some_ fun part mem =>
    isLiteral_encloseRun (isEven_of_mem_runs mem)
  have call := IsPrimary.concat isGap_nil given several
  rw [flatten_runs] at call
  simpa [concatOpen] using call

end ElementSearch.XPath
