import ElementSearch.Decimal.Shortest
import ElementSearch.Proofs.XPath.Nesting

/-! Numbers in a query.
The text of a number has digits, a sign, a point and the letters of its exponent or of its name, so
it can be put anywhere in a query. -/

namespace ElementSearch

open XPath

theorem isNeutral_of_isDigit {c : Char} (digit : c.isDigit = true) : isNeutral c = true := by
  have other (d : Char) (mark : d.isDigit = false) : c ≠ d := by
    rintro rfl
    rw [digit] at mark
    cases mark
  simp [isNeutral, isQuote, opens, partner?, other '\'' rfl, other '"' rfl, other '(' rfl,
    other '[' rfl, other ')' rfl, other ']' rfl]

theorem neutral_toDigits (n : Nat) : Neutral (Nat.toDigits 10 n) := fun _ mem =>
  isNeutral_of_isDigit (Nat.isDigit_of_mem_toDigits (by decide) (by decide) mem)

theorem neutral_nat (n : Nat) : Neutral (toString n).toList := by
  rw [Nat.toString_eq_ofList_toDigits, String.toList_ofList]
  exact neutral_toDigits n

theorem neutral_int (n : Int) : Neutral (toString n).toList := by
  cases n with
  | ofNat m => exact neutral_nat m
  | negSucc m =>
    have sign : toString (Int.negSucc m) = "-" ++ toString (m + 1) := rfl
    have minus : Neutral "-".toList := by decide
    rw [sign, String.toList_append]
    exact neutral_append.mpr ⟨minus, neutral_nat _⟩

namespace Binary64

variable {ds : List Char}

theorem neutral_zeros (n : Nat) : Neutral (zeros n) := by
  intro c mem
  rw [List.eq_of_mem_replicate mem]
  decide

theorem neutral_trimZeros (digits : Neutral ds) : Neutral (trimZeros ds) := by
  intro c mem
  have kept : c ∈ ds.reverse.dropWhile (· == '0') := List.mem_reverse.mp mem
  exact digits c (List.mem_reverse.mp ((List.dropWhile_suffix _).subset kept))

theorem neutral_exponentText (x : Int) : Neutral (exponentText x) := by
  unfold exponentText
  split <;> simp [neutral_zeros, neutral_toDigits] <;> decide

theorem neutral_place (digits : Neutral ds) (point : Int) : Neutral (place ds point) := by
  have front (n : Nat) : Neutral (ds.take n) := fun c mem => digits c (List.mem_of_mem_take mem)
  have back (n : Nat) : Neutral (ds.drop n) := fun c mem => digits c (List.mem_of_mem_drop mem)
  have marks : isNeutral '0' = true ∧ isNeutral '.' = true ∧ isNeutral 'e' = true := by decide
  unfold place
  split
  · split
    · simp [digits, neutral_zeros, marks]
    · simp only [neutral_append, neutral_cons, neutral_nil, front, neutral_zeros, marks, true_and,
        and_true]
      split
      · simp [marks]
      · exact back _
  · simp only [neutral_append, neutral_cons, front, neutral_exponentText, marks, true_and, and_true]
    split
    · simp
    · exact neutral_cons.mpr ⟨marks.2.1, back 1⟩

theorem neutral_sign (negative : Bool) : Neutral (if negative then ['-'] else []) := by
  cases negative <;> decide

theorem neutral_textChars (x : Binary64) : Neutral x.textChars := by
  cases x with
  | nan => decide
  | infinite negative => exact neutral_append.mpr ⟨neutral_sign negative, by decide⟩
  | finite negative m e =>
    simp only [textChars]
    have zero : Neutral ['0', '.', '0'] := by decide
    split
    · exact neutral_append.mpr ⟨neutral_sign negative, zero⟩
    · exact neutral_append.mpr ⟨neutral_sign negative,
        neutral_place (neutral_trimZeros (neutral_toDigits _)) _⟩

theorem neutral_text (x : Binary64) : Neutral x.text.toList := by
  rw [text, String.toList_ofList]
  exact neutral_textChars x

end Binary64

end ElementSearch
