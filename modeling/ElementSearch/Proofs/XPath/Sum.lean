import ElementSearch.Proofs.XPath.Token

/-! Sums in a query.
A sum is whole numbers and calls of `last()` with plus and minus signs between them.  What it comes
to depends on the size of the context, which is what `last()` stands for; numbers are exact. -/

namespace ElementSearch.XPath

def whole? (digits : List Char) : Option Nat :=
  if digits.all isDigit then some (Nat.ofDigitChars 10 digits 0) else none

mutual

/-- What a sum comes to whose first operand counts with the given sign. -/
def sumFrom? (size : Nat) (sign : Int) : List Token → Option Int
  | .number digits :: rest => do
    let n ← whole? digits
    let others ← moreFrom? size rest
    return sign * n + others
  | .name ['l', 'a', 's', 't'] :: .sign ['('] :: .sign [')'] :: rest => do
    let others ← moreFrom? size rest
    return sign * size + others
  | _ => none

def moreFrom? (size : Nat) : List Token → Option Int
  | [] => some 0
  | .sign ['+'] :: rest => sumFrom? size 1 rest
  | .sign ['-'] :: rest => sumFrom? size (-1) rest
  | _ => none

end

/-- What the text of a sum comes to where `last()` is `size`. -/
def sum? (size : Nat) (text : String) : Option Int := do
  sumFrom? size 1 (← tokens? text)

section Numerals

open Reading

variable {cs : List Char}

theorem scan?_inNumber (digits : ∀ c ∈ cs, isDigit c = true) (seen : List Char) :
    (inNumber seen).scan? cs = some ([], inNumber (seen ++ cs)) := by
  induction cs generalizing seen with
  | nil => simp [scan?]
  | cons c rest ih =>
    have first : isDigit c = true := digits c List.mem_cons_self
    rw [scan?]
    simp [step?, extend?, first, ih fun d mem => digits d (List.mem_cons_of_mem c mem)]

theorem start?_digit {c : Char} (digit : isDigit c = true) :
    start? c = some ([], inNumber [c]) := by
  have bounds : 48 ≤ c.toNat ∧ c.toNat ≤ 57 := by
    simpa [isDigit, Char.le_def, UInt32.le_iff_toNat_le] using digit
  have other (d : Char) (mark : isDigit d = false) : c ≠ d := by
    rintro rfl
    rw [digit] at mark
    cases mark
  have unnamed : isNameStart c = false := by
    simp [isNameStart, nameStartTable, Intervals.mem]
    omega
  have solid : isSpace c = false := by
    simp [isSpace, other ' ' rfl, other '\t' rfl, other '\r' rfl, other '\n' rfl]
  simp [start?, solid, other '\'' rfl, other '"' rfl, unnamed, digit]

theorem scan?_digits (some_ : cs ≠ []) (digits : ∀ c ∈ cs, isDigit c = true) :
    between.scan? cs = some ([], inNumber cs) := by
  obtain ⟨c, rest, rfl⟩ := List.exists_cons_of_ne_nil some_
  have first : between.step? c = some ([], inNumber [c]) := by
    simp [step?, extend?, ended?, start?_digit (digits c List.mem_cons_self)]
  have others := scan?_inNumber (fun d mem => digits d (List.mem_cons_of_mem c mem)) [c]
  simp [scan?, first, others]

theorem scan?_nat (n : Nat) :
    between.scan? (toString n).toList = some ([], inNumber (Nat.toDigits 10 n)) := by
  rw [Nat.toString_eq_ofList_toDigits, String.toList_ofList]
  exact scan?_digits Nat.toDigits_ne_nil fun _ mem =>
    Nat.isDigit_of_mem_toDigits (by decide) (by decide) mem

theorem tokens?_of_scan {text : String} {front : List Token} {digits : List Char}
    (read : between.scan? text.toList = some (front, inNumber digits)) :
    tokens? text = some (front ++ [.number digits]) := by
  rw [tokens?, read]
  rfl

theorem whole?_toDigits (n : Nat) : whole? (Nat.toDigits 10 n) = some n := by
  have digits : (Nat.toDigits 10 n).all isDigit = true := List.all_eq_true.mpr fun _ mem =>
    Nat.isDigit_of_mem_toDigits (by decide) (by decide) mem
  rw [whole?, if_pos digits, Nat.ofDigitChars_ten_toDigits]

theorem sumFrom?_nat (size : Nat) (sign : Int) (n : Nat) :
    sumFrom? size sign [.number (Nat.toDigits 10 n)] = some (sign * n) := by
  simp [sumFrom?, moreFrom?, whole?_toDigits]

theorem sum?_nat (size n : Nat) : sum? size (toString n) = some (n : Int) := by
  rw [sum?, tokens?_of_scan (scan?_nat n), List.nil_append]
  simp [sumFrom?_nat]

def lastMinus : List Token := [.name ['l', 'a', 's', 't'], .sign ['('], .sign [')'], .sign ['-']]

theorem sumFrom?_lastMinus (size : Nat) (rest : List Token) :
    sumFrom? size 1 (lastMinus ++ rest) =
      (sumFrom? size (-1) rest).map fun others => (size : Int) + others := by
  simp only [lastMinus, List.cons_append, List.nil_append, sumFrom?, moreFrom?, Int.one_mul]
  cases sumFrom? size (-1) rest <;> rfl

theorem sum?_lastMinus (size n : Nat) :
    sum? size ("last()-" ++ toString n) = some ((size : Int) - n) := by
  have front : between.scan? "last()-".toList = some (lastMinus, between) := by decide
  have whole := scan?_append_of_eq front (scan?_nat n)
  rw [List.append_nil, ← String.toList_append] at whole
  have value := sumFrom?_lastMinus size [.number (Nat.toDigits 10 n)]
  rw [sumFrom?_nat] at value
  calc sum? size ("last()-" ++ toString n)
    _ = sumFrom? size 1 (lastMinus ++ [.number (Nat.toDigits 10 n)]) := by
        rw [sum?, tokens?_of_scan whole]
        rfl
    _ = some ((size : Int) + -1 * n) := value
    _ = some ((size : Int) - n) := by rw [Int.neg_one_mul, Int.sub_eq_add_neg]

end Numerals

end ElementSearch.XPath
