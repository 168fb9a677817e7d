/-! Hexadecimal numerals over characters, written with small letters and read in either case. -/

namespace ElementSearch.Hexadecimal

def digit (n : Nat) : Char :=
  if n < 10 then Char.ofNat (48 + n) else Char.ofNat (87 + n)

def value? (c : Char) : Option Nat :=
  if '0' ≤ c && c ≤ '9' then some (c.toNat - 48)
  else if 'a' ≤ c && c ≤ 'f' then some (c.toNat - 87)
  else if 'A' ≤ c && c ≤ 'F' then some (c.toNat - 55)
  else none

def isDigit (c : Char) : Bool := (value? c).isSome

def digits (n : Nat) : List Char :=
  if n < 16 then [digit n] else digits (n / 16) ++ [digit (n % 16)]
termination_by n
decreasing_by omega

def padded (width n : Nat) : List Char :=
  List.replicate (width - (digits n).length) '0' ++ digits n

/-- The number that a row of digits denotes; other characters count as zero. -/
def number (cs : List Char) : Nat :=
  cs.foldl (fun n c => 16 * n + (value? c).getD 0) 0

theorem value?_digit {n : Nat} (h : n < 16) : value? (digit n) = some n := by
  have all : ∀ m : Fin 16, value? (digit m.val) = some m.val := by decide
  exact all ⟨n, h⟩

theorem isDigit_digit {n : Nat} (h : n < 16) : isDigit (digit n) = true := by
  simp [isDigit, value?_digit h]

theorem digits_ne_nil (n : Nat) : digits n ≠ [] := by
  rw [digits]; split <;> simp

theorem length_digits_of_lt {n : Nat} (small : n < 16) : (digits n).length = 1 := by
  rw [digits, if_pos small, List.length_singleton]

theorem length_digits_step {bound k : Nat} (few : ∀ n < bound, (digits n).length ≤ k) :
    ∀ n < 16 * bound, (digits n).length ≤ k + 1 := by
  intro n small
  rw [digits]
  split
  · simp
  · have front := few (n / 16) (by omega)
    rw [List.length_append, List.length_singleton]
    omega

theorem length_digits_le_six {n : Nat} (small : n < 16777216) : (digits n).length ≤ 6 := by
  have one : ∀ m < 16, (digits m).length ≤ 1 := fun _ small =>
    Nat.le_of_eq (length_digits_of_lt small)
  have three := length_digits_step (length_digits_step one)
  have six := length_digits_step (length_digits_step (length_digits_step three))
  exact six n small

theorem isDigit_of_mem_digits {n : Nat} {c : Char} (h : c ∈ digits n) : isDigit c = true := by
  induction n using Nat.strongRecOn with
  | ind n ih =>
    rw [digits] at h
    split at h
    · rename_i small
      rw [List.mem_singleton.mp h]
      exact isDigit_digit small
    · rcases List.mem_append.mp h with front | last
      · exact ih (n / 16) (by omega) front
      · rw [List.mem_singleton.mp last]
        exact isDigit_digit (by omega)

theorem number_digits (n : Nat) : number (digits n) = n := by
  induction n using Nat.strongRecOn with
  | ind n ih =>
    rw [digits]
    split
    · rename_i small
      simp [number, value?_digit small]
    · have back := ih (n / 16) (by omega)
      simp only [number] at back ⊢
      rw [List.foldl_append, back]
      simp only [List.foldl_cons, List.foldl_nil, value?_digit (Nat.mod_lt n (by omega : 0 < 16)),
        Option.getD_some]
      omega

end ElementSearch.Hexadecimal
