import ElementSearch.Text.Alphanumeric
import ElementSearch.Text.Blank

/-! Reading and writing whole numbers.
A numeral may stand between white space, may carry one sign, and may have single underscores
between its digits; the digits are the decimal digits of any script.  Neither direction goes
beyond a fixed number of digits, and too many digits are noticed before anything behind them. -/

namespace ElementSearch.Numeral
open Alphanumeric

def mostDigits : Nat := 4300

/-- Why a text is no number. -/
inductive Flaw where
  | malformed
  | tooLong (digits : Nat)
deriving DecidableEq

/-- White space around a numeral.  The four ASCII separators do not count here. -/
def isPadding (c : Char) : Bool :=
  Blank.isBlank c && !(28 ≤ c.toNat && c.toNat ≤ 31)

def inRow (c : Char) : Bool := c == '_' || (decimalValue? c).isSome

/-- Every underscore stands behind a digit, and the row ends with a digit. -/
def wellSpaced (afterDigit : Bool) : List Char → Bool
  | [] => afterDigit
  | c :: rest => if c = '_' then afterDigit && wellSpaced false rest else wellSpaced true rest

def rowDigits (row : List Char) : List Nat := row.filterMap decimalValue?

def value (digits : List Nat) : Nat := digits.foldl (fun n d => 10 * n + d) 0

def readRow (row : List Char) : Except Flaw Nat :=
  let digits := rowDigits row
  if !wellSpaced false row then .error .malformed
  else if digits.length > mostDigits then .error (.tooLong digits.length)
  else .ok (value digits)

def readDigits (cs : List Char) : Except Flaw Nat := do
  let n ← readRow (cs.takeWhile inRow)
  if ((cs.dropWhile inRow).dropWhile isPadding).isEmpty then return n else throw .malformed

def readSigned : List Char → Except Flaw Int
  | '-' :: rest => (readDigits rest).map fun n => -(n : Int)
  | '+' :: rest => (readDigits rest).map Int.ofNat
  | cs => (readDigits cs).map Int.ofNat

def readChars (cs : List Char) : Except Flaw Int := readSigned (cs.dropWhile isPadding)

def read (text : String) : Except Flaw Int := readChars text.toList

def read? (text : String) : Option Int := (read text).toOption

def fits (n : Int) : Bool := (Nat.toDigits 10 n.natAbs).length ≤ mostDigits

/-- The digits of a number, if they are not too many. -/
def write? (n : Int) : Option String := if fits n then some (toString n) else none

def limitMessage : String :=
  "Exceeds the limit (" ++ toString mostDigits ++ " digits) for integer string conversion"

def limitAdvice : String := "; use sys.set_int_max_str_digits() to increase the limit"

def tooLongMessage (digits : Nat) : String :=
  limitMessage ++ ": value has " ++ toString digits ++ " digits" ++ limitAdvice

def writeMessage : String := limitMessage ++ limitAdvice

theorem fits_of_lt {n : Int} {k : Nat} (some : 0 < k) (few : k ≤ mostDigits)
    (small : n.natAbs < Nat.pow 10 k) : fits n = true :=
  decide_eq_true (Nat.le_trans ((Nat.length_toDigits_le_iff (by decide) some).mpr small) few)

theorem not_fits_of_le {n : Int} {k : Nat} (some : 0 < k) (many : mostDigits ≤ k)
    (large : Nat.pow 10 k ≤ n.natAbs) : fits n = false := by
  have longer : ¬(Nat.toDigits 10 n.natAbs).length ≤ k := fun short =>
    Nat.not_lt.mpr large ((Nat.length_toDigits_le_iff (by decide) some).mp short)
  exact decide_eq_false fun short => longer (Nat.le_trans short many)

theorem write?_of_fits {n : Int} (fitting : fits n = true) : write? n = some (toString n) :=
  if_pos fitting

theorem fits_of_digit {n : Int} (digit : n.natAbs < 10) : fits n = true :=
  fits_of_lt Nat.one_pos (by decide) digit

theorem eq_toString_of_write? {n : Int} {digits : String} (written : write? n = some digits) :
    digits = toString n := by
  unfold write? at written
  split at written
  · exact (Option.some.inj written).symm
  · cases written

theorem write?_of_not_fits {n : Int} (long : fits n = false) : write? n = none := by
  simp [write?, long]

end ElementSearch.Numeral
