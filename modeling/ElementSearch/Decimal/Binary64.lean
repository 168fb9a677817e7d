import ElementSearch.Decimal.Numeral

/-! Numbers in the binary interchange format of 64 bits.
A finite number is a sign and `mantissa * 2 ^ exponent` with a mantissa below `2 ^ 53`; a
mantissa below `2 ^ 52` occurs only with the least exponent.  `round` takes a ratio to the
nearest such number, a tie to the even mantissa. -/

namespace ElementSearch

inductive Binary64 where
  | nan
  | infinite (negative : Bool)
  | finite (negative : Bool) (mantissa : Nat) (exponent : Int)
deriving DecidableEq

namespace Binary64

def minExponent : Int := -1074

def maxExponent : Int := 971

def zero (negative : Bool) : Binary64 := .finite negative 0 minExponent

/-- `num / den / 2 ^ e` as a ratio of natural numbers. -/
def scaled (num den : Nat) (e : Int) : Nat × Nat :=
  if e ≥ 0 then (num, den * Nat.pow 2 e.toNat) else (num * Nat.pow 2 (-e).toNat, den)

def roundRatio (num den : Nat) : Nat :=
  let q := num / den
  let r := num % den
  if 2 * r > den || (2 * r == den && q % 2 == 1) then q + 1 else q

def round (negative : Bool) (num den : Nat) : Binary64 :=
  if num = 0 then zero negative
  else
    let guess : Int := (num.log2 : Int) - den.log2 - 52
    let (n, d) := scaled num den guess
    let e := max minExponent (if n / d < Nat.pow 2 52 then guess - 1 else guess)
    let (n, d) := scaled num den e
    let m := roundRatio n d
    let (m, e) := if m ≥ Nat.pow 2 53 then (m / 2, e + 1) else (m, e)
    if e > maxExponent then .infinite negative else .finite negative m e

def ofInt (n : Int) : Binary64 := round (n < 0) n.natAbs 1

def toRat? : Binary64 → Option Rat
  | .finite negative m e =>
    let (num, den) := if e ≥ 0 then (m * Nat.pow 2 e.toNat, 1) else (m, Nat.pow 2 (-e).toNat)
    some (mkRat (if negative then -(num : Int) else num) den)
  | _ => none

def isZero : Binary64 → Bool
  | .finite _ 0 _ => true
  | _ => false

def truncate? : Binary64 → Option Int
  | .finite negative m e =>
    let n := if e ≥ 0 then m * Nat.pow 2 e.toNat else m / Nat.pow 2 (-e).toNat
    some (if negative then -(n : Int) else n)
  | _ => none

def successor : Binary64 → Binary64
  | .finite negative m e =>
    match toRat? (.finite negative m e) with
    | some r => round (r + 1 < 0) (r + 1).num.natAbs (r + 1).den
    | none => .nan
  | x => x

def unsigned : Binary64 → Binary64
  | .finite _ m e => .finite false m e
  | .infinite _ => .infinite false
  | .nan => .nan

def digitRun (cs : List Char) : List Char × List Char :=
  (cs.takeWhile Alphanumeric.isAsciiDigit, cs.dropWhile Alphanumeric.isAsciiDigit)

def digitsValue (cs : List Char) : Nat :=
  cs.foldl (fun n c => 10 * n + (c.toNat - 48)) 0

/-- The number nearest to `± whole.fraction * 10 ^ power`. -/
def ofDecimal (negative : Bool) (whole fraction : List Char) (power : Int) : Binary64 :=
  let n := digitsValue (whole ++ fraction)
  let e := power - fraction.length
  let size := e + (whole.length + fraction.length)
  if size > 400 && n ≠ 0 then .infinite negative
  else if size < -400 then zero negative
  else if e ≥ 0 then round negative (n * Nat.pow 10 e.toNat) 1
  else round negative n (Nat.pow 10 (-e).toNat)

def readUnsigned (negative : Bool) (cs : List Char) : Option Binary64 :=
  if cs = ['i', 'n', 'f'] then some (.infinite negative)
  else if cs = ['n', 'a', 'n'] then some .nan
  else
    let (whole, rest) := digitRun cs
    let (fraction, rest) := match rest with
      | '.' :: rest => digitRun rest
      | rest => ([], rest)
    if whole.isEmpty && fraction.isEmpty then none
    else match rest with
      | [] => some (ofDecimal negative whole fraction 0)
      | c :: rest =>
        if c = 'e' || c = 'E' then
          (Numeral.readSigned rest).toOption.map (ofDecimal negative whole fraction)
        else none

def read? (text : String) : Option Binary64 :=
  match text.toList with
  | '-' :: rest => readUnsigned true rest
  | '+' :: rest => readUnsigned false rest
  | cs => readUnsigned false cs

example : ofInt 1 = .finite false (2 ^ 52) (-52) := by decide

example : ofInt (2 ^ 53 + 1) = ofInt (2 ^ 53) := by decide

end Binary64

end ElementSearch
