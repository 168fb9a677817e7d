import ElementSearch.Decimal.Binary64

/-! The shortest decimal text that reads back.
The reals that round to `m * 2 ^ e` form an interval around it, with its ends when `m` is even.
For one, two, … digits the two neighbours of the number on that decimal grid are tried; the first
grid with a neighbour inside wins, and of two neighbours the nearer.  The text is positional when
the decimal point falls between four places before the first digit and sixteen places after it. -/

namespace ElementSearch.Binary64

/-- A positive decimal `digits * 10 ^ power`. -/
structure Digits where
  digits : Nat
  power : Int
deriving DecidableEq

/-- Four times the number and the ends of its rounding interval, over one denominator. -/
structure Span where
  low : Nat
  value : Nat
  high : Nat
  den : Nat
  closed : Bool

def span (m : Nat) (e : Int) : Span :=
  let below := if m = Nat.pow 2 52 && e > minExponent then 1 else 2
  let unit := if e ≥ 0 then Nat.pow 2 e.toNat else 1
  let den := if e ≥ 0 then 4 else 4 * Nat.pow 2 (-e).toNat
  { low := (4 * m - below) * unit, value := 4 * m * unit, high := (4 * m + 2) * unit,
    den := den, closed := m % 2 == 0 }

def Span.holds (s : Span) (c : Nat) (p : Int) : Bool :=
  let (c, den) :=
    if p ≥ 0 then (c * Nat.pow 10 p.toNat * s.den, 1) else (c * s.den, Nat.pow 10 (-p).toNat)
  if s.closed then s.low * den ≤ c && c ≤ s.high * den
  else s.low * den < c && c < s.high * den

def Span.inUnits (s : Span) (p : Int) : Nat × Nat :=
  if p ≥ 0 then (s.value, s.den * Nat.pow 10 p.toNat)
  else (s.value * Nat.pow 10 (-p).toNat, s.den)

/-- The neighbour of the number on the grid of `10 ^ p` that reads back. -/
def Span.pick? (s : Span) (p : Int) : Option Digits :=
  let (n, d) := s.inUnits p
  let c := n / d
  let r := n % d
  match s.holds c p && c != 0, s.holds (c + 1) p with
  | true, true =>
    if 2 * r < d || (2 * r == d && c % 2 == 0) then some ⟨c, p⟩ else some ⟨c + 1, p⟩
  | true, false => some ⟨c, p⟩
  | false, true => some ⟨c + 1, p⟩
  | false, false => none

/-- How many decimal digits the whole part of `n / d` has when it is not zero; else minus the
number of zeros that follow the point. -/
def magnitude (n d : Nat) : Int :=
  if n ≥ d then ((Nat.toDigits 10 (n / d)).length : Int)
  else
    let k := (Nat.toDigits 10 (d / n)).length
    if n * Nat.pow 10 (k - 1) ≥ d then 2 - (k : Int) else 1 - (k : Int)

def shortest (m : Nat) (e : Int) : Digits :=
  let s := span m e
  let top := magnitude s.value s.den
  let found := (List.range 17).findSome? fun (n : Nat) => s.pick? (top - (n : Int) - 1)
  found.getD ⟨m, 0⟩

def trimZeros (cs : List Char) : List Char :=
  (cs.reverse.dropWhile (· == '0')).reverse

def zeros (n : Nat) : List Char := List.replicate n '0'

/-- The exponent has a sign and at least two digits. -/
def exponentText (x : Int) : List Char :=
  let ds := Nat.toDigits 10 x.natAbs
  (if x < 0 then '-' else '+') :: (zeros (2 - ds.length) ++ ds)

/-- `point` is the place of the decimal point counted from before the first digit. -/
def place (ds : List Char) (point : Int) : List Char :=
  if -4 < point && point ≤ 16 then
    if point ≤ 0 then ['0', '.'] ++ zeros (-point).toNat ++ ds
    else
      let whole := ds.take point.toNat
      let fraction := ds.drop point.toNat
      whole ++ zeros (point.toNat - ds.length) ++ ['.'] ++
        (if fraction.isEmpty then ['0'] else fraction)
  else
    let fraction := ds.drop 1
    ds.take 1 ++ (if fraction.isEmpty then [] else '.' :: fraction) ++
      'e' :: exponentText (point - 1)

def textChars : Binary64 → List Char
  | .nan => ['n', 'a', 'n']
  | .infinite negative => (if negative then ['-'] else []) ++ ['i', 'n', 'f']
  | .finite negative m e =>
    let sign := if negative then ['-'] else []
    if m = 0 then sign ++ ['0', '.', '0']
    else
      let s := shortest m e
      let ds := Nat.toDigits 10 s.digits
      sign ++ place (trimZeros ds) ((ds.length : Int) + s.power)

def text (x : Binary64) : String := String.ofList x.textChars

end ElementSearch.Binary64
