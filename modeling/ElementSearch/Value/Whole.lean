import ElementSearch.Decimal.Numeral
import ElementSearch.Fault
import ElementSearch.Text.Quoted

/-! Values as whole numbers.
Fractions are cut off, a text is read as a numeral, and containers have no number.  The complaint
about a text shows the beginning of it only. -/

namespace ElementSearch.Value

def shownSize : Nat := 200

def numeralMessage (s : String) : String :=
  "invalid literal for int() with base 10: " ++
    String.ofList ((Quoted.encode s.toList).take shownSize)

def flawMessage (s : String) : Numeral.Flaw → String
  | .malformed => numeralMessage s
  | .tooLong digits => Numeral.tooLongMessage digits

def whole (v : Value) : Outcome Int :=
  match v with
  | int n => .ok n
  | bool b => .ok (if b then 1 else 0)
  | float x =>
    match x with
    | .nan => .error (.badValue "cannot convert float NaN to integer")
    | .infinite _ => .error .outOfRange
    | .finite .. =>
      match x.truncate? with
      | some n => .ok n
      | none => .error .outOfRange
  | text s =>
    match Numeral.read s with
    | .ok n => .ok n
    | .error flaw => .error (.badValue (flawMessage s flaw))
  | _ => .error .wrongType

end ElementSearch.Value
