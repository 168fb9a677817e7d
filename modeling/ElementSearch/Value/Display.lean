import ElementSearch.Decimal.Numeral
import ElementSearch.Decimal.Shortest
import ElementSearch.Fault
import ElementSearch.Text.Quoted

/-! Values as text.
`inspect` writes a value out with quotes around its texts, and fails only on a whole number with
too many digits; `display` is what messages and selectors show: a text stands for itself and a
locator for its output or for its kind and value.  A locator whose output is not a text cannot be
displayed. -/

namespace ElementSearch

/-- A whole number has too many digits to be written. -/
abbrev Fault.longNumber : Fault := .badValue Numeral.writeMessage

namespace Value

def written (n : Int) : Outcome String :=
  match Numeral.write? n with
  | some digits => .ok digits
  | none => .error .longNumber

theorem eq_toString_of_written {n : Int} {digits : String} (shown : written n = .ok digits) :
    digits = toString n := by
  unfold written at shown
  split at shown
  · rename_i known
    cases shown
    exact Numeral.eq_toString_of_write? known
  · cases shown

def join (parts : List String) : String := ", ".intercalate parts

/-- A tuple of one member keeps its comma. -/
def inParentheses : List String → String
  | [only] => "(" ++ only ++ ",)"
  | parts => "(" ++ join parts ++ ")"

def fields (kind : Kind) (value raw engine props output strict : String) : String :=
  "Locator(kind=<LocatorKind." ++ kind.capital ++ ": " ++ Quoted.quote kind.label ++
    ">, value=" ++ value ++ ", raw=" ++ raw ++ ", engine=" ++ engine ++ ", props=" ++ props ++
    ", output=" ++ output ++ ", strict=" ++ strict ++ ")"

mutual

def inspect : Value → Outcome String
  | null => .ok "None"
  | bool b => .ok (if b then "True" else "False")
  | int n => written n
  | float x => .ok x.text
  | text s => .ok (Quoted.quote s)
  | list items => do return "[" ++ join (← inspectItems items) ++ "]"
  | tuple items => do return inParentheses (← inspectItems items)
  | dict entries => do return "\x7b" ++ join (← inspectEntries entries) ++ "\x7d"
  | locator ⟨kind, value, raw, engine, props, output, strict⟩ => do
    return fields kind (← inspect value) (← inspect raw) (← inspect engine) (← inspect props)
      (← inspect output) (← inspect strict)

def inspectItems : List Value → Outcome (List String)
  | [] => .ok []
  | x :: xs => do
    let first ← inspect x
    let rest ← inspectItems xs
    return first :: rest

def inspectEntries : List (Value × Value) → Outcome (List String)
  | [] => .ok []
  | (k, v) :: rest => do
    let key ← inspect k
    let value ← inspect v
    let others ← inspectEntries rest
    return (key ++ ": " ++ value) :: others

end

def listed (texts : List String) : String := "[" ++ join (texts.map Quoted.quote) ++ "]"

def labelled (label body : String) : String := "\x7b" ++ label ++ ": " ++ body ++ "\x7d"

/-- Where a value is displayed; only tuples look different from place to place. -/
inductive Place where
  | alone
  | inLocator
  | inFrame
deriving DecidableEq

/-- What an output field says: show a text instead, show nothing instead, or neither. -/
def instead (output : Value) : Outcome (Option String) :=
  match output with
  | text s => .ok (some s)
  | null => .ok none
  | _ => .error .wrongType

mutual

def displayAt (place : Place) : Value → Outcome String
  | text s => .ok s
  | null => inspect null
  | bool b => inspect (bool b)
  | int n => inspect (int n)
  | float x => inspect (float x)
  | list items => inspect (list items)
  | dict entries => inspect (dict entries)
  | tuple items =>
    match place with
    | .alone => inspect (tuple items)
    | .inLocator => inspect (list items)
    | .inFrame => do return "[" ++ join (← displayItems items) ++ "]"
  | locator ⟨kind, value, _, engine, _, output, _⟩ =>
    match instead output with
    | .ok (some s) => .ok s
    | .ok none => do
      let label ←
        if kind = .custom && engine.isTruthy then displayAt .alone engine else .ok kind.label
      let body ← displayAt (if kind = .frame then .inFrame else .inLocator) value
      return labelled label body
    | .error fault => .error fault

def displayItems : List Value → Outcome (List String)
  | [] => .ok []
  | x :: xs => do
    let first ← displayAt .alone x
    let rest ← displayItems xs
    return first :: rest

end

def display (v : Value) : Outcome String := displayAt .alone v

@[simp] theorem display_text (s : String) : display (text s) = .ok s := by
  simp [display, displayAt]

end Value

end ElementSearch
