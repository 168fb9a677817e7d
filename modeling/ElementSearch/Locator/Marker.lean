import ElementSearch.Locator.Classify
import ElementSearch.Text.LetterCase
import ElementSearch.XPath.Literal

/-! Short locators for one attribute.
A text that begins with the marker stands for the elements whose attribute has the rest of the
text as its value. -/

namespace ElementSearch

inductive Strategy where
  | path
  | selector
deriving DecidableEq

structure Marker where
  /-- a text, or a tuple of texts any of which may begin the locator -/
  mark : Value
  attributeName : Value
  strategy : Strategy
  /-- the selector itself is shown in messages -/
  showActual : Bool

namespace Strategy

def label : Strategy → String
  | path => "xpath"
  | selector => "css"

def ofLabel? (s : String) : Option Strategy :=
  if s = "xpath" then some path else if s = "css" then some selector else none

def read (v : Value) : Outcome Strategy :=
  match v with
  | .text s =>
    let low := LetterCase.lower s
    match ofLabel? low with
    | some strategy => .ok strategy
    | none => .error (.badValue ("Unknown custom locator strategy: " ++ low))
  | _ => .error .missingAttribute

end Strategy

namespace Marker

def defaultMark : String := "$"

def defaultAttribute : String := "data-test-id"

def standard : Marker := ⟨.text defaultMark, .text defaultAttribute, .path, false⟩

/-- The first of the marks that begins the text decides; one that is no text is refused. -/
def anyStarts (cs : List Char) : List Value → Outcome Bool
  | [] => .ok false
  | .text mark :: rest =>
    if mark.toList.isPrefixOf cs then .ok true else anyStarts cs rest
  | _ => .error .wrongType

/-- What follows the mark at the start of a text: as many characters go as the mark has, and as
many as there are marks if there are several. -/
def restAfter? (mark : Value) (cs : List Char) : Outcome (Option (List Char)) :=
  match mark with
  | .text mark =>
    .ok (if mark.toList.isPrefixOf cs then some (cs.drop mark.length) else none)
  | .tuple marks => do
    return if ← anyStarts cs marks then some (cs.drop marks.length) else none
  | _ => .error .wrongType

def selectorFor (m : Marker) (rest : String) : Outcome (Kind × String) := do
  let name ← m.attributeName.display
  match m.strategy with
  | .path => return (.xpath, ".//*[@" ++ name ++ "=" ++ XPath.quote rest ++ "]")
  | .selector => return (.css, "[" ++ name ++ "=" ++ rest ++ "]")

def filter (m : Marker) : Filter := fun raw _ =>
  match raw with
  | .text s => do
    match ← restAfter? m.mark s.toList with
    | none => return none
    | some rest =>
      let (kind, selector) ← m.selectorFor (String.ofList rest)
      return some { LocatorOf.make kind selector (.text s) with
        output := if m.showActual then selector else s }
  | _ => .ok none

def announcement (m : Marker) : Outcome String := do
  let mark ← m.mark.display
  let name ← m.attributeName.display
  return "Custom locator registered: " ++ mark ++ "<value> -> @" ++ name ++ " (" ++
    m.strategy.label ++ ")"

theorem filter_of_not_text (m : Marker) {raw : Value} (l : Locator) (h : raw.text? = none) :
    m.filter raw l = .ok none := by
  cases raw <;> simp_all [filter, Value.text?]

end Marker

end ElementSearch
