import ElementSearch.Locator.Query

/-! Refining a locator step by step.
Every step but the naming one goes through the XPath form and gives an XPath locator.  A
sub-locator loses the slashes and dots in front of it, so it must not begin with a bracket: the
step that picks one position out of many is for the outermost locator only. -/

namespace ElementSearch

inductive Refinement where
  | alternative (other : Value)
  | find (inner : Value)
  | withChild (inner : Value)
  | withDescendant (inner : Value)
  /-- counts from 1, negative positions from the end -/
  | position (n : Value)
  | first
  | last
  | withText (text : Value)
  | withAttributes (attributes : Value)
  | inside (outer : Value)
  | after (sibling : Value)
  | before (sibling : Value)
  | named (output : Value)

namespace LocatorOf

def ofPath (path : String) : Locator :=
  { make .xpath path (.dict [(.text "xpath", path)]) with strict := .bool true }

def stripLead (cs : List Char) : List Char := cs.dropWhile fun c => c == '.' || c == '/'

def isBracketed (cs : List Char) : Bool := Css.looksLikePath cs && cs.head? == some '('

def bracketMessage : String :=
  "XPath with round brackets is not possible here! " ++
    "May be a nested locator with at() last() or first() causes this error."

/-- The query of a sub-locator, ready to follow an axis. -/
def subPath (path : String) : Outcome String :=
  if isBracketed path.toList then .error (.badValue bracketMessage)
  else .ok (String.ofList (stripLead path.toList))

def classified (filters : List Filter) (v : Value) : Outcome Locator :=
  classify filters .css false v

def subSelector (filters : List Filter) (v : Value) : Outcome String := do
  let l ← classified filters v
  match ← l.toPath with
  | .text path => subPath path
  | _ => .error .missingAttribute

def pathText (l : Locator) : Outcome String := do
  let path ← l.toPath
  path.display

def textOnly (v : Value) : Outcome String :=
  match v with
  | .text s => .ok s
  | _ => .error .wrongType

def positionMessage : String :=
  "0 is not valid element position. XPath expects first element to have index 1"

/-- The distance from the last element to the one at a negative position. -/
def fromEnd (distance : String) : String := "last()-" ++ distance

/-- `written` is how the position itself is written. -/
def intPosition (n : Int) (written : Outcome String) : Outcome String :=
  if n = 0 then .error (.badValue positionMessage)
  else if n > 0 then written
  else do return fromEnd (← Value.written (n + 1).natAbs)

def floatPosition (x : Binary64) : Outcome String :=
  match x with
  | .nan => .ok (fromEnd x.text)
  | .infinite true => .ok (fromEnd (Binary64.infinite false).text)
  | .infinite false => .ok x.text
  | .finite negative m _ =>
    if m = 0 then .error (.badValue positionMessage)
    else if negative then .ok (fromEnd x.successor.unsigned.text)
    else .ok x.text

def positionTest (n : Value) : Outcome String :=
  match n with
  | .int n => intPosition n (Value.written n)
  | .bool b => intPosition (if b then 1 else 0) (Value.bool b).inspect
  | .float x => floatPosition x
  | _ => .error .wrongType

def pick (l : Locator) (n : Value) : Outcome Locator := do
  let test ← positionTest n
  let path ← l.pathText
  return ofPath ("(" ++ path ++ ")[position()=" ++ test ++ "]")

def attributeTests : List (Value × Value) → Outcome (List String)
  | [] => .ok []
  | (name, value) :: rest => do
    let name ← name.display
    let literal ← XPath.quoteValue value
    let others ← attributeTests rest
    return ("@" ++ name ++ " = " ++ literal) :: others

def extend (filters : List Filter) (l : Locator) (opening closing : String) (inner : Value) :
    Outcome Locator := do
  let path ← l.pathText
  let sub ← subSelector filters inner
  return ofPath (path ++ opening ++ sub ++ closing)

def refine (filters : List Filter) (l : Locator) : Refinement → Outcome Locator
  | .alternative other => do
    let other ← classified filters other
    let first ← l.toPath
    let second ← other.toPath
    return ofPath (XPath.union [← textOnly first, ← textOnly second])
  | .find inner => l.extend filters "//" "" inner
  | .withChild inner => l.extend filters "[./child::" "]" inner
  | .withDescendant inner => l.extend filters "[./descendant::" "]" inner
  | .position n => l.pick n
  | .first => l.pick (.int 1)
  | .last => l.pick (.int (-1))
  | .withText text => do
    let path ← l.pathText
    let literal ← XPath.quoteValue text
    return ofPath (path ++ "[contains(., " ++ literal ++ ")]")
  | .withAttributes attributes =>
    match attributes with
    | .dict entries => do
      let tests ← attributeTests entries
      let path ← l.pathText
      return ofPath (path ++ "[" ++ " and ".intercalate tests ++ "]")
    | _ => .error .missingAttribute
  | .inside outer => l.extend filters "[ancestor::" "]" outer
  | .after sibling => l.extend filters "[preceding-sibling::" "]" sibling
  | .before sibling => l.extend filters "[following-sibling::" "]" sibling
  | .named output => .ok { l with output := output }

theorem toPath_ofPath (path : String) : (ofPath path).toPath = .ok (.text path) := by
  simp [toPath, ofPath, make]

theorem pathText_ofPath (path : String) : (ofPath path).pathText = .ok path := by
  simp [pathText, toPath_ofPath, bind, Except.bind]

end LocatorOf

end ElementSearch
