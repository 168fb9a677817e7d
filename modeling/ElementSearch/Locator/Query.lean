import ElementSearch.Css.Escape
import ElementSearch.Css.Path
import ElementSearch.Locator.Classify

/-! What a locator asks of a driver.
Every locator but a frame and one without a kind compiles to one query.  Ids, names and
accessibility labels become selectors with their value escaped; only selectors and XPath have an
XPath form. -/

namespace ElementSearch

/-- A selector language, or an engine, and what to look for in it. -/
structure Query where
  kind : Value
  value : Value

namespace LocatorOf

def isAccessibility (l : Locator) : Bool :=
  l.kind = .custom &&
    match l.engine with
    | .text s => s == accessibilityEngine
    | _ => false

def membersOf (v : Value) : Outcome (List Value) :=
  match v.items? with
  | some items => .ok items
  | none => .error .wrongType

def simplify (l : Locator) : Outcome Value :=
  match l.kind with
  | .unknown => .ok .null
  | .id => do return .text ("#" ++ Css.identifier (← l.value.display))
  | .name => do return .text (Css.attributeEquals "name" (← l.value.display))
  | .shadow => do return .dict [(.text "shadow", .list (← membersOf l.value))]
  | .custom =>
    if l.isAccessibility then do
      return .text (Css.attributeEquals "aria-label" (← l.value.display))
    else .ok l.value
  | _ => .ok l.value

def propTests : List (Value × Value) → Outcome String
  | [] => .ok ""
  | (key, value) :: rest => do
    let key ← key.display
    let value ← value.display
    let others ← propTests rest
    return "[" ++ key ++ " = \"" ++ value ++ "\"]" ++ others

def propSuffix (props : Value) : Outcome String :=
  match props with
  | .dict entries => propTests entries
  | props => if props.isTruthy then .error .missingAttribute else .ok ""

def toQuery (l : Locator) : Outcome Query :=
  match l.kind with
  | .frame => refuse
  | .unknown => refuse
  | .css => do return ⟨"css", ← l.simplify⟩
  | .id => do return ⟨"css", ← l.simplify⟩
  | .name => do return ⟨"css", ← l.simplify⟩
  | .fuzzy => do return ⟨"css", ← l.simplify⟩
  | .xpath => .ok ⟨"xpath", l.value⟩
  | .shadow => do return ⟨"shadow", .tuple (← membersOf l.value)⟩
  | .react => component
  | .vue => component
  | .custom =>
    if l.isAccessibility then do return ⟨"css", ← l.simplify⟩
    else .ok ⟨if l.engine.isTruthy then l.engine else "custom", l.value⟩
where
  refuse : Outcome Query := do
    let shown ← (Value.locator l).display
    .error (Cause.invalidKind l.raw
      (.text ("Locator " ++ shown ++ " can't be executed as a query"))).fault
  component : Outcome Query := do
    let name ← l.value.display
    let tests ← propSuffix l.props
    return ⟨l.kind.label, .text (name ++ tests)⟩

/-- The key under which the locator can be given as an object. -/
def key (l : Locator) : Value :=
  if l.kind = .custom && l.engine.isTruthy then l.engine else .text l.kind.label

/-- The object that stands for the locator; null if it has no kind. -/
def toStrict (l : Locator) : Outcome Value :=
  if l.kind = .unknown then .ok .null
  else if l.key.isHashable then .ok (.dict [(l.key, l.value)])
  else .error .wrongType

def hasSelectorForm (kind : Kind) : Bool := kind = .css || kind = .id || kind = .name

/-- The complaint that a locator has no XPath form, with the reason if there is one. -/
def noPath {α : Type} (l : Locator) (reason : String) : Outcome α := do
  let shown ← (Value.locator l).display
  .error (.badValue ("Can't convert " ++ shown ++ " to XPath" ++ reason))

def pathOfSelector (l : Locator) (selector : Value) : Outcome Value :=
  match selector with
  | .text s =>
    match Css.toPath .generic s with
    | .ok path => .ok (.text path)
    | .error (.unsupported message) => l.noPath (": " ++ message)
    | .error .longNumber => .error Fault.longNumber
    | .error .noLanguage => .error (.expectation "")
    | .error .namelessGeneric => .error .wrongType
    | .error .namelessHtml => .error .missingAttribute
  | _ => .error .wrongType

/-- The XPath form; the value of an XPath locator is given back as it is. -/
def toPath (l : Locator) : Outcome Value :=
  if l.kind = .xpath then .ok l.value
  else if hasSelectorForm l.kind then do
    let selector ← l.simplify
    l.pathOfSelector selector
  else l.noPath ""

theorem simplify_of_css {l : Locator} (h : l.kind = .css) : l.simplify = .ok l.value := by
  simp [simplify, h]

end LocatorOf

end ElementSearch
