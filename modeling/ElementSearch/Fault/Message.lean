import ElementSearch.Value.Document

/-! The wording of failures.
`Cause.describe` builds the sentence from the values of the cause and fails itself when one of
them cannot be displayed; `Cause.fault` is the failure that results. -/

namespace ElementSearch

/-- How a failure names a locator: dictionaries by their JSON text. -/
def Value.rendered (v : Value) : Outcome String :=
  match v with
  | .dict entries => (Value.dict entries).json
  | v => v.display

def defaultRole : String := "Element"

def defaultClause : String := "was not found by text|CSS|XPath"

namespace Cause

def describe : Cause → Outcome String
  | invalidKind locator message => do
    if message.isTruthy then message.display
    else return "Invalid locator kind: " ++ (← locator.rendered)
  | elementNotFound locator role clause => do
    let role ← role.display
    let locator ← locator.rendered
    let clause ← clause.display
    return role ++ " " ++ locator ++ " " ++ clause
  | nestedScope locator active => do
    let locator ← locator.rendered
    let active ← active.rendered
    return "Can't switch to frame " ++ locator ++ " inside element scope " ++ active
  | queryFailed kind value reason => do
    let message := "Failed to execute " ++ (← kind.display) ++ " query " ++ (← value.inspect)
    if reason.isTruthy then return message ++ ": " ++ (← reason.display) else return message
  | other [] => .ok ""
  | other [part] => part.display
  | other parts => (Value.tuple parts).inspect

def fault (cause : Cause) : Fault :=
  match cause.describe with
  | .ok message => .search cause message
  | .error fault => fault

/-- What a failure is about, each value under its role, in the order of the roles' names. -/
def subjects : Cause → List (String × Value)
  | invalidKind locator _ => [("locator", locator)]
  | elementNotFound locator role clause =>
    [("locator", locator), ("prefix", role), ("suffix", clause)]
  | nestedScope locator active => [("active", active), ("locator", locator)]
  | queryFailed kind value reason => [("kind", kind), ("reason", reason), ("value", value)]
  | other _ => []

theorem fault_eq {cause : Cause} {message : String} (h : cause.describe = .ok message) :
    cause.fault = .search cause message := by
  simp [fault, h]

end Cause

namespace Fault

def text : Fault → String
  | search _ message => message
  | badValue message => message
  | expectation message => message
  | lost message => message
  | browser message => message
  | missingKey key => Quoted.quote key
  | _ => ""

end Fault

end ElementSearch
