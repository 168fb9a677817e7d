import ElementSearch.Driver

/-! Looking for elements.
A locator that is not fuzzy is one query, whatever it finds; a fuzzy one goes through the tiers
of its family until one of them finds something.  A search that finds nothing says so with an
empty list and leaves the complaint to its caller. -/

namespace ElementSearch.Lookup

def runQuery (d : Driver) (q : Query) (root : Handle) : Job (List Handle) := do
  return (← d.execute q.kind q.value root).getD []

def displayed (l : Locator) : Job String := ((Value.locator l).display : Outcome String)

/-- What a tier finds; on a tier of best effort a failure is an answer too. -/
def runTier (d : Driver) (t : Tier) (root : Handle) : Job (Outcome (List Handle)) :=
  if t.bestEffort then (runQuery d t.query root).caught
  else do return .ok (← runQuery d t.query root)

def tierLabel (t : Tier) : String := "tier " ++ toString t.position ++ " '" ++ t.name ++ "'"

def searchTiers (d : Driver) (l : Locator) (family : Family) (root : Handle) :
    List Tier → Job (List Handle)
  | [] => do
    Job.log .debug (family.label ++ " " ++ (← displayed l) ++ ": all tiers exhausted")
    return []
  | t :: rest => do
    match ← runTier d t root with
    | .error fault =>
      Job.log .debug ("Ignoring failure of best-effort tier '" ++ t.name ++ "' for " ++
        (← displayed l) ++ ": " ++ fault.text)
      searchTiers d l family root rest
    | .ok [] =>
      Job.log .debug (family.label ++ " " ++ (← displayed l) ++ ": " ++ tierLabel t ++ " empty")
      searchTiers d l family root rest
    | .ok elements =>
      Job.log .debug (family.label ++ " " ++ (← displayed l) ++ " matched " ++
        toString elements.length ++ " element(s) on " ++ tierLabel t)
      return elements

def refuseFrame (l : Locator) : Job (List Handle) := do
  let shown ← displayed l
  throw (Cause.invalidKind l.raw
    (.text ("Frame locator " ++ shown ++ " can only be used to narrow a search"))).fault

def resolveDirectly (d : Driver) (l : Locator) (root : Handle) : Job (List Handle) := do
  let query ← (l.toQuery : Outcome Query)
  let shown ← displayed l
  let kind ← (query.kind.display : Outcome String)
  let value ← (query.value.display : Outcome String)
  Job.log .debug ("Resolving " ++ shown ++ " as " ++ kind ++ ": " ++ value)
  runQuery d query root

def resolveLocator (d : Driver) (l : Locator) (family : Family) (root : Handle) :
    Job (List Handle) :=
  match l.kind with
  | .frame => refuseFrame l
  | .unknown => do
    let raw ← (l.raw.inspect : Outcome String)
    Job.log .debug ("Null locator " ++ raw ++ " matches nothing")
    return []
  | .fuzzy => do
    let tiers ← (Tier.tiersOf l family : Outcome (List Tier))
    searchTiers d l family root tiers
  | _ => resolveDirectly d l root

def resolve (filters : List Filter) (d : Driver) (v : Value) (family : Family) (root : Handle) :
    Job (List Handle) := do
  let l ← (LocatorOf.classify filters .fuzzy false v : Outcome Locator)
  resolveLocator d l family root

structure OptionMatch where
  elements : List Handle
  missing : List String

namespace OptionMatch

def nothing : OptionMatch := ⟨[], []⟩

def found (m : OptionMatch) : Bool := !m.elements.isEmpty

def ofOption (shown : String) (elements : List Handle) : OptionMatch :=
  if elements.isEmpty then ⟨[], [shown]⟩ else ⟨elements, []⟩

def append (m n : OptionMatch) : OptionMatch :=
  ⟨m.elements ++ n.elements, m.missing ++ n.missing⟩

end OptionMatch

def firstAnswer (d : Driver) (root : Handle) : List Tier → Job (List Handle)
  | [] => return []
  | t :: rest => do
    match ← runQuery d t.query root with
    | [] => firstAnswer d root rest
    | elements => return elements

def resolveOption (d : Driver) (select : Handle) (option : Value) : Job OptionMatch := do
  let tiers ← (Tier.optionTiers option : Outcome (List Tier))
  let elements ← firstAnswer d select tiers
  let shown ← (option.display : Outcome String)
  return .ofOption shown elements

def resolveAll (d : Driver) (select : Handle) : List Value → Job OptionMatch
  | [] => return .nothing
  | option :: rest => do
    let first ← resolveOption d select option
    let others ← resolveAll d select rest
    return first.append others

/-- A text is one option; anything else must have members. -/
def optionsOf (options : Value) : Outcome (List Value) :=
  match options with
  | .text s => .ok [.text s]
  | options => LocatorOf.membersOf options

def resolveOptions (d : Driver) (select : Handle) (options : Value) : Job OptionMatch := do
  let options ← (optionsOf options : Outcome (List Value))
  let m ← resolveAll d select options
  if m.found && !m.missing.isEmpty then
    Job.log .warning ("Options found neither by visible text nor by value: " ++
      Value.listed m.missing)
  return m

theorem optionsOf_text (s : String) : optionsOf (.text s) = .ok [.text s] := rfl

end ElementSearch.Lookup
