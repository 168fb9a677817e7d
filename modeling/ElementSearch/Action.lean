import ElementSearch.Scope

/-! Actions on elements.
An action looks for an element of its family and does one thing to it.  A search that found
nothing is worded by the action, and what was asked for goes into the report.  No action changes
the context. -/

namespace ElementSearch

inductive Action where
  | click (locator context : Value)
  | doubleClick (locator context : Value)
  | rightClick (locator context : Value)
  | fillField (field value : Value)
  | clearField (field : Value)
  | checkOption (field context : Value)
  | uncheckOption (field context : Value)
  | selectOption (select option : Value)
  | seeElement (locator : Value)
  | dontSeeElement (locator : Value)
  | countVisible (locator : Value)

structure Actor where
  filters : List Filter
  driver : Driver
  /-- how long the browser waits for an interaction, in milliseconds -/
  timeout : Int

namespace Actor

def optionClause : String := "was not found neither by a visible text nor by a value"

def shown (v : Value) : Job String := (v.display : Outcome String)

def classified (actor : Actor) (v : Value) : Job Locator :=
  (LocatorOf.classify actor.filters .fuzzy false v : Outcome Locator)

/-- Where to search: the context's root, narrowed further if a locator says to what. -/
def searchRoot (actor : Actor) (c : Context) (narrowing : Value) : Job Handle :=
  if narrowing.isNull then return c.root
  else do
    let l ← (Scope.checkNesting actor.filters c narrowing : Outcome Locator)
    Scope.narrowTo actor.driver l c.root

def complain {α : Type} (actor : Actor) (locator : Value) (family : Family) (role : String)
    (clause : String) : Job α := do
  let l ← actor.classified locator
  let name ← Lookup.displayed l
  Job.log .warning (role ++ " " ++ name ++ " not found (" ++ family.label ++ ")")
  let tiers ← (Tier.tiersOf l family : Outcome (List Tier))
  Job.log .debug (Attachment.attemptsMessage name family.label tiers.length)
  let attachment ← (Attachment.ofAttempts name family.label tiers : Outcome Attachment)
  Job.attach attachment
  throw (Cause.elementNotFound locator (.text role) (.text clause)).fault

def findOrFail (actor : Actor) (c : Context) (locator : Value) (family : Family)
    (role : String) (narrowing : Value) (clause : String) : Job (Handle × List Handle) := do
  let root ← actor.searchRoot c narrowing
  match ← Lookup.resolve actor.filters actor.driver locator family root with
  | [] => actor.complain locator family role clause
  | first :: others => return (first, others)

def visible (elements : List Handle) : Job (List Handle) := elements.filterM Job.isVisible

/-- The only element; of several the first that is visible, or else the first. -/
def firstVisible (first : Handle) (others : List Handle) : Job Handle :=
  match others with
  | [] => return first
  | _ => do return (← visible (first :: others)).headD first

def clickableClause (actor : Actor) (narrowing : Value) : Job String :=
  if narrowing.isNull then return defaultClause
  else do
    let l ← (Scope.classify actor.filters narrowing : Outcome Locator)
    return "was not found inside element " ++ (← Lookup.displayed l)

def clickable (actor : Actor) (c : Context) (locator narrowing : Value) : Job Handle := do
  let clause ← actor.clickableClause narrowing
  let (first, others) ←
    actor.findOrFail c locator .clickable "Clickable element" narrowing clause
  firstVisible first others

def checkable (actor : Actor) (c : Context) (field narrowing : Value) : Job Handle := do
  let (first, _) ←
    actor.findOrFail c field .checkable "Checkbox or radio" narrowing defaultClause
  return first

def field (actor : Actor) (c : Context) (locator : Value) (role : String) : Job Handle := do
  let (first, _) ← actor.findOrFail c locator .field role .null defaultClause
  return first

def timeoutOption (actor : Actor) : String × Value := ("timeout", .int actor.timeout)

def touch (actor : Actor) (element : Handle) (verb : Verb) : Job Unit :=
  Job.gesture ⟨element, verb, [], [actor.timeoutOption]⟩

def occursIn (part : List Char) : List Char → Bool
  | [] => part.isEmpty
  | c :: rest => part.isPrefixOf (c :: rest) || occursIn part rest

def isSecret (fieldShown : String) : Bool :=
  occursIn "password".toList (LetterCase.lower fieldShown).toList

/-- A value as a step title shows it; that of a password field as stars. -/
def titleValue (fieldShown : String) (v : Value) : Job String := do
  let text ← shown v
  if isSecret fieldShown then return String.ofList (List.replicate text.length '*')
  else return text

def fillField (actor : Actor) (c : Context) (locator value : Value) : Job Unit := do
  let name ← shown locator
  let masked ← titleValue name value
  Job.titled ("Fill " ++ name ++ ": " ++ masked) do
    let element ← actor.field c locator "Field"
    let text ← shown value
    Job.gesture ⟨element, .fill, [.text text], [actor.timeoutOption]⟩

def optionsText (option : Value) : Outcome String :=
  match option with
  | .text s => .ok s
  | option => do
    let members ← LocatorOf.membersOf option
    let shown ← members.mapM Value.display
    return Value.join shown

def missingOption {α : Type} (select option : Value) : Job α := do
  let options ← (optionsText option : Outcome String)
  throw (Cause.elementNotFound select (.text ("Option \"" ++ options ++ "\" in"))
    (.text optionClause)).fault

def chooseOptions (actor : Actor) (c : Context) (select option : Value) : Job Unit := do
  let element ← actor.field c select "Selectable field"
  let found ← Lookup.resolveOptions actor.driver element option
  if found.found then
    let values ← found.elements.mapM Job.optionValue
    let written ← ((Value.list values).inspect : Outcome String)
    let name ← shown select
    Job.log .debug ("Selecting values " ++ written ++ " in " ++ name)
    Job.gesture ⟨element, .selectOption, [], [actor.timeoutOption, ("value", .list values)]⟩
  else missingOption select option

def countVisible (actor : Actor) (c : Context) (locator : Value) : Job Nat := do
  let elements ← Lookup.resolve actor.filters actor.driver locator .element c.root
  return (← visible elements).length

def disappoint (actor : Actor) (locator : Value) (complaint : String) : Job Unit := do
  let l ← actor.classified locator
  throw (.expectation ("Element " ++ (← Lookup.displayed l) ++ " " ++ complaint))

def seeElement (actor : Actor) (c : Context) (locator : Value) : Job Unit := do
  if (← actor.countVisible c locator) = 0 then actor.disappoint locator "is not visible"

def dontSeeElement (actor : Actor) (c : Context) (locator : Value) : Job Unit := do
  if (← actor.countVisible c locator) > 0 then actor.disappoint locator "is still visible"

def titledBy (words : String) (locator : Value) (t : Job Unit) : Job Value := do
  let name ← shown locator
  Job.titled (words ++ name) t
  return .null

def perform (actor : Actor) (c : Context) : Action → Job Value
  | .click locator narrowing => titledBy "Click: " locator do
    actor.touch (← actor.clickable c locator narrowing) .click
  | .doubleClick locator narrowing => titledBy "Double click: " locator do
    actor.touch (← actor.clickable c locator narrowing) .doubleClick
  | .rightClick locator narrowing => titledBy "Right click: " locator do
    let element ← actor.clickable c locator narrowing
    Job.gesture ⟨element, .click, [], [("button", .text "right"), actor.timeoutOption]⟩
  | .fillField locator value => do
    actor.fillField c locator value
    return .null
  | .clearField locator => titledBy "Clear field: " locator do
    actor.touch (← actor.field c locator "Field to clear") .clear
  | .checkOption locator narrowing => titledBy "Check option: " locator do
    actor.touch (← actor.checkable c locator narrowing) .check
  | .uncheckOption locator narrowing => titledBy "Uncheck option: " locator do
    actor.touch (← actor.checkable c locator narrowing) .uncheck
  | .selectOption select option => do
    let options ← shown option
    let name ← shown select
    Job.titled ("Select " ++ options ++ " in " ++ name) (actor.chooseOptions c select option)
    return .null
  | .seeElement locator => titledBy "See element: " locator (actor.seeElement c locator)
  | .dontSeeElement locator =>
    titledBy "Don't see element: " locator (actor.dontSeeElement c locator)
  | .countVisible locator => do return .int (← actor.countVisible c locator)

end Actor

end ElementSearch
