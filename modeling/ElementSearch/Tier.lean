import ElementSearch.Locator.Query
import ElementSearch.Text.Grammar
import ElementSearch.Tier.Pattern

/-! Tiers.
A fuzzy text is looked for tier after tier, exact structure first, attributes next, and the text
itself as a selector last; the first tier that finds anything ends the search.  The call site
states the family of elements it is looking for.  Every other locator has one tier. -/

namespace ElementSearch

inductive Family where
  | element
  | clickable
  | checkable
  | field
deriving DecidableEq

namespace Family

def label : Family → String
  | element => "element"
  | clickable => "clickable"
  | checkable => "checkable"
  | field => "field"

def all : List Family := [element, clickable, checkable, field]

def ofLabel? (text : String) : Option Family := all.find? fun family => family.label == text

end Family

structure Tier where
  position : Int
  name : String
  query : Query
  /-- a failure on this tier is no failure of the search -/
  bestEffort : Bool

namespace Tier

def ofPath (position : Int) (name path : String) : Tier := ⟨position, name, ⟨"xpath", path⟩, false⟩

def ofSelector (position : Int) (name : String) (selector : String) : Tier :=
  ⟨position, name, ⟨"css", selector⟩, false⟩

section PlainPath

open Grammar

def plainName : Grammar :=
  both (set .letter) (many (set (.wordOr ['.', '-'])))

def plainPath : Grammar :=
  both plainName (many (sequence [one '/', optional (one '/'), plainName]))

end PlainPath

/-- The text itself as a selector, and as a path if it is a plain one. -/
def rawTiers (raw : String) (position : Int) : List Tier :=
  ofSelector position "raw" raw ::
    if Grammar.accepts plainPath raw.toList then [ofPath position "raw" (".//" ++ raw)] else []

def clickableTiers (literal raw : String) : List Tier :=
  [ofPath 1 "narrow" (clickableNarrow.fill literal),
    ofPath 2 "wide" (clickableWide.fill literal),
    { ofPath 3 "self" (clickableSelf.fill literal) with bestEffort := true }] ++ rawTiers raw 4

def checkableTiers (literal raw : String) : List Tier :=
  [ofPath 1 "byText" (checkableByText.fill literal),
    ofPath 2 "byName" (checkableByName.fill literal)] ++ rawTiers raw 3

/-- The text as a selector of HTML, restricted to fields; a text that is no selector is left to
the driver. -/
def fieldRaw (raw : String) : Outcome Tier :=
  match Css.toPath .html raw with
  | .ok path => .ok (ofPath 4 "raw" ("(" ++ path ++ ")" ++ notExcluded))
  | .error (.unsupported _) => .ok (ofSelector 4 "raw" raw)
  | .error .longNumber => .error Fault.longNumber
  | .error .noLanguage => .error (.expectation "")
  | .error .namelessGeneric => .error .wrongType
  | .error .namelessHtml => .error .missingAttribute

def fieldTiers (literal raw : String) : Outcome (List Tier) := do
  let last ← fieldRaw raw
  return [ofPath 1 "labelEquals" (fieldLabelEquals.fill literal),
    ofPath 2 "labelContains" (fieldLabelContains.fill literal),
    ofPath 3 "byName" (fieldByName.fill literal), last]

/-- The tiers of one option of a list, which is trimmed first. -/
def optionTiers (option : Value) : Outcome (List Tier) := do
  let literal := XPath.quote (Blank.strip (← option.display))
  return [ofPath 1 "byVisibleText" (optionByVisibleText.fill literal),
    ofPath 2 "byValue" (optionByValue.fill literal)]

def familyTiers (family : Family) (raw : String) : Outcome (List Tier) :=
  let literal := XPath.quote raw
  match family with
  | .element => .ok (rawTiers raw 1)
  | .clickable => .ok (clickableTiers literal raw)
  | .checkable => .ok (checkableTiers literal raw)
  | .field => fieldTiers literal raw

/-- All that would be asked for a locator, in order. -/
def tiersOf (l : Locator) (family : Family) : Outcome (List Tier) :=
  match l.kind with
  | .unknown => .ok []
  | .fuzzy => do familyTiers family (← l.value.display)
  | kind => do
    let query ← l.toQuery
    return [⟨1, kind.label, query, false⟩]

theorem tiersOf_unknown {l : Locator} (h : l.kind = .unknown) (family : Family) :
    tiersOf l family = .ok [] := by
  simp [tiersOf, h]

end Tier

end ElementSearch
