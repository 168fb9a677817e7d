import ElementSearch.Css.Pseudo

/-! The XPath form of a selector.
Combinators join the steps of compound selectors along an axis.  Inside `:not` a selector is a
condition instead: what an element must satisfy to match, with the axes followed backwards. -/

namespace ElementSearch.Css

def combineSteps (left : Step) (combinator : Combinator) (right : Step) : Step :=
  match combinator with
  | .descendant =>
    if right.element = "*" && right.condition.isEmpty && right.path.isEmpty then
      left.join "/descendant-or-self::*/" right
    else left.join "/descendant::" right
  | .child => left.join "/" right
  | .adjacent => (left.join "/following-sibling::" right).nameTest.require "position() = 1"
  | .sibling => left.join "/following-sibling::" right

/-- The axis that leads from a match of the right side back to the left side. -/
def reverseAxis : Combinator → String
  | .descendant => "ancestor::*"
  | .child => "parent::*"
  | .adjacent => "preceding-sibling::*[1]"
  | .sibling => "preceding-sibling::*"

def relatedPath (combinator : Combinator) (s : Step) : String :=
  match combinator with
  | .descendant => "descendant::" ++ s.text
  | .child => "./" ++ s.text
  | .adjacent =>
    let s := if s.path.isEmpty then { s with element := "self::" ++ s.element }
      else { s with path := "self::" ++ s.path }
    "following-sibling::*[1]/" ++ s.text
  | .sibling => "following-sibling::" ++ s.text

/-- The condition under which an element matches the step; `none` if every element does. -/
def Step.test (s : Step) : Option String :=
  let condition := s.nameTest.condition
  if condition.isEmpty then none else some condition

/-- A selector as a step and as a condition. -/
structure Meaning where
  step : Step
  test : Option String

def Meaning.ofStep (s : Step) : Meaning := ⟨s, s.test⟩

def Meaning.combine (left : Meaning) (combinator : Combinator) (right : Meaning) : Meaning :=
  let axis := match left.test with
    | none => reverseAxis combinator
    | some condition => reverseAxis combinator ++ "[" ++ condition ++ "]"
  ⟨combineSteps left.step combinator right.step, some (match right.test with
    | none => axis
    | some condition => condition ++ " and " ++ axis)⟩

def Meaning.denied (inner : Meaning) : String :=
  match inner.test with
  | none => "0"
  | some condition => "not(" ++ condition ++ ")"

def alternative (condition further : String) : String :=
  if condition.isEmpty then further else "(" ++ condition ++ ") or (" ++ further ++ ")"

def unknownPseudo (name : String) : Refusal :=
  .unsupported ("The pseudo-class :" ++ name ++ " is unknown")

mutual

def meaning (flavour : Flavour) : Selector → Translated Meaning
  | .element space name => .ok (.ofStep (elementStep flavour space name))
  | .hash base id => do
    let b ← meaning flavour base
    return .ofStep (compareWith b.step .equals "@id" id)
  | .cls base name => do
    let b ← meaning flavour base
    return .ofStep (compareWith b.step .includes "@class" name)
  | .attrib base test => do
    let node ← attributeName flavour test
    let b ← meaning flavour base
    return .ofStep (attributeStep b.step node test)
  | .pseudo base name =>
    match pseudoStep? flavour name with
    | none => .error (unknownPseudo name)
    | some apply => do
      let b ← meaning flavour base
      return .ofStep (← apply b.step)
  | .function base name arguments =>
    match functionStep? flavour name arguments with
    | none => .error (unknownPseudo (name ++ "()"))
    | some apply => do
      let b ← meaning flavour base
      return .ofStep (← apply b.step)
  | .negation base inner => do
    let b ← meaning flavour base
    let i ← meaning flavour inner
    return .ofStep (b.step.require i.denied)
  | .relation base inner => do
    let condition ← relatedCondition flavour "" inner
    let b ← meaning flavour base
    return .ofStep (b.step.require condition)
  | .matching base inner => do
    let b ← meaning flavour base
    return .ofStep (← optionStep flavour b.step "" inner)
  | .combined left combinator right => do
    let l ← meaning flavour left
    let r ← meaning flavour right
    return l.combine combinator r

/-- The condition that one of the selectors stands in its relation to the element. -/
def relatedCondition (flavour : Flavour) (condition : String) :
    List (Combinator × Selector) → Translated String
  | [] => .ok condition
  | (combinator, selector) :: rest => do
    let m ← meaning flavour selector
    relatedCondition flavour (alternative condition (relatedPath combinator m.step)) rest

/-- The step under the condition that one of the options matches; an option that every element
matches ends the search. -/
def optionStep (flavour : Flavour) (s : Step) (condition : String) :
    List Selector → Translated Step
  | [] => .ok (s.require condition)
  | option :: rest => do
    let m ← meaning flavour option
    if m.step.path.isEmpty then
      match m.step.test with
      | none => return s
      | some test => optionStep flavour s (alternative condition test) rest
    else
      .error (.unsupported
        "Combined selectors are not supported inside :is(), :where() and :matches()")

end

def chosenPath (flavour : Flavour) (chosen : Chosen) : Translated String := do
  let m ← meaning flavour chosen.selector
  if chosen.pseudoElement then .error (.unsupported "Pseudo-elements are not supported.")
  else return ".//" ++ m.step.text

/-- The query for everything that one of the listed selectors matches. -/
def toPath (flavour : Flavour) (text : String) : Translated String :=
  match parse text with
  | .error message => .error (.unsupported message)
  | .ok group => do
    let paths ← group.mapM (chosenPath flavour)
    return XPath.union paths

end ElementSearch.Css
