import ElementSearch.Css.Token
import ElementSearch.Text.LetterCase

/-! Selectors.
A compound selector grows from an element by further conditions, and combinators join compound
selectors.  `parse` reads a list of selectors; it looks at one token after the other, so a
mistake of the author wins over a defect of a later token. -/

namespace ElementSearch.Css

inductive Combinator where
  | descendant
  | child
  | adjacent
  | sibling
deriving DecidableEq

inductive Comparison where
  | equals
  | includes
  | dash
  | starts
  | finishes
  | contains
  | differs
deriving DecidableEq

/-- A test on an attribute; a missing comparison asks only that the attribute is there. -/
structure AttributeTest where
  space : Option String
  name : Option String
  test : Option (Comparison × String)
  ignoreCase : Bool

inductive Selector where
  | element (space name : Option String)
  | hash (base : Selector) (id : String)
  | cls (base : Selector) (name : String)
  | attrib (base : Selector) (test : AttributeTest)
  | pseudo (base : Selector) (name : String)
  | function (base : Selector) (name : String) (arguments : List Token)
  | negation (base : Selector) (inner : Selector)
  | relation (base : Selector) (inner : List (Combinator × Selector))
  | matching (base : Selector) (inner : List Selector)
  | combined (left : Selector) (combinator : Combinator) (right : Selector)

/-- A selector, and whether a pseudo-element ends it. -/
structure Chosen where
  selector : Selector
  pseudoElement : Bool

/-- What has been read, latest first, and what is left. -/
structure Stream where
  used : List Token
  rest : List Lexeme

abbrev Parse := StateT Stream (Except String)

namespace Parse

def fail {α : Type} (message : String) : Parse α := fun _ => .error message

def peek : Parse Token := fun s =>
  match s.rest with
  | .token t :: _ => .ok (t, s)
  | .defect message :: _ => .error message
  | [] => .error "Nothing left"

def next : Parse Token := fun s =>
  match s.rest with
  | .token t :: rest => .ok (t, ⟨t :: s.used, rest⟩)
  | .defect message :: _ => .error message
  | [] => .error "Nothing left"

def usedSize : Parse Nat := fun s => .ok (s.used.length, s)

def usedTokens : Parse (List Token) := fun s => .ok (s.used, s)

/-- Skipping looks at the lexeme behind the white space, so a defect there shows at once. -/
def passBlanks (used : List Token) : List Lexeme → Except String Stream
  | .token t :: rest =>
    if t.kind = .space then passBlanks (t :: used) rest else .ok ⟨used, .token t :: rest⟩
  | .defect message :: _ => .error message
  | [] => .ok ⟨used, []⟩

def skipBlanks : Parse Unit := fun s => (passBlanks s.used s.rest).map fun after => ((), after)

end Parse

open Parse

def isDelim (t : Token) (s : String) : Bool := t.isDelim [s]

def nextIdent : Parse String := do
  let t ← next
  if t.kind = .ident then return t.value else fail ("Expected ident, got " ++ t.shown)

def nextIdentOrStar : Parse (Option String) := do
  let t ← next
  if t.kind = .ident then return some t.value
  else if isDelim t "*" then return none
  else fail ("Expected ident or '*', got " ++ t.shown)

def combinatorOf (t : Token) : Combinator :=
  if t.value = "+" then .adjacent else if t.value = "~" then .sibling else .child

def comparisonOf (sign : String) : Comparison :=
  if sign = "^" then .starts
  else if sign = "$" then .finishes
  else if sign = "*" then .contains
  else if sign = "~" then .includes
  else if sign = "|" then .dash
  else .differs

def parseComparison : Parse (Option Comparison) := do
  skipBlanks
  let t ← next
  if isDelim t "]" then return none
  else if isDelim t "=" then return some .equals
  else if t.isDelim ["^", "$", "*", "~", "|", "!"] then
    let u ← peek
    if isDelim u "=" then
      let _ ← next
      return some (comparisonOf t.value)
    else fail ("Operator expected, got " ++ t.shown)
  else fail ("Operator expected, got " ++ t.shown)

def closeBracket (t : Token) : Parse Unit :=
  if isDelim t "]" then return () else fail ("Expected ']', got " ++ t.shown)

def parseValue (space name : Option String) (comparison : Comparison) : Parse AttributeTest := do
  skipBlanks
  let value ← next
  if value.kind = .ident || value.kind = .string then
    skipBlanks
    let t ← next
    if t.kind = .ident then
      let flag := LetterCase.asciiLower t.value
      if flag = "i" || flag = "s" then
        skipBlanks
        closeBracket (← next)
        return ⟨space, name, some (comparison, value.value), flag = "i"⟩
      else fail ("Expected ']', got " ++ t.shown)
    else
      closeBracket t
      return ⟨space, name, some (comparison, value.value), false⟩
  else fail ("Expected string or ident, got " ++ value.shown)

def finishAttribute (space name : Option String) : Parse AttributeTest := do
  match ← parseComparison with
  | none => return ⟨space, name, none, false⟩
  | some comparison => parseValue space name comparison

def parseAttribute : Parse AttributeTest := do
  skipBlanks
  if isDelim (← peek) "|" then
    let _ ← next
    let name ← nextIdent
    finishAttribute none (some name)
  else
    let first ← nextIdentOrStar
    let t ← peek
    if isDelim t "|" then
      let _ ← next
      if isDelim (← peek) "=" then
        let _ ← next
        parseValue none first .dash
      else
        let name ← nextIdent
        finishAttribute (some (first.getD "*")) (some name)
    else match first with
      | none => fail ("Expected '|', got " ++ t.shown)
      | some name => finishAttribute none (some name)

def parseArguments : Nat → Parse (List Token)
  | 0 => fail "Nothing left"
  | fuel + 1 => do
    skipBlanks
    let t ← next
    if t.kind = .ident || t.kind = .string || t.kind = .number || t.isDelim ["+", "-"] then
      return t :: (← parseArguments fuel)
    else if isDelim t ")" then return []
    else fail ("Expected an argument, got " ++ t.shown)

def shownTexts (ts : List Token) : String :=
  "[" ++ ", ".intercalate (ts.map fun t => Quoted.quote t.value) ++ "]"

def functionalPseudoElement (name : String) (arguments : List Token) : String :=
  "FunctionalPseudoElement[::" ++ LetterCase.asciiLower name ++ "(" ++ shownTexts arguments ++ ")]"

def oldPseudoElements : List String := ["first-line", "first-letter", "before", "after"]

/-- Where a compound selector stands. -/
structure Place where
  inNegation : Bool
  inList : Bool

def notAtEnd {α : Type} (name : String) : Parse α :=
  fail ("Got pseudo-element ::" ++ name ++ " not at the end of a selector")

def parseElement : Parse (Option String × Option String) := do
  let t ← peek
  if t.kind = .ident || isDelim t "*" then
    let _ ← next
    let first := if t.kind = .ident then some t.value else none
    if isDelim (← peek) "|" then
      let _ ← next
      let name ← nextIdentOrStar
      return (some (first.getD "*"), name)
    else return (none, if first = some "*" then none else first)
  else return (none, none)

/-- `:scope` may stand only at the start of a selector. -/
def checkScope (place : Place) (before : List Token) : Parse Unit :=
  match before.dropWhile fun t => t.kind = .space with
  | [] => if place.inList then refuse else return ()
  | t :: _ => if place.inList || !isDelim t "," then refuse else return ()
where
  refuse : Parse Unit := fail "Got pseudo-class \":scope\" not at the start of a selector"

mutual

def parseCompound (place : Place) : Nat → Parse (Selector × Option String)
  | 0 => fail "Nothing left"
  | fuel + 1 => do
    skipBlanks
    let before ← usedTokens
    let (space, name) ← parseElement
    let (selector, pseudoElement) ← parseParts place before (.element space name) none fuel
    let now ← usedSize
    if now = before.length then fail ("Expected selector, got " ++ (← peek).shown)
    else return (selector, pseudoElement)

def parseParts (place : Place) (before : List Token) (base : Selector) (ending : Option String) :
    Nat → Parse (Selector × Option String)
  | 0 => fail "Nothing left"
  | fuel + 1 => do
    let t ← peek
    if t.kind = .space || t.kind = .finish || t.isDelim [",", "+", ">", "~", ")"] then
      return (base, ending)
    else match ending with
    | some name => notAtEnd name
    | none =>
      if t.kind = .hash then
        let _ ← next
        parseParts place before (.hash base t.value) none fuel
      else if isDelim t "." then
        let _ ← next
        parseParts place before (.cls base (← nextIdent)) none fuel
      else if isDelim t "|" then
        let now ← usedSize
        if now = before.length then
          let _ ← next
          parseParts place before (.element none (← nextIdentOrStar)) none fuel
        else fail ("Expected selector, got " ++ t.shown)
      else if isDelim t "[" then
        let _ ← next
        parseParts place before (.attrib base (← parseAttribute)) none fuel
      else if isDelim t ":" then
        let _ ← next
        let (selector, pseudoElement) ← parsePseudo place before base fuel
        parseParts place before selector pseudoElement fuel
      else fail ("Expected selector, got " ++ t.shown)

def parsePseudo (place : Place) (before : List Token) (base : Selector) :
    Nat → Parse (Selector × Option String)
  | 0 => fail "Nothing left"
  | fuel + 1 => do
    if isDelim (← peek) ":" then
      let _ ← next
      let name ← nextIdent
      if isDelim (← peek) "(" then
        let _ ← next
        return (base, some (functionalPseudoElement name (← parseArguments fuel)))
      else return (base, some name)
    else
      let ident ← nextIdent
      let low := LetterCase.lower ident
      if oldPseudoElements.contains low then return (base, some ident)
      else if !isDelim (← peek) "(" then
        let name := LetterCase.asciiLower ident
        if name = "scope" then checkScope place before
        return (.pseudo base name, none)
      else
        let _ ← next
        skipBlanks
        if low = "not" then
          if place.inList then
            fail ":not() is not supported inside :is(), :where() and :matches()"
          else if place.inNegation then fail "Got nested :not()"
          else
            let (inner, pseudoElement) ← parseCompound ⟨true, false⟩ fuel
            return (.negation base (← parseNegated inner pseudoElement fuel), none)
        else if low = "has" then return (.relation base (← parseRelative fuel), none)
        else if low = "matches" || low = "is" || low = "where" then
          return (.matching base (← parseOptions fuel), none)
        else
          return (.function base (LetterCase.asciiLower ident) (← parseArguments fuel), none)

def parseNegated (selector : Selector) (ending : Option String) : Nat → Parse Selector
  | 0 => fail "Nothing left"
  | fuel + 1 => do
    skipBlanks
    let t ← peek
    match ending with
    | some name =>
      fail ("Got pseudo-element ::" ++ name ++ " inside :not() at " ++ toString t.pos)
    | none =>
      if isDelim t ")" then
        let _ ← next
        return selector
      else if t.kind = .finish || isDelim t "," then fail ("Expected ')', got " ++ t.shown)
      else
        let combinator ← parseCombinator t
        let (right, pseudoElement) ← parseCompound ⟨true, false⟩ fuel
        parseNegated (.combined selector combinator right) pseudoElement fuel

/-- A combinator if the token is one, and white space as a combinator otherwise. -/
def parseCombinator (t : Token) : Parse Combinator := do
  if t.isDelim ["+", ">", "~"] then
    let _ ← next
    skipBlanks
    return combinatorOf t
  else return .descendant

/-- The selectors of `:has`, each with the combinator in front of it. -/
def parseRelative : Nat → Parse (List (Combinator × Selector))
  | 0 => fail "Nothing left"
  | fuel + 1 => do
    skipBlanks
    let combinator ← parseCombinator (← peek)
    let (first, pseudoElement) ← parseCompound ⟨false, false⟩ fuel
    let selector ← parseRelated first pseudoElement fuel
    if isDelim (← next) ")" then return [(combinator, selector)]
    else return (combinator, selector) :: (← parseRelative fuel)

def parseRelated (selector : Selector) (ending : Option String) : Nat → Parse Selector
  | 0 => fail "Nothing left"
  | fuel + 1 => do
    match ending with
    | some name => fail ("Got pseudo-element ::" ++ name ++ " inside function")
    | none =>
      skipBlanks
      let t ← peek
      if t.isDelim [",", ")"] then return selector
      else if t.kind = .finish then fail ("Expected ')', got " ++ t.shown)
      else
        let combinator ← parseCombinator t
        let (right, pseudoElement) ← parseCompound ⟨false, false⟩ fuel
        parseRelated (.combined selector combinator right) pseudoElement fuel

def parseOptions : Nat → Parse (List Selector)
  | 0 => fail "Nothing left"
  | fuel + 1 => do
    let (selector, ending) ← parseCompound ⟨false, true⟩ fuel
    match ending with
    | some name => fail ("Got pseudo-element ::" ++ name ++ " inside function")
    | none =>
      skipBlanks
      let t ← next
      if isDelim t "," then
        skipBlanks
        return selector :: (← parseOptions fuel)
      else if isDelim t ")" then return [selector]
      else fail ("Expected an argument, got " ++ t.shown)

end

def parseChain (left : Selector) (ending : Option String) : Nat → Parse Chosen
  | 0 => fail "Nothing left"
  | fuel + 1 => do
    skipBlanks
    let t ← peek
    if t.kind = .finish || isDelim t "," then return ⟨left, ending.isSome⟩
    else match ending with
    | some name => notAtEnd name
    | none =>
      let combinator ← parseCombinator t
      let (right, pseudoElement) ← parseCompound ⟨false, false⟩ fuel
      parseChain (.combined left combinator right) pseudoElement fuel

def parseGroup : Nat → Parse (List Chosen)
  | 0 => fail "Nothing left"
  | fuel + 1 => do
    let (first, ending) ← parseCompound ⟨false, false⟩ fuel
    let chosen ← parseChain first ending fuel
    if isDelim (← peek) "," then
      let _ ← next
      skipBlanks
      return chosen :: (← parseGroup fuel)
    else return [chosen]

/-- Every call that does not end at once is followed by a token within five calls. -/
def enough (lexemes : List Lexeme) : Nat := 5 * lexemes.length + 5

def parse (text : String) : Except String (List Chosen) := do
  let lexemes := lex text
  let fuel := enough lexemes
  let (group, _) ← (do skipBlanks; parseGroup fuel : Parse (List Chosen)).run ⟨[], lexemes⟩
  return group

end ElementSearch.Css
