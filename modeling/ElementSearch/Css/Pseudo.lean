import ElementSearch.Css.Step
import ElementSearch.Decimal.Numeral

/-! Pseudo-classes.
Each adds a condition to a step or is refused.  Links, languages and the state of controls mean
something in HTML only: elsewhere they never hold, save that a language is asked of the
document. -/

namespace ElementSearch.Css

def readSeries (arguments : List Token) : Option (Int × Int) :=
  if arguments.any fun t => t.kind = .string then none
  else
    let joined := String.join (arguments.map Token.value)
    let text := LetterCase.asciiLower (Blank.strip joined)
    if text = "odd" then some (2, 1)
    else if text = "even" then some (2, 0)
    else if text = "n" then some (1, 0)
    else match split 'n' text with
      | (text, none) => (Numeral.read? text).map fun b => (0, b)
      | (a, some b) => do
        let a ← if a.isEmpty then some 1
          else if a = "-" || a = "+" then Numeral.read? (a ++ "1")
          else Numeral.read? a
        let b ← if b.isEmpty then some 0 else Numeral.read? b
        return (a, b)

/-- The condition on the number of siblings before or after, for positions `an + b`. -/
def seriesConditions (count : String) (a b : Int) : List String :=
  let least := b - 1
  let bounds :=
    if a > 0 then
      if least > 0 then [count ++ " >= " ++ toString least] else []
    else [count ++ " <= " ++ toString least]
  if a.natAbs = 1 then bounds
  else
    let shift := (-least) % (a.natAbs : Int)
    let left := if shift = 0 then count else "(" ++ count ++ " +" ++ toString shift ++ ")"
    bounds ++ [left ++ " mod " ++ toString a ++ " = 0"]

def joinConditions : List String → String
  | [only] => only
  | conditions => " and ".intercalate (conditions.map fun c => "(" ++ c ++ ")")

def nthStep (s : Step) (arguments : List Token) (last byName : Bool) : Translated Step :=
  match readSeries arguments with
  | none => .error (.unsupported ("Invalid series: '" ++ Token.shownAll arguments ++ "'"))
  | some (a, b) =>
    let least := b - 1
    if a = 1 && least ≤ 0 then .ok s
    else if a < 0 && least < 0 then .ok (s.require "0")
    else
      let node := if byName then s.element else "*"
      let axis := if last then "following-sibling" else "preceding-sibling"
      let count := "count(" ++ axis ++ "::" ++ node ++ ")"
      if a = 0 then match Numeral.write? least with
        | some shown => .ok (s.require (count ++ " = " ++ shown))
        | none => .error .longNumber
      else .ok (s.require (joinConditions (seriesConditions count a b)))

/-- Counting by type needs an element that is named. -/
def checkNamed (s : Step) (pseudo : String) : Translated Unit :=
  if s.element = "*" || s.element.toList.reverse.take 2 = ['*', ':'] then
    let shown := String.ofList (s.element.toList.map fun c => if c = ':' then '|' else c)
    .error (.unsupported (shown ++ ":" ++ pseudo ++ " is not implemented"))
  else .ok ()

def onlyArgument (name : String) (arguments : List Token) : Translated String :=
  match arguments with
  | [t] =>
    if t.kind = .string || t.kind = .ident then .ok t.value
    else wrong
  | _ => wrong
where
  wrong : Translated String :=
    .error (.unsupported ("Expected a single string or ident for :" ++ name ++ "(), got " ++
      Token.shownAll arguments))

def fieldsetDisables : String :=
  "ancestor::fieldset[@disabled] and not(count(ancestor::legend | " ++
    "ancestor::fieldset[@disabled]/legend[1]) < count(ancestor::legend) + " ++
    "count(ancestor::fieldset[@disabled]/legend[1]))"

def disabledTest : String :=
  "\n        (\n            @disabled and\n            (\n" ++
    "                name(.) = 'input' or\n                name(.) = 'button' or\n" ++
    "                name(.) = 'select' or\n                name(.) = 'textarea' or\n" ++
    "                name(.) = 'fieldset' or\n                name(.) = 'optgroup' or\n" ++
    "                name(.) = 'option'\n            )\n        ) or (\n            (\n" ++
    "                name(.) = 'input' or\n                name(.) = 'button' or\n" ++
    "                name(.) = 'select' or\n                name(.) = 'textarea'\n" ++
    "            )\n            and " ++ fieldsetDisables ++ "\n        ) or (\n" ++
    "            name(.) = 'option' and ancestor::optgroup[@disabled]\n        )\n        "

def enabledTest : String :=
  "\n        (\n            (\n                name(.) = 'fieldset' or\n" ++
    "                name(.) = 'optgroup'\n            )\n            and not(@disabled)\n" ++
    "        ) or (\n            (\n                name(.) = 'input' or\n" ++
    "                name(.) = 'button' or\n                name(.) = 'select' or\n" ++
    "                name(.) = 'textarea'\n            )\n" ++
    "            and not(@disabled) and not(" ++ fieldsetDisables ++ ")\n        ) or (\n" ++
    "            name(.) = 'option' and not(\n" ++
    "                @disabled or ancestor::optgroup[@disabled]\n            )\n" ++
    "        )\n        "

def checkedTest : String :=
  "(@selected and name(.) = 'option') or (@checked and (name(.) = 'input' or " ++
    "name(.) = 'command')and (@type = 'checkbox' or @type = 'radio'))"

def linkTest : String := "@href and (name(.) = 'a' or name(.) = 'link' or name(.) = 'area')"

def languageTest (value : String) : String :=
  "ancestor-or-self::*[@lang][1][starts-with(concat(translate(@lang, '" ++ capitals ++ "', '" ++
    smallLetters ++ "'), '-'), " ++ literal (LetterCase.lower value ++ "-") ++ ")]"

/-- Hyphens and underscores in the names of pseudo-classes are the same. -/
def pseudoKey (name : String) : String :=
  String.ofList (name.toList.map fun c => if c = '_' then '-' else c)

def siblingCount (axis node : String) : String :=
  "count(" ++ axis ++ "-sibling::" ++ node ++ ") = 0"

def pseudoStep? (flavour : Flavour) (name : String) : Option (Step → Translated Step) :=
  let always (condition : String) : Option (Step → Translated Step) :=
    some fun s => .ok (s.require condition)
  let typed (pseudo : String) (condition : String → String) : Option (Step → Translated Step) :=
    some fun s => do
      checkNamed s pseudo
      return s.require (condition s.element)
  match pseudoKey name with
  | "root" => always "not(parent::*)"
  | "scope" => some fun s => .ok (s.nameTest.require "position() = 1")
  | "first-child" => always (siblingCount "preceding" "*")
  | "last-child" => always (siblingCount "following" "*")
  | "first-of-type" => typed "first-of-type" (siblingCount "preceding")
  | "last-of-type" => typed "last-of-type" (siblingCount "following")
  | "only-child" =>
    always (siblingCount "preceding" "*" ++ " and " ++ siblingCount "following" "*")
  | "only-of-type" =>
    typed "only-of-type" fun node =>
      siblingCount "preceding" node ++ " and " ++ siblingCount "following" node
  | "empty" => always "not(*) and not(string-length())"
  | "link" => always (if flavour = .html then linkTest else "0")
  | "checked" => always (if flavour = .html then checkedTest else "0")
  | "enabled" => always (if flavour = .html then enabledTest else "0")
  | "disabled" => always (if flavour = .html then disabledTest else "0")
  | "visited" => always "0"
  | "hover" => always "0"
  | "active" => always "0"
  | "focus" => always "0"
  | "target" => always "0"
  | _ => none

def functionStep? (flavour : Flavour) (name : String) (arguments : List Token) :
    Option (Step → Translated Step) :=
  match pseudoKey name with
  | "nth-child" => some fun s => nthStep s arguments false false
  | "nth-last-child" => some fun s => nthStep s arguments true false
  | "nth-of-type" => some fun s => do
    checkNamed s "nth-of-type()"
    nthStep s arguments false true
  | "nth-last-of-type" => some fun s => do
    checkNamed s "nth-last-of-type()"
    nthStep s arguments true true
  | "contains" => some fun s => do
    let value ← onlyArgument "contains" arguments
    return s.require ("contains(., " ++ literal value ++ ")")
  | "lang" => some fun s => do
    let value ← onlyArgument "lang" arguments
    if flavour = .generic then return s.require ("lang(" ++ literal value ++ ")")
    else if value.isEmpty then .error .noLanguage
    else return s.require (languageTest value)
  | _ => none

end ElementSearch.Css
