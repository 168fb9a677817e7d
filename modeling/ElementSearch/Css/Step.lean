import ElementSearch.Css.Selector
import ElementSearch.XPath.Literal

/-! Steps of an XPath query.
A step has the path before it, the element it names and a condition on it.  Elements and
attributes whose name XPath cannot spell are named by a condition.  Generic documents keep the
letter case of names; HTML has them in small letters. -/

namespace ElementSearch.Css

inductive Flavour where
  | generic
  | html
deriving DecidableEq

/-- Why a selector has no XPath form. -/
inductive Refusal where
  | unsupported (message : String)
  /-- a number with too many digits to be written -/
  | longNumber
  /-- a language test without a language -/
  | noLanguage
  /-- an attribute test without a name -/
  | namelessGeneric
  | namelessHtml

abbrev Translated := Except Refusal

structure Step where
  path : String
  element : String
  condition : String
deriving DecidableEq

namespace Step

def ofElement (element : String) : Step := ⟨"", element, ""⟩

def text (s : Step) : String :=
  s.path ++ s.element ++ (if s.condition.isEmpty then "" else "[" ++ s.condition ++ "]")

def require (s : Step) (condition : String) : Step :=
  if s.condition.isEmpty then { s with condition := condition }
  else { s with condition := "(" ++ s.condition ++ ") and (" ++ condition ++ ")" }

def join (s : Step) (combiner : String) (other : Step) : Step :=
  let path := s.text ++ combiner
  ⟨if other.path = "*/" then path else path ++ other.path, other.element, other.condition⟩

end Step

def isNameStart (c : Char) : Bool :=
  ('a' ≤ c && c ≤ 'z') || ('A' ≤ c && c ≤ 'Z') || c == '_'

def isSafeChar (c : Char) : Bool := isNameStart c || isDigit c || c == '.' || c == '-'

/-- A name that XPath can spell; one line feed at the end is overlooked. -/
def isSafeName (name : String) : Bool :=
  match name.toList with
  | [] => false
  | c :: rest =>
    isNameStart c &&
      (match rest.dropWhile isSafeChar with
        | [] => true
        | ['\n'] => true
        | _ => false)

/-- No white space inside; one line feed at the end is overlooked. -/
def isOneWord (value : String) : Bool :=
  let cs := value.toList
  match cs.dropWhile fun c => !isBlank c with
  | [] => !cs.isEmpty
  | ['\n'] => cs.length ≥ 2
  | _ => false

def literal (text : String) : String := XPath.quoteRuns text

/-- The text before the first occurrence of `c`, and what follows it if there is one. -/
def split (c : Char) (text : String) : String × Option String :=
  let cs := text.toList
  match cs.dropWhile fun d => d != c with
  | [] => (text, none)
  | _ :: rest => (String.ofList (cs.takeWhile fun d => d != c), some (String.ofList rest))

def Step.nameTest (s : Step) : Step :=
  if s.element = "*" then s
  else
    let (front, local?) := split ':' s.element
    let spelled := isSafeName front && match local? with
      | none => true
      | some name => name = "*" || isSafeName name
    let test := if spelled then "self::" ++ s.element else "name() = " ++ literal s.element
    { s.require test with element := "*" }

def elementStep (flavour : Flavour) (space name : Option String) : Step :=
  match name with
  | none =>
    match space with
    | some "*" => .ofElement "*"
    | some space =>
      let element := space ++ ":*"
      if isSafeName space then .ofElement element
      else { (Step.ofElement element).require ("name() = " ++ literal element) with element := "*" }
    | none => .ofElement "*"
  | some name =>
    let safe := isSafeName name
    let name := if flavour = .html then LetterCase.lower name else name
    match space with
    | some "*" => (Step.ofElement "*").require ("local-name() = " ++ literal name)
    | space =>
      let (element, safe) := match space with
        | some space => (space ++ ":" ++ name, safe && isSafeName space)
        | none => (name, safe)
      if safe then .ofElement element
      else { (Step.ofElement element).require ("name() = " ++ literal element) with element := "*" }

def compareWith (s : Step) (comparison : Comparison) (node value : String) : Step :=
  let whole := literal value
  match comparison with
  | .equals => s.require (node ++ " = " ++ whole)
  | .differs =>
    if value.isEmpty then s.require (node ++ " != " ++ whole)
    else s.require ("not(" ++ node ++ ") or " ++ node ++ " != " ++ whole)
  | .includes =>
    if isOneWord value then
      s.require (node ++ " and contains(" ++ node ++ ", " ++ whole ++
        ") and contains(concat(' ', normalize-space(" ++ node ++ "), ' '), " ++
        literal (" " ++ value ++ " ") ++ ")")
    else s.require "0"
  | .dash =>
    s.require (node ++ " and (" ++ node ++ " = " ++ whole ++ " or starts-with(" ++
      node ++ ", " ++ literal (value ++ "-") ++ "))")
  | .starts =>
    if value.isEmpty then s.require "0"
    else s.require (node ++ " and starts-with(" ++ node ++ ", " ++ whole ++ ")")
  | .finishes =>
    if value.isEmpty then s.require "0"
    else s.require (node ++ " and substring(" ++ node ++ ", string-length(" ++
      node ++ ")-" ++ toString (value.length - 1) ++ ") = " ++ whole)
  | .contains =>
    if value.isEmpty then s.require "0"
    else s.require (node ++ " and contains(" ++ node ++ ", " ++ whole ++ ")")

def attributeName (flavour : Flavour) (test : AttributeTest) : Translated String :=
  match test.name with
  | none => .error (if flavour = .html then .namelessHtml else .namelessGeneric)
  | some name =>
    let name := if flavour = .html then LetterCase.lower name else name
    match test.space with
    | some "*" => .ok ("attribute::*[local-name() = " ++ literal name ++ "]")
    | space =>
      let safe := isSafeName name
      let (name, safe) := match space with
        | some space => (space ++ ":" ++ name, safe && isSafeName space)
        | none => (name, safe)
      .ok (if safe then "@" ++ name else "attribute::*[name() = " ++ literal name ++ "]")

def capitals : String := "ABCDEFGHIJKLMNOPQRSTUVWXYZ"

def smallLetters : String := "abcdefghijklmnopqrstuvwxyz"

def operands (node : String) (test : AttributeTest) (value : String) : String × String :=
  if test.ignoreCase && !value.isEmpty then
    ("translate(" ++ node ++ ", " ++ literal capitals ++ ", " ++ literal smallLetters ++ ")",
      LetterCase.asciiLower value)
  else (node, value)

def attributeStep (s : Step) (node : String) (test : AttributeTest) : Step :=
  match test.test with
  | none => s.require node
  | some (comparison, value) =>
    let (node, value) := operands node test value
    compareWith s comparison node value

end ElementSearch.Css
