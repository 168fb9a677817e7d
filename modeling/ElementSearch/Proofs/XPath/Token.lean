import ElementSearch.Text.Intervals
import ElementSearch.XPath.Literal

/-! Tokens of XPath 1.0.
A literal runs from a quote to the next quote of the same kind, without escapes; a token takes
every character that can still belong to it; blanks between tokens are skipped.  Which names are
operators is not decided here.  Reading is one step for each character, so that what was read
first never depends on what follows. -/

namespace ElementSearch.XPath

inductive Token where
  | literal (content : List Char)
  | number (digits : List Char)
  /-- a name, or a prefix and a star; that of a variable begins with a dollar -/
  | name (text : List Char)
  | sign (text : List Char)
deriving DecidableEq

/-- Where a name without a colon may begin. -/
def nameStartTable : List (Nat × Nat) :=
  [(65, 90), (95, 95), (97, 122), (192, 214), (216, 246), (248, 767), (880, 893), (895, 8191),
    (8204, 8205), (8304, 8591), (11264, 12271), (12289, 55295), (63744, 64975), (65008, 65533),
    (65536, 983039)]

/-- What else such a name may have: hyphen, dot, digits, the middle dot, combining marks, ties. -/
def nameRestTable : List (Nat × Nat) :=
  [(45, 46), (48, 57), (183, 183), (768, 879), (8255, 8256)]

def isNameStart (c : Char) : Bool := Intervals.mem nameStartTable c.toNat

def isNameChar (c : Char) : Bool := isNameStart c || Intervals.mem nameRestTable c.toNat

def isDigit (c : Char) : Bool := '0' ≤ c && c ≤ '9'

def isSpace (c : Char) : Bool := [' ', '\t', '\r', '\n'].contains c

/-- Characters that are a token on their own, whatever follows. -/
def isLoneSign (c : Char) : Bool :=
  ['(', ')', '[', ']', '@', ',', '|', '+', '-', '=', '*'].contains c

def opensSign (c : Char) : Bool := ['/', '<', '>', '!', ':', '.'].contains c

def isPair (c d : Char) : Bool :=
  [('/', '/'), ('<', '='), ('>', '='), ('!', '='), (':', ':'), ('.', '.')].contains (c, d)

inductive Reading where
  | between
  | inLiteral (quote : Char) (seen : List Char)
  | inNumber (seen : List Char)
  | inName (qualified : Bool) (seen : List Char)
  | afterColon (seen : List Char)
  | afterDollar
  | afterSign (c : Char)
deriving DecidableEq

namespace Reading

/-- The next character when it belongs to the token that is being read. -/
def extend? : Reading → Char → Option (List Token × Reading)
  | between, _ => none
  | inLiteral quote seen, c =>
    some (if c = quote then ([.literal seen], between) else ([], inLiteral quote (seen ++ [c])))
  | inNumber seen, c =>
    if isDigit c || (c == '.' && !seen.contains '.') then some ([], inNumber (seen ++ [c]))
    else none
  | inName qualified seen, c =>
    if isNameChar c then some ([], inName qualified (seen ++ [c]))
    else if c = ':' && !qualified then some ([], afterColon seen)
    else none
  | afterColon seen, c =>
    if c = ':' then some ([.name seen, .sign [':', ':']], between)
    else if isNameStart c then some ([], inName true (seen ++ [':', c]))
    else if c = '*' && seen.head? != some '$' then some ([.name (seen ++ [':', '*'])], between)
    else none
  | afterDollar, c => if isNameStart c then some ([], inName false ['$', c]) else none
  | afterSign d, c =>
    if isPair d c then some ([.sign [d, c]], between)
    else if d = '.' && isDigit c then some ([], inNumber [d, c])
    else none

/-- The token that is being read, when nothing more belongs to it. -/
def ended? : Reading → Option (List Token)
  | between => some []
  | inLiteral .. => none
  | inNumber seen => some [.number seen]
  | inName _ seen => some [.name seen]
  | afterColon _ => none
  | afterDollar => none
  | afterSign c => if c = '!' || c = ':' then none else some [.sign [c]]

def start? (c : Char) : Option (List Token × Reading) :=
  if isSpace c then some ([], between)
  else if c = '\'' || c = '"' then some ([], inLiteral c [])
  else if isNameStart c then some ([], inName false [c])
  else if isDigit c then some ([], inNumber [c])
  else if isLoneSign c then some ([.sign [c]], between)
  else if opensSign c then some ([], afterSign c)
  else if c = '$' then some ([], afterDollar)
  else none

def step? (r : Reading) (c : Char) : Option (List Token × Reading) :=
  match r.extend? c with
  | some next => some next
  | none => do
    let before ← r.ended?
    let (tokens, next) ← start? c
    return (before ++ tokens, next)

/-- The tokens that are complete after the characters, and where reading stands then. -/
def scan? : Reading → List Char → Option (List Token × Reading)
  | r, [] => some ([], r)
  | r, c :: cs => do
    let (tokens, next) ← r.step? c
    let (rest, last) ← next.scan? cs
    return (tokens ++ rest, last)

theorem scan?_append (r : Reading) (xs ys : List Char) :
    r.scan? (xs ++ ys) =
      (r.scan? xs).bind fun front =>
        (front.2.scan? ys).map fun back => (front.1 ++ back.1, back.2) := by
  induction xs generalizing r with
  | nil => simp [scan?]
  | cons c cs ih =>
    rw [List.cons_append, scan?, scan?]
    cases r.step? c with
    | none => rfl
    | some next =>
      simp only [bind, Option.bind_some, ih]
      cases next.2.scan? cs with
      | none => rfl
      | some front =>
        cases back : front.2.scan? ys with
        | none => simp [back]
        | some back => simp [back, pure]

theorem scan?_append_of_eq {r next last : Reading} {xs ys : List Char} {front back : List Token}
    (first : r.scan? xs = some (front, next)) (second : next.scan? ys = some (back, last)) :
    r.scan? (xs ++ ys) = some (front ++ back, last) := by
  simp [scan?_append, first, second]

theorem scan?_inLiteral {quote : Char} {cs : List Char} (absent : quote ∉ cs) (seen : List Char) :
    (inLiteral quote seen).scan? (cs ++ [quote]) = some ([.literal (seen ++ cs)], between) := by
  induction cs generalizing seen with
  | nil => simp [scan?, step?, extend?]
  | cons c cs ih =>
    simp only [List.mem_cons, not_or] at absent
    have other : c ≠ quote := fun same => absent.1 same.symm
    rw [List.cons_append, scan?]
    simp [step?, extend?, other, ih absent.2]

end Reading

/-- All tokens of a query; there are none if some character belongs to no token. -/
def tokens? (query : String) : Option (List Token) := do
  let (tokens, r) ← Reading.between.scan? query.toList
  let last ← r.ended?
  return tokens ++ last

end ElementSearch.XPath
