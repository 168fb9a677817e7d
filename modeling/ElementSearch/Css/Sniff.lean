import ElementSearch.Text.Grammar

/-! Telling selectors from human text.
A text is an XPath query when, without opening brackets, it begins with `//` or `./`.  It is a
CSS selector when it begins with an attribute test, an id or a class, or when it has one of the
characters `# . [ :` and is, without white space around it, a word of the selector grammar. -/

namespace ElementSearch.Css

open Grammar

def nameStart : Grammar := set .letter

/-- An optional hyphen, a letter or underscore, then letters, digits, underscores, hyphens. -/
def ident : Grammar :=
  sequence [optional (one '-'), nameStart, many (set (.letterDigitOr ['_', '-']))]

def blanks : Grammar := many (set .blank)

def attributeValue : Grammar :=
  choice (sequence [one '"', many (set (.noneOf ['"'])), one '"'])
    [sequence [one '\'', many (set (.noneOf ['\''])), one '\''],
      atLeastOne (set (.notBlankNor [']', '"', '\'']))]

def caseFlag : Grammar := both (set (.oneOf ['i', 'I', 's', 'S'])) blanks

def attributeTest : Grammar :=
  sequence [one '[', blanks, nameStart, many (set (.wordOr ['-', ':'])), blanks,
    optional (sequence [optional (set (.oneOf ['~', '|', '^', '$', '*'])), one '=', blanks,
      attributeValue, blanks, optional caseFlag]),
    one ']']

def pseudo : Grammar :=
  sequence [one ':', optional (one ':'), ident,
    optional (sequence [one '(', many (set (.noneOf ['(', ')'])), one ')'])]

def suffix : Grammar :=
  choice (both (one '#') ident) [both (one '.') ident, attributeTest, pseudo]

def compound : Grammar :=
  either (both (either ident (one '*')) (many suffix)) (atLeastOne suffix)

def complex : Grammar :=
  both compound (many (either
    (sequence [blanks, set (.oneOf ['>', '+', '~']), blanks, compound])
    (both (atLeastOne (set .blank)) compound)))

def selectorList : Grammar :=
  both complex (many (sequence [blanks, one ',', blanks, complex]))

def hasMarker (cs : List Char) : Bool := cs.any fun c => ['#', '.', '[', ':'].contains c

def startsIdent : List Char → Bool
  | '-' :: c :: _ => CharSet.letter.has c
  | c :: _ => CharSet.letter.has c
  | [] => false

def looksLikeSelector (cs : List Char) : Bool :=
  match cs with
  | [] => false
  | '[' :: _ => true
  | c :: rest =>
    if (c = '#' || c = '.') && startsIdent rest then true
    else
      let inner := Blank.trim cs
      hasMarker inner && accepts selectorList inner

def looksLikePath (cs : List Char) : Bool :=
  match cs.dropWhile (· == '(') with
  | '/' :: '/' :: _ => true
  | '.' :: '/' :: _ => true
  | _ => false

end ElementSearch.Css
