import ElementSearch.Text.Hexadecimal
import ElementSearch.Text.Quoted

/-! Tokens of CSS selectors.
A selector is read as white space, identifiers, ids, quoted strings, numbers and single
characters, each with its position; comments are skipped.  An open or broken string ends the row
of tokens with a defect in place of the end mark.  Sizes count characters, and a size of zero
means that nothing of the kind begins here. -/

namespace ElementSearch.Css

inductive TokenKind where
  | space
  | ident
  | hash
  | string
  | number
  | delim
  | finish
deriving DecidableEq

structure Token where
  kind : TokenKind
  value : String
  pos : Nat
deriving DecidableEq

/-- A token, or the reason why there is none. -/
inductive Lexeme where
  | token (t : Token)
  | defect (message : String)

namespace Token

def isDelim (t : Token) (members : List String) : Bool :=
  t.kind == .delim && members.contains t.value

def kindName : TokenKind → String
  | .space => "S"
  | .ident => "IDENT"
  | .hash => "HASH"
  | .string => "STRING"
  | .number => "NUMBER"
  | .delim => "DELIM"
  | .finish => "EOF"

def shown (t : Token) : String :=
  if t.kind = .finish then "<EOF at " ++ toString t.pos ++ ">"
  else "<" ++ kindName t.kind ++ " '" ++ t.value ++ "' at " ++ toString t.pos ++ ">"

def shownAll (ts : List Token) : String := "[" ++ ", ".intercalate (ts.map shown) ++ "]"

end Token

def isBlank (c : Char) : Bool := [' ', '\t', '\r', '\n', '\x0c'].contains c

def isLetter (c : Char) : Bool :=
  ('a' ≤ c && c ≤ 'z') || ('A' ≤ c && c ≤ 'Z') || c == '_' || 128 ≤ c.toNat

def isDigit (c : Char) : Bool := '0' ≤ c && c ≤ '9'

def isNameChar (c : Char) : Bool := isLetter c || isDigit c || c == '-'

def hexSize (cs : List Char) : Nat := min 6 (cs.takeWhile Hexadecimal.isDigit).length

def endSize : List Char → Nat
  | '\r' :: '\n' :: _ => 2
  | c :: _ => if isBlank c then 1 else 0
  | [] => 0

def pointSize (cs : List Char) : Nat :=
  let k := hexSize cs
  if k = 0 then 0 else k + endSize (cs.drop k)

def escapeSize (cs : List Char) : Nat :=
  if hexSize cs ≠ 0 then pointSize cs
  else match cs with
    | c :: _ => if ['\n', '\r', '\x0c'].contains c then 0 else 1
    | [] => 0

def nameSize (known : Nat) : List Char → Nat
  | [] => 0
  | c :: rest =>
    match known with
    | k + 1 => 1 + nameSize k rest
    | 0 =>
      if isNameChar c then 1 + nameSize 0 rest
      else if c = '\\' then
        match escapeSize rest with
        | 0 => 0
        | k + 1 => 1 + nameSize (k + 1) rest
      else 0

def startsName : List Char → Bool
  | [] => false
  | c :: rest => isLetter c || (c == '\\' && escapeSize rest != 0)

def identSize (cs : List Char) : Nat :=
  match cs with
  | '-' :: rest => if startsName rest then 1 + nameSize 0 rest else 0
  | cs => if startsName cs then nameSize 0 cs else 0

def newlineSize : List Char → Nat
  | '\r' :: '\n' :: _ => 2
  | c :: _ => if ['\n', '\r', '\x0c'].contains c then 1 else 0
  | [] => 0

def stringSize (quote : Char) (known : Nat) : List Char → Nat
  | [] => 0
  | c :: rest =>
    match known with
    | k + 1 => 1 + stringSize quote k rest
    | 0 =>
      if c = '\\' then
        match max (newlineSize rest) (escapeSize rest) with
        | 0 => 0
        | k + 1 => 1 + stringSize quote (k + 1) rest
      else if c = quote || ['\n', '\r', '\x0c'].contains c then 0
      else 1 + stringSize quote 0 rest

def unsignedSize (cs : List Char) : Nat :=
  let whole := (cs.takeWhile isDigit).length
  match cs.drop whole with
  | '.' :: rest =>
    let fraction := (rest.takeWhile isDigit).length
    if fraction = 0 then whole else whole + 1 + fraction
  | _ => whole

def numberSize (cs : List Char) : Nat :=
  match cs with
  | c :: rest =>
    if c = '+' || c = '-' then
      match unsignedSize rest with
      | 0 => 0
      | k + 1 => k + 2
    else unsignedSize cs
  | [] => 0

def commentSize : List Char → Nat
  | '*' :: '/' :: _ => 2
  | _ :: rest => 1 + commentSize rest
  | [] => 0

def replacement : Char := Char.ofNat 65533

def pointChar (n : Nat) : Char :=
  if n = 0 || n > 1114111 || (55296 ≤ n && n ≤ 57343) then replacement else Char.ofNat n

/-- Numbered escapes become their characters; the first `gone` characters are left out. -/
def replacePoints (gone : Nat) : List Char → List Char
  | [] => []
  | c :: rest =>
    match gone with
    | k + 1 => replacePoints k rest
    | 0 =>
      if c = '\\' && hexSize rest ≠ 0 then
        pointChar (Hexadecimal.number (rest.take (hexSize rest))) ::
          replacePoints (pointSize rest) rest
      else c :: replacePoints 0 rest

/-- A backslash before a character other than a line feed is left out. -/
def dropBackslashes : List Char → List Char
  | '\\' :: c :: rest =>
    if c = '\n' then '\\' :: c :: dropBackslashes rest else c :: dropBackslashes rest
  | c :: rest => c :: dropBackslashes rest
  | [] => []

def joinLines (gone : Nat) : List Char → List Char
  | [] => []
  | c :: rest =>
    match gone with
    | k + 1 => joinLines k rest
    | 0 =>
      if c = '\\' && newlineSize rest ≠ 0 then joinLines (newlineSize rest) rest
      else c :: joinLines 0 rest

def nameValue (cs : List Char) : String :=
  String.ofList (dropBackslashes (replacePoints 0 cs))

def stringValue (cs : List Char) : String :=
  String.ofList (dropBackslashes (replacePoints 0 (joinLines 0 cs)))

/-- What begins at a character: perhaps a lexeme, and how many further characters it takes. -/
structure Reading where
  lexeme? : Option Lexeme
  extra : Nat

def Reading.token (kind : TokenKind) (value : String) (pos extra : Nat) : Reading :=
  ⟨some (.token ⟨kind, value, pos⟩), extra⟩

def readString (quote : Char) (rest : List Char) (pos : Nat) : Reading :=
  let size := stringSize quote 0 rest
  match rest.drop size with
  | [] => ⟨some (.defect ("Unclosed string at " ++ toString pos)), 0⟩
  | c :: _ =>
    if c = quote then .token .string (stringValue (rest.take size)) pos (size + 1)
    else ⟨some (.defect ("Invalid string at " ++ toString pos)), 0⟩

def read (c : Char) (rest : List Char) (pos : Nat) : Reading :=
  let here := c :: rest
  if isBlank c then .token .space " " pos (rest.takeWhile isBlank).length
  else if identSize here ≠ 0 then
    .token .ident (nameValue (here.take (identSize here))) pos (identSize here - 1)
  else if c = '#' && nameSize 0 rest ≠ 0 then
    .token .hash (nameValue (rest.take (nameSize 0 rest))) pos (nameSize 0 rest)
  else if c = '"' || c = '\'' then readString c rest pos
  else if numberSize here ≠ 0 then
    .token .number (String.ofList (here.take (numberSize here))) pos (numberSize here - 1)
  else match c, rest with
    | '/', '*' :: inner => ⟨none, 1 + commentSize inner⟩
    | _, _ => .token .delim (String.singleton c) pos 0

/-- A row of lexemes ends with the end mark or with a defect. -/
def lexFrom (pos : Nat) (cs : List Char) : List Lexeme :=
  match cs with
  | [] => [.token ⟨.finish, "", pos⟩]
  | c :: rest =>
    let reading := read c rest pos
    let others := lexFrom (pos + 1 + min reading.extra rest.length) (rest.drop reading.extra)
    match reading.lexeme? with
    | some (.token t) => .token t :: others
    | some (.defect message) => [.defect message]
    | none => others
termination_by cs.length
decreasing_by
  simp only [List.length_drop, List.length_cons]
  omega

def lex (text : String) : List Lexeme :=
  lexFrom 0 (text.toList.map fun c => if c.toNat = 0 then replacement else c)

theorem lexFrom_nil (pos : Nat) : lexFrom pos [] = [.token ⟨.finish, "", pos⟩] := by
  simp [lexFrom]

end ElementSearch.Css
