import ElementSearch.Value.Display

/-! JSON documents of values.
The text is printable ASCII: characters from 127 on are written as one or two UTF-16 units.
Lists and tuples become arrays, dictionaries objects whose keys are texts, and a locator the text
that displays it; a key that is neither a text nor null, a truth value or a number is refused. -/

namespace ElementSearch

inductive Document where
  | atom (s : String)
  | array (items : List Document)
  | object (members : List (String × Document))

namespace Document

def unit (n : Nat) : List Char := '\\' :: 'u' :: Hexadecimal.padded 4 n

def escapeChar (c : Char) : List Char :=
  if c = '"' then ['\\', '"']
  else if c = '\\' then ['\\', '\\']
  else if c = '\n' then ['\\', 'n']
  else if c = '\r' then ['\\', 'r']
  else if c = '\t' then ['\\', 't']
  else if c.toNat = 8 then ['\\', 'b']
  else if c.toNat = 12 then ['\\', 'f']
  else if 32 ≤ c.toNat && c.toNat < 127 then [c]
  else if c.toNat < 65536 then unit c.toNat
  else
    let n := c.toNat - 65536
    unit (55296 + n / 1024) ++ unit (56320 + n % 1024)

def quote (s : String) : String :=
  String.ofList ('"' :: (s.toList.flatMap escapeChar ++ ['"']))

def number (x : Binary64) : String :=
  match x with
  | .nan => "NaN"
  | .infinite true => "-Infinity"
  | .infinite false => "Infinity"
  | x => x.text

def key (v : Value) : Outcome String :=
  match v with
  | .text s => .ok s
  | .null => .ok "null"
  | .bool b => .ok (if b then "true" else "false")
  | .int n => Value.written n
  | .float x => .ok (number x)
  | _ => .error .wrongType

mutual

def ofValue : Value → Outcome Document
  | .null => .ok (.atom "null")
  | .bool b => .ok (.atom (if b then "true" else "false"))
  | .int n => (Value.written n).map .atom
  | .float x => .ok (.atom (number x))
  | .text s => .ok (.atom (quote s))
  | .list items => (ofItems items).map .array
  | .tuple items => (ofItems items).map .array
  | .dict entries => (ofEntries entries).map .object
  | .locator l => ((Value.locator l).display).map fun s => .atom (quote s)

def ofItems : List Value → Outcome (List Document)
  | [] => .ok []
  | x :: xs => do
    let first ← ofValue x
    let rest ← ofItems xs
    return first :: rest

def ofEntries : List (Value × Value) → Outcome (List (String × Document))
  | [] => .ok []
  | (k, v) :: rest => do
    let name ← key k
    let first ← ofValue v
    let others ← ofEntries rest
    return (name, first) :: others

end

mutual

def compact : Document → String
  | atom s => s
  | array items => "[" ++ Value.join (compactItems items) ++ "]"
  | object members => "\x7b" ++ Value.join (compactMembers members) ++ "\x7d"

def compactItems : List Document → List String
  | [] => []
  | d :: rest => compact d :: compactItems rest

def compactMembers : List (String × Document) → List String
  | [] => []
  | (name, d) :: rest => (quote name ++ ": " ++ compact d) :: compactMembers rest

end

def newLine (depth : Nat) : String := "\n" ++ String.ofList (List.replicate (2 * depth) ' ')

/-- The parts of a container one to a line, two blanks deeper than the container. -/
def block (depth : Nat) (left right : String) (parts : List String) : String :=
  match parts with
  | [] => left ++ right
  | parts =>
    left ++ newLine (depth + 1) ++ (("," ++ newLine (depth + 1)).intercalate parts) ++
      newLine depth ++ right

mutual

def indentedAt (depth : Nat) : Document → String
  | atom s => s
  | array items => block depth "[" "]" (indentedItems (depth + 1) items)
  | object members => block depth "\x7b" "\x7d" (indentedMembers (depth + 1) members)

def indentedItems (depth : Nat) : List Document → List String
  | [] => []
  | d :: rest => indentedAt depth d :: indentedItems depth rest

def indentedMembers (depth : Nat) : List (String × Document) → List String
  | [] => []
  | (name, d) :: rest =>
    (quote name ++ ": " ++ indentedAt depth d) :: indentedMembers depth rest

end

def indented (d : Document) : String := indentedAt 0 d

end Document

def Value.json (v : Value) : Outcome String := (Document.ofValue v).map Document.compact

def Value.jsonIndented (v : Value) : Outcome String :=
  (Document.ofValue v).map Document.indented

end ElementSearch
