import ElementSearch.Text.Cut
import ElementSearch.Value.Display

/-! String expressions of XPath 1.0.
A literal there has no escapes, so a text with both kinds of quote is put together by `concat`.
`quote` cuts such a text at every single quote; `quoteRuns` cuts it around every run of single
quotes, which is how selectors are translated. -/

namespace ElementSearch.XPath

def enclose (quote : Char) (cs : List Char) : List Char := quote :: (cs ++ [quote])

def separator : List Char := [',', ' ', '"', '\'', '"', ',', ' ']

def concatOpen : List Char := ['c', 'o', 'n', 'c', 'a', 't', '(']

def quoteChars (cs : List Char) : List Char :=
  if '\'' ∉ cs then enclose '\'' cs
  else if '"' ∉ cs then enclose '"' cs
  else concatOpen ++ separator.intercalate ((Cut.cut '\'' cs).map (enclose '\'')) ++ [')']

def quote (text : String) : String := String.ofList (quoteChars text.toList)

/-- The expression for what a value displays; null stands for the empty text. -/
def quoteValue (v : Value) : Outcome String :=
  match v with
  | .null => .ok (quote "")
  | v => v.display.map quote

def runs (c : Char) : List Char → List (List Char)
  | [] => []
  | d :: rest =>
    match runs c rest with
    | (e :: part) :: parts =>
      if (d == c) == (e == c) then (d :: e :: part) :: parts else [d] :: (e :: part) :: parts
    | parts => [d] :: parts

def encloseRun (cs : List Char) : List Char :=
  if '\'' ∈ cs then enclose '"' cs else enclose '\'' cs

def quoteRunsChars (cs : List Char) : List Char :=
  if '\'' ∉ cs then enclose '\'' cs
  else if '"' ∉ cs then enclose '"' cs
  else concatOpen ++ [','].intercalate ((runs '\'' cs).map encloseRun) ++ [')']

def quoteRuns (text : String) : String := String.ofList (quoteRunsChars text.toList)

def union (queries : List String) : String := " | ".intercalate queries

end ElementSearch.XPath
