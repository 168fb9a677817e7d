import ElementSearch.XPath.Literal

/-! Queries with holes.
A pattern is the text of an XPath query in which some places are left open; filling it puts one
string expression into every place. -/

namespace ElementSearch.XPath

inductive Piece where
  | fixed (s : String)
  | slot
deriving DecidableEq

abbrev Pattern := List Piece

instance : Coe String Piece := ⟨.fixed⟩

namespace Pattern

def fill (p : Pattern) (expression : String) : String :=
  String.join (p.map fun piece => match piece with
    | .fixed s => s
    | .slot => expression)

def slots (p : Pattern) : Nat := p.count .slot

def joinWith (separator : String) : List Pattern → Pattern
  | [] => []
  | [p] => p
  | p :: rest => p ++ [.fixed separator] ++ joinWith separator rest

def union (alternatives : List Pattern) : Pattern := joinWith " | " alternatives

end Pattern

end ElementSearch.XPath
