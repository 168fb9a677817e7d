import ElementSearch.Text.Hexadecimal
import ElementSearch.Text.Printable

/-! Quoted texts of messages.
A text stands between single quotes unless it has a single quote and no double one.  The
backslash and the chosen quote are escaped by a backslash, line feed, carriage return and tab by
a letter, and every other character that is not printable by two, four or eight hexadecimal
digits. -/

namespace ElementSearch.Quoted

def delimiter (cs : List Char) : Char :=
  if cs.contains '\'' && !cs.contains '"' then '"' else '\''

def escapeChar (quote c : Char) : List Char :=
  if c = quote || c = '\\' then ['\\', c]
  else if c = '\n' then ['\\', 'n']
  else if c = '\r' then ['\\', 'r']
  else if c = '\t' then ['\\', 't']
  else if Printable.isPrintable c then [c]
  else if c.toNat < 256 then '\\' :: 'x' :: Hexadecimal.padded 2 c.toNat
  else if c.toNat < 65536 then '\\' :: 'u' :: Hexadecimal.padded 4 c.toNat
  else '\\' :: 'U' :: Hexadecimal.padded 8 c.toNat

def encode (cs : List Char) : List Char :=
  let quote := delimiter cs
  quote :: (cs.flatMap (escapeChar quote) ++ [quote])

def quote (text : String) : String := String.ofList (encode text.toList)

end ElementSearch.Quoted
