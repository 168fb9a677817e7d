import ElementSearch.Text.Alphanumeric
import ElementSearch.Text.Hexadecimal

/-! Escaping for CSS.
In an identifier every character that is not alphanumeric, a hyphen or an underscore becomes a
backslash, its code point and a space, and so does a digit at the start.  In a quoted string the
backslash and the double quote get a backslash. -/

namespace ElementSearch.Css

def isPlain (first : Bool) (c : Char) : Bool :=
  (Alphanumeric.isAlphanumeric c && !(first && Alphanumeric.isDigit c)) || c == '-' || c == '_'

def escapePoint (c : Char) : List Char := '\\' :: (Hexadecimal.digits c.toNat ++ [' '])

def identifierChar (first : Bool) (c : Char) : List Char :=
  if isPlain first c then [c] else escapePoint c

def identifierChars : List Char → List Char
  | [] => []
  | c :: rest => identifierChar true c ++ rest.flatMap (identifierChar false)

def identifier (text : String) : String := String.ofList (identifierChars text.toList)

def stringChar (c : Char) : List Char :=
  if c = '\\' || c = '"' then ['\\', c] else [c]

def stringChars (cs : List Char) : List Char := cs.flatMap stringChar

def string (text : String) : String := String.ofList (stringChars text.toList)

def attributeEquals (name value : String) : String :=
  "[" ++ name ++ "=\"" ++ string value ++ "\"]"

def unescapeString : List Char → Option (List Char)
  | [] => some []
  | '\\' :: c :: rest => (unescapeString rest).map (c :: ·)
  | c :: rest => if c = '\\' then none else (unescapeString rest).map (c :: ·)

theorem unescapeString_stringChars (cs : List Char) :
    unescapeString (stringChars cs) = some cs := by
  induction cs with
  | nil => rfl
  | cons c rest ih =>
    change unescapeString (stringChar c ++ stringChars rest) = some (c :: rest)
    by_cases slash : c = '\\'
    · subst slash
      simp [stringChar, unescapeString, ih]
    · by_cases quote : c = '"'
      · subst quote
        simp [stringChar, unescapeString, ih]
      · simp only [stringChar, slash, quote, decide_false, Bool.or_self, Bool.false_eq_true,
          if_false, List.singleton_append]
        rw [unescapeString.eq_def]
        split
        · simp_all
        · simp_all
        · rename_i d rest' other same
          obtain ⟨rfl, rfl⟩ := List.cons.inj same
          simp [slash, ih]

end ElementSearch.Css
