import ElementSearch.Text.Intervals

/-! White space of the text rules: the ASCII controls tab to carriage return and the four
separators from 28 to 31, the space, the next-line control, and the Unicode space, line and
paragraph separators.  Zero-width characters are not blank. -/

namespace ElementSearch.Blank

def table : List (Nat × Nat) :=
  [(9, 13), (28, 32), (133, 133), (160, 160), (5760, 5760), (8192, 8202), (8232, 8233),
    (8239, 8239), (8287, 8287), (12288, 12288)]

def isBlank (c : Char) : Bool := Intervals.mem table c.toNat

def trimStart (cs : List Char) : List Char := cs.dropWhile isBlank

def trimEnd (cs : List Char) : List Char := (cs.reverse.dropWhile isBlank).reverse

def trim (cs : List Char) : List Char := trimEnd (trimStart cs)

def strip (text : String) : String := String.ofList (trim text.toList)

theorem head_trimStart {cs : List Char} {c : Char} (h : (trimStart cs).head? = some c) :
    isBlank c = false := by
  induction cs with
  | nil => simp [trimStart] at h
  | cons d rest ih =>
    unfold trimStart at h ih
    rw [List.dropWhile_cons] at h
    split at h
    · exact ih h
    · simp_all

end ElementSearch.Blank
