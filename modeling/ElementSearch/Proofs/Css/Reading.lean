import ElementSearch.Css.Token
import ElementSearch.Proofs.Css.Identifier
import Mathlib.Data.List.TakeWhile

/-! Escaped identifiers as a selector is read.
An escaped identifier is one name.  Reading undoes its numbered escapes first, which gives the text
back, and then drops backslashes, which were meant to be escapes of other characters but are those
of the text itself. -/

namespace ElementSearch.Css

def mend (c : Char) : Char := if c.toNat = 0 then replacement else c

theorem lex_eq (text : String) : lex text = lexFrom 0 (text.toList.map mend) := rfl

theorem toNat_eq_zero {c : Char} : c.toNat = 0 ↔ c = '\x00' := by
  rw [← Char.toNat_inj]
  rfl

theorem mend_of_ne {c : Char} (some_ : c ≠ '\x00') : mend c = c :=
  if_neg (mt toNat_eq_zero.mp some_)

theorem mend_ne (c : Char) : mend c ≠ '\x00' := by
  unfold mend
  split
  · decide
  · rename_i some_
    exact mt toNat_eq_zero.mpr some_

theorem map_mend_of_notMem {cs : List Char} (absent : '\x00' ∉ cs) : cs.map mend = cs := by
  have each (c : Char) (mem : c ∈ cs) : mend c = c := mend_of_ne fun same => absent (same ▸ mem)
  rw [List.map_congr_left each, List.map_id']

theorem null_notMem_map_mend (cs : List Char) : '\x00' ∉ cs.map mend := by
  rw [List.mem_map]
  rintro ⟨c, _, same⟩
  exact mend_ne c same

theorem eq_of_map_mend_iff {f : List Char → List Char}
    (keeps : ∀ cs, '\x00' ∈ f cs → '\x00' ∈ cs) (cs : List Char) :
    f (cs.map mend) = cs ↔ '\x00' ∉ cs ∧ f cs = cs := by
  constructor
  · intro same
    have absent : '\x00' ∉ cs := fun mem =>
      null_notMem_map_mend cs (keeps _ (same.symm ▸ mem))
    rw [map_mend_of_notMem absent] at same
    exact ⟨absent, same⟩
  · rintro ⟨absent, same⟩
    rwa [map_mend_of_notMem absent]

theorem escapeSize_of_hex {cs : List Char} (some_ : hexSize cs ≠ 0) :
    escapeSize cs = pointSize cs := by
  unfold escapeSize
  rw [if_pos some_]

section Numbered

variable {digits : List Char} (hex : ∀ d ∈ digits, Hexadecimal.isDigit d = true)
  (few : digits.length ≤ 6) (rest : List Char)

include hex few

theorem hexSize_closed : hexSize (digits ++ ' ' :: rest) = digits.length := by
  have space : Hexadecimal.isDigit ' ' = false := by decide
  rw [hexSize, List.takeWhile_append_of_pos hex]
  simp [space, few]

theorem pointSize_closed (some_ : digits ≠ []) :
    pointSize (digits ++ ' ' :: rest) = (digits ++ [' ']).length := by
  have present : digits.length ≠ 0 := mt List.length_eq_zero_iff.mp some_
  have ending : endSize (' ' :: rest) = 1 := by
    simp [endSize, isBlank]
  rw [pointSize, hexSize_closed hex few]
  simp [present, ending]

end Numbered

section Identifiers

theorem IsSafe.isNameChar {c : Char} (safe : IsSafe c) : isNameChar c = true := by
  unfold Css.isNameChar isLetter
  rcases safe with letter | digit | rfl | rfl | ⟨beyond, _⟩
  · have found : ('a' ≤ c && c ≤ 'z' || 'A' ≤ c && c ≤ 'Z') = true := letter
    simp [found]
  · have found : isDigit c = true := digit
    simp [found]
  · rfl
  · rfl
  · simp [beyond]

theorem IsSafe.ne_null {c : Char} (safe : IsSafe c) : c ≠ '\x00' := by
  rintro rfl
  exact absurd safe.isNameChar (by decide)

theorem nameSize_known (xs rest : List Char) :
    nameSize xs.length (xs ++ rest) = xs.length + nameSize 0 rest := by
  induction xs with
  | nil => simp
  | cons c xs ih =>
    rw [List.length_cons, List.cons_append, nameSize, ih]
    omega

theorem replacePoints_known (xs rest : List Char) :
    replacePoints xs.length (xs ++ rest) = replacePoints 0 rest := by
  induction xs with
  | nil => simp
  | cons c xs ih => rw [List.length_cons, List.cons_append, replacePoints, ih]

theorem nameSize_escape {k : Nat} {cs : List Char} (size : escapeSize cs = k + 1) :
    nameSize 0 ('\\' :: cs) = 1 + nameSize (k + 1) cs := by
  have slash : isNameChar '\\' = false := by decide
  rw [nameSize]
  simp [slash, size]

section Point

variable (c : Char) (rest : List Char)

theorem escapePoint_append :
    escapePoint c ++ rest = '\\' :: (Hexadecimal.digits c.toNat ++ ' ' :: rest) := by
  simp [escapePoint]

theorem hexSize_digits :
    hexSize (Hexadecimal.digits c.toNat ++ ' ' :: rest) = (Hexadecimal.digits c.toNat).length :=
  hexSize_closed (fun _ => Hexadecimal.isDigit_of_mem_digits) (length_digits_toNat_le c) rest

theorem hexSize_digits_ne_zero : hexSize (Hexadecimal.digits c.toNat ++ ' ' :: rest) ≠ 0 := by
  rw [hexSize_digits]
  exact mt List.length_eq_zero_iff.mp (Hexadecimal.digits_ne_nil _)

theorem pointSize_digits :
    pointSize (Hexadecimal.digits c.toNat ++ ' ' :: rest) =
      (Hexadecimal.digits c.toNat ++ [' ']).length :=
  pointSize_closed (fun _ => Hexadecimal.isDigit_of_mem_digits) (length_digits_toNat_le c) rest
    (Hexadecimal.digits_ne_nil _)

theorem nameSize_escapePoint :
    nameSize 0 (escapePoint c ++ rest) = (escapePoint c).length + nameSize 0 rest := by
  have some_ := hexSize_digits_ne_zero c rest
  have size : escapeSize (Hexadecimal.digits c.toNat ++ ' ' :: rest) =
      (Hexadecimal.digits c.toNat).length + 1 := by
    rw [escapeSize_of_hex some_, pointSize_digits, List.length_append, List.length_singleton]
  have known := nameSize_known (Hexadecimal.digits c.toNat ++ [' ']) rest
  rw [List.append_assoc, List.length_append] at known
  rw [escapePoint_append, nameSize_escape size]
  simp only [List.length_singleton, List.singleton_append] at known
  rw [known, escapePoint]
  simp only [List.length_cons, List.length_append, List.length_nil]
  omega

theorem pointChar_toNat : pointChar c.toNat = mend c := by
  have valid := c.valid
  unfold UInt32.isValidChar Nat.isValidChar at valid
  have small : ¬c.toNat > 1114111 := by
    unfold Char.toNat
    omega
  have single : ¬(55296 ≤ c.toNat ∧ c.toNat ≤ 57343) := by
    unfold Char.toNat
    omega
  unfold pointChar mend
  simp [small, single, Char.ofNat_toNat]

theorem replacePoints_escapePoint :
    replacePoints 0 (escapePoint c ++ rest) = mend c :: replacePoints 0 rest := by
  have some_ := hexSize_digits_ne_zero c rest
  have known := replacePoints_known (Hexadecimal.digits c.toNat ++ [' ']) rest
  rw [escapePoint_append, replacePoints, if_pos (by simp [some_]), pointSize_digits, hexSize_digits,
    List.take_left, Hexadecimal.number_digits, pointChar_toNat]
  rw [← known, List.append_assoc]
  rfl

end Point

variable (first : Bool) (c : Char) (rest cs : List Char)

theorem nameSize_identifierChar :
    nameSize 0 (identifierChar first c ++ rest) =
      (identifierChar first c).length + nameSize 0 rest := by
  unfold identifierChar
  split
  · rename_i plain
    have name := (isSafe_of_plain plain).isNameChar
    rw [List.singleton_append, nameSize, if_pos name]
    rfl
  · exact nameSize_escapePoint c rest

theorem replacePoints_identifierChar :
    replacePoints 0 (identifierChar first c ++ rest) = mend c :: replacePoints 0 rest := by
  unfold identifierChar
  split
  · rename_i plain
    have slash := ne_backslash_of_plain plain
    rw [List.singleton_append, replacePoints, if_neg (by simp [slash]),
      mend_of_ne (isSafe_of_plain plain).ne_null]
  · exact replacePoints_escapePoint c rest

theorem null_notMem_identifierChar : '\x00' ∉ identifierChar first c := by
  unfold identifierChar
  split
  · rename_i plain
    intro mem
    exact (isSafe_of_plain plain).ne_null (List.mem_singleton.mp mem).symm
  · simp only [escapePoint, List.mem_cons, List.mem_append, List.not_mem_nil, or_false, not_or]
    refine ⟨by decide, fun mem => ?_, by decide⟩
    exact absurd (Hexadecimal.isDigit_of_mem_digits mem) (by decide)

theorem nameSize_identifierChars :
    nameSize 0 (identifierChars cs) = (identifierChars cs).length := by
  rw [identifierChars_eq]
  induction marked cs with
  | nil => rfl
  | cons c rest ih =>
    rw [List.flatMap_cons, nameSize_identifierChar, ih, List.length_append]

theorem replacePoints_identifierChars :
    replacePoints 0 (identifierChars cs) = cs.map mend := by
  have each (row : List (Bool × Char)) :
      replacePoints 0 (row.flatMap fun entry => identifierChar entry.1 entry.2) =
        (row.map Prod.snd).map mend := by
    induction row with
    | nil => rfl
    | cons c rest ih =>
      rw [List.flatMap_cons, replacePoints_identifierChar, ih]
      rfl
  rw [identifierChars_eq, each, snd_marked]

theorem null_notMem_identifierChars : '\x00' ∉ identifierChars cs := by
  rw [identifierChars_eq, List.mem_flatMap]
  rintro ⟨⟨first, c⟩, _, mem⟩
  exact null_notMem_identifierChar first c mem

end Identifiers

section Backslashes

/-- Some backslash stands before a character with the property. -/
def SlashBefore (p : Char → Prop) (cs : List Char) : Prop :=
  ∃ front c rest, cs = front ++ '\\' :: c :: rest ∧ p c

/-- Some backslash stands before a character other than a line feed. -/
def HasEscape (cs : List Char) : Prop := SlashBefore (· ≠ '\n') cs

theorem not_slashBefore_nil {p : Char → Prop} : ¬SlashBefore p [] := by
  rintro ⟨front, c, rest, whole, _⟩
  simp at whole

theorem slashBefore_cons {p : Char → Prop} {c : Char} {cs : List Char} :
    SlashBefore p (c :: cs) ↔ (c = '\\' ∧ ∃ d rest, cs = d :: rest ∧ p d) ∨ SlashBefore p cs := by
  constructor
  · rintro ⟨front, d, rest, whole, holds⟩
    cases front with
    | nil =>
      obtain ⟨rfl, rfl⟩ := List.cons.inj whole
      exact .inl ⟨rfl, d, rest, rfl, holds⟩
    | cons e front =>
      obtain ⟨rfl, rfl⟩ := List.cons.inj whole
      exact .inr ⟨front, d, rest, rfl, holds⟩
  · rintro (⟨rfl, d, rest, rfl, holds⟩ | ⟨front, d, rest, rfl, holds⟩)
    · exact ⟨[], d, rest, rfl, holds⟩
    · exact ⟨c :: front, d, rest, rfl, holds⟩

theorem dropBackslashes_sublist (cs : List Char) : (dropBackslashes cs).Sublist cs := by
  fun_induction dropBackslashes cs with
  | case1 rest ih => exact (ih.cons_cons _).cons_cons _
  | case2 c rest inLine ih => exact (ih.cons_cons c).cons _
  | case3 c rest other ih => exact ih.cons_cons c
  | case4 => exact List.Sublist.refl []

theorem dropBackslashes_eq_self_iff (cs : List Char) :
    dropBackslashes cs = cs ↔ ¬HasEscape cs := by
  unfold HasEscape
  fun_induction dropBackslashes cs with
  | case1 rest ih => simp [slashBefore_cons, ih]
  | case2 c rest inLine ih =>
    have shorter := (dropBackslashes_sublist rest).length_le
    have changed : c :: dropBackslashes rest ≠ '\\' :: c :: rest := by
      intro same
      have lengths := congrArg List.length same
      simp only [List.length_cons] at lengths
      omega
    simp [slashBefore_cons, inLine, changed]
  | case3 c rest other ih =>
    have kept : ¬(c = '\\' ∧ ∃ d more, rest = d :: more ∧ d ≠ '\n') := by
      rintro ⟨rfl, d, more, rfl, _⟩
      exact other d more rfl rfl
    rw [List.cons_inj_right, ih, slashBefore_cons, or_iff_right kept]
  | case4 => simp [not_slashBefore_nil]

end Backslashes

end ElementSearch.Css
