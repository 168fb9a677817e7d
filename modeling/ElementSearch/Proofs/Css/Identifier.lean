import ElementSearch.Proofs.Css.Escaping

/-! Identifiers of CSS.
An identifier is a row of letters, digits, hyphens, underscores, characters beyond ASCII and
escapes, and only some of them may begin it: a digit may not, and a hyphen only before something
that may or before another hyphen.  Escaping minds a digit that begins the text but not what follows
a hyphen there, so the escaped text is an identifier unless it is empty, a hyphen alone, or begins
with a hyphen and a digit. -/

namespace ElementSearch.Css

open Alphanumeric

def OpensIdentifier (c : Char) : Prop := isAsciiLetter c = true ∨ c = '_' ∨ 128 ≤ c.toNat

def ContinuesIdentifier (c : Char) : Prop :=
  OpensIdentifier c ∨ isAsciiDigit c = true ∨ c = '-'

def isLineEnd (c : Char) : Bool := ['\n', '\r', '\x0c'].contains c

def IsEnding (cs : List Char) : Prop :=
  cs = [] ∨ cs = ['\r', '\n'] ∨ ∃ c, cs = [c] ∧ (c = ' ' ∨ c = '\t' ∨ isLineEnd c = true)

inductive IsEscape : List Char → Prop
  | point {digits ending : List Char} (some_ : digits ≠ []) (few : digits.length ≤ 6)
      (hex : ∀ d ∈ digits, Hexadecimal.isDigit d = true) (white : IsEnding ending) :
      IsEscape ('\\' :: (digits ++ ending))
  | symbol {c : Char} (inLine : isLineEnd c = false) (other : Hexadecimal.isDigit c = false) :
      IsEscape ['\\', c]

inductive IsNameRow : List Char → Prop
  | nil : IsNameRow []
  | char {c : Char} {cs : List Char} (continues : ContinuesIdentifier c) (row : IsNameRow cs) :
      IsNameRow (c :: cs)
  | escape {cs ds : List Char} (escape : IsEscape cs) (row : IsNameRow ds) : IsNameRow (cs ++ ds)

inductive IsOpening : List Char → Prop
  | char {c : Char} (opens : OpensIdentifier c) : IsOpening [c]
  | escape {cs : List Char} (escape : IsEscape cs) : IsOpening cs
  | hyphenChar {c : Char} (opens : OpensIdentifier c) : IsOpening ['-', c]
  | hyphenEscape {cs : List Char} (escape : IsEscape cs) : IsOpening ('-' :: cs)
  | hyphens : IsOpening ['-', '-']

inductive IsIdentifier : List Char → Prop
  | row {front behind : List Char} (opening : IsOpening front) (row : IsNameRow behind) :
      IsIdentifier (front ++ behind)

/-- A number sign and one identifier. -/
inductive IsIdSelector : List Char → Prop
  | hash {name : List Char} (identifier : IsIdentifier name) : IsIdSelector ('#' :: name)

theorem isIdSelector_iff {name : List Char} : IsIdSelector ('#' :: name) ↔ IsIdentifier name :=
  ⟨fun ⟨identifier⟩ => identifier, .hash⟩

section Escaped

theorem bounds_of_digit {d : Char} (digit : isAsciiDigit d = true) :
    48 ≤ d.toNat ∧ d.toNat ≤ 57 := by
  simp only [isAsciiDigit, Bool.and_eq_true, decide_eq_true_eq] at digit
  exact digit

theorem isEscape_escapePoint (c : Char) : IsEscape (escapePoint c) :=
  .point (Hexadecimal.digits_ne_nil _) (length_digits_toNat_le c)
    (fun _ => Hexadecimal.isDigit_of_mem_digits) (.inr (.inr ⟨' ', rfl, .inl rfl⟩))

theorem IsSafe.continues {c : Char} (safe : IsSafe c) : ContinuesIdentifier c := by
  rcases safe with letter | digit | hyphen | underscore | ⟨beyond, _⟩
  · exact .inl (.inl letter)
  · exact .inr (.inl digit)
  · exact .inr (.inr hyphen)
  · exact .inl (.inr (.inl underscore))
  · exact .inl (.inr (.inr beyond))

theorem isNameRow_flatMap (cs : List Char) : IsNameRow (cs.flatMap (identifierChar false)) := by
  induction cs with
  | nil => exact .nil
  | cons c rest ih =>
    rw [List.flatMap_cons, identifierChar]
    split
    · rename_i plain
      exact .char (isSafe_of_plain plain).continues ih
    · exact .escape (isEscape_escapePoint c) ih

theorem opens_of_plain {c : Char} (plain : isPlain true c = true) :
    OpensIdentifier c ∨ c = '-' := by
  rcases isSafe_of_plain plain with letter | digit | hyphen | underscore | ⟨beyond, _⟩
  · exact .inl (.inl letter)
  · have bounds := bounds_of_digit digit
    have ascii : c.toNat < 128 := by omega
    simp only [isPlain, Bool.true_and, isDigit_of_ascii ascii, digit, Bool.not_true, Bool.and_false,
      Bool.false_or, Bool.or_eq_true, beq_iff_eq] at plain
    rcases plain with hyphen | underscore
    · exact .inr hyphen
    · exact .inl (.inr (.inl underscore))
  · exact .inr hyphen
  · exact .inl (.inr (.inl underscore))
  · exact .inl (.inr (.inr beyond))

theorem not_opensIdentifier_of_digit {d : Char} (digit : isAsciiDigit d = true) :
    ¬OpensIdentifier d := by
  have bounds := bounds_of_digit digit
  rintro (letter | rfl | beyond)
  · simp only [isAsciiLetter, Bool.or_eq_true, Bool.and_eq_true, decide_eq_true_eq] at letter
    rcases letter with ⟨small, _⟩ | ⟨capital, _⟩
    · have least : 97 ≤ d.toNat := small
      omega
    · have least : 65 ≤ d.toNat := capital
      omega
  · exact absurd bounds.2 (by decide)
  · omega

theorem IsEscape.opens {cs : List Char} (escape : IsEscape cs) : ∃ rest, cs = '\\' :: rest := by
  cases escape with
  | point => exact ⟨_, rfl⟩
  | symbol => exact ⟨_, rfl⟩

theorem IsIdentifier.ne_nil {cs : List Char} (identifier : IsIdentifier cs) : cs ≠ [] := by
  obtain ⟨opening, _⟩ := identifier
  cases opening with
  | escape escape =>
    obtain ⟨rest, rfl⟩ := escape.opens
    exact List.cons_ne_nil _ _
  | char | hyphenChar | hyphenEscape | hyphens => exact List.cons_ne_nil _ _

theorem IsIdentifier.behind_hyphen {cs : List Char} (identifier : IsIdentifier ('-' :: cs)) :
    ∃ d rest, cs = d :: rest ∧ (OpensIdentifier d ∨ d = '\\' ∨ d = '-') := by
  generalize whole : '-' :: cs = text at identifier
  obtain ⟨opening, _⟩ := identifier
  cases opening with
  | char opens =>
    obtain ⟨rfl, _⟩ := List.cons.inj whole
    rcases opens with letter | underscore | beyond
    · exact absurd letter (by decide)
    · exact absurd underscore (by decide)
    · exact absurd beyond (by decide)
  | escape escape =>
    obtain ⟨rest, rfl⟩ := escape.opens
    exact absurd (List.cons.inj whole).1 (by decide)
  | hyphenChar opens => exact ⟨_, _, (List.cons.inj whole).2, .inl opens⟩
  | hyphenEscape escape =>
    obtain ⟨rest, rfl⟩ := escape.opens
    exact ⟨_, _, (List.cons.inj whole).2, .inr (.inl rfl)⟩
  | hyphens => exact ⟨_, _, (List.cons.inj whole).2, .inr (.inr rfl)⟩

theorem identifierChars_hyphen (cs : List Char) :
    identifierChars ('-' :: cs) = '-' :: cs.flatMap (identifierChar false) := by
  have plain : isPlain true '-' = true := by decide
  simp [identifierChars, identifierChar, plain]

theorem identifierChar_digit {d : Char} (digit : isAsciiDigit d = true) :
    identifierChar false d = [d] := by
  have bounds := bounds_of_digit digit
  have ascii : d.toNat < 128 := by omega
  have plain : isPlain false d = true := by
    simp [isPlain, isAlphanumeric_of_ascii ascii, digit]
  simp [identifierChar, plain]

theorem isIdentifier_behind_hyphen {d : Char} (other : isAsciiDigit d = false)
    (rest : List Char) :
    IsIdentifier ('-' :: (d :: rest).flatMap (identifierChar false)) := by
  have row := isNameRow_flatMap rest
  rw [List.flatMap_cons, identifierChar]
  split
  · rename_i plain
    rcases isSafe_of_plain plain with letter | digit | rfl | underscore | ⟨beyond, _⟩
    · exact .row (.hyphenChar (.inl letter)) row
    · cases digit.symm.trans other
    · exact .row .hyphens row
    · exact .row (.hyphenChar (.inr (.inl underscore))) row
    · exact .row (.hyphenChar (.inr (.inr beyond))) row
  · exact .row (.hyphenEscape (isEscape_escapePoint d)) row

end Escaped

theorem isIdentifier_identifierChars_iff (cs : List Char) :
    IsIdentifier (identifierChars cs) ↔
      cs ≠ [] ∧ cs ≠ ['-'] ∧ ∀ d rest, cs = '-' :: d :: rest → isAsciiDigit d = false := by
  constructor
  · intro identifier
    refine ⟨?_, ?_, ?_⟩
    · rintro rfl
      exact identifier.ne_nil rfl
    · rintro rfl
      rw [identifierChars_hyphen] at identifier
      obtain ⟨d, rest, nothing, _⟩ := identifier.behind_hyphen
      cases nothing
    · rintro d rest rfl
      rw [Bool.eq_false_iff]
      intro digit
      rw [identifierChars_hyphen, List.flatMap_cons, identifierChar_digit digit] at identifier
      obtain ⟨e, others, same, allowed⟩ := identifier.behind_hyphen
      obtain ⟨rfl, _⟩ := List.cons.inj same
      rcases allowed with opens | rfl | rfl
      · exact not_opensIdentifier_of_digit digit opens
      · exact absurd digit (by decide)
      · exact absurd digit (by decide)
  · rintro ⟨some_, notAlone, noDigit⟩
    obtain ⟨c, rest, rfl⟩ := List.exists_cons_of_ne_nil some_
    have row := isNameRow_flatMap rest
    by_cases plain : isPlain true c = true
    · rcases opens_of_plain plain with opens | rfl
      · rw [identifierChars, identifierChar, if_pos plain]
        exact .row (.char opens) row
      · rw [identifierChars_hyphen]
        cases rest with
        | nil => exact absurd rfl notAlone
        | cons d others => exact isIdentifier_behind_hyphen (noDigit d others rfl) others
    · rw [identifierChars, identifierChar, if_neg plain]
      exact .row (.escape (isEscape_escapePoint c)) row

end ElementSearch.Css
