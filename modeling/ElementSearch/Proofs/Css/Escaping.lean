import ElementSearch.Css.Escape

/-! Escapes read back.
An escaped identifier is read from the left into pieces, each a character that stands for itself or
a numbered escape, and the pieces have the code points of the text.  An escaped string has no bare
double quote and no backslash at its end, so behind an opening quote it is read up to its own
closing quote, whatever follows, and as the text.  A text that is put between quotes as it is reads
back as itself only if it has neither of the two. -/

namespace ElementSearch.Css

/-- A character that stands for itself, or the digits of a numbered escape. -/
inductive Piece where
  | plain (c : Char)
  | point (digits : List Char)
deriving DecidableEq

def Piece.code : Piece → Nat
  | plain c => c.toNat
  | point digits => Hexadecimal.number digits

/-- A numbered escape is a backslash, one to six digits and a space; `seen` are the digits of one
that has begun. -/
def pieces? : Option (List Char) → List Char → Option (List Piece)
  | none, [] => some []
  | some _, [] => none
  | none, c :: rest =>
    if c = '\\' then pieces? (some []) rest else (pieces? none rest).map (.plain c :: ·)
  | some seen, c :: rest =>
    if Hexadecimal.isDigit c && decide (seen.length < 6) then pieces? (some (seen ++ [c])) rest
    else if c = ' ' ∧ seen ≠ [] then (pieces? none rest).map (.point seen :: ·)
    else none

def IsSafe (c : Char) : Prop :=
  Alphanumeric.isAsciiLetter c = true ∨ Alphanumeric.isAsciiDigit c = true ∨ c = '-' ∨ c = '_' ∨
    (128 ≤ c.toNat ∧ Alphanumeric.isAlphanumeric c = true)

section Identifier

theorem isSafe_of_plain {first : Bool} {c : Char} (plain : isPlain first c = true) : IsSafe c := by
  simp only [isPlain, Bool.or_eq_true, Bool.and_eq_true, beq_iff_eq] at plain
  rcases plain with (⟨alphanumeric, _⟩ | hyphen) | underscore
  · by_cases ascii : c.toNat < 128
    · rw [Alphanumeric.isAlphanumeric_of_ascii ascii, Bool.or_eq_true] at alphanumeric
      exact alphanumeric.elim .inl fun digit => .inr (.inl digit)
    · exact .inr (.inr (.inr (.inr ⟨Nat.le_of_not_lt ascii, alphanumeric⟩)))
  · exact .inr (.inr (.inl hyphen))
  · exact .inr (.inr (.inr (.inl underscore)))

theorem ne_backslash_of_plain {first : Bool} {c : Char} (plain : isPlain first c = true) :
    c ≠ '\\' := by
  rintro rfl
  cases first <;> exact absurd plain (by decide)

theorem toNat_lt (c : Char) : c.toNat < 16777216 := by
  have valid := c.valid
  unfold UInt32.isValidChar Nat.isValidChar at valid
  unfold Char.toNat
  omega

theorem length_digits_toNat_le (c : Char) : (Hexadecimal.digits c.toNat).length ≤ 6 :=
  Hexadecimal.length_digits_le_six (toNat_lt c)

theorem pieces?_digits (seen : List Char) {digits : List Char}
    (hex : ∀ d ∈ digits, Hexadecimal.isDigit d = true)
    (few : seen.length + digits.length ≤ 6) (some_ : seen ++ digits ≠ []) (rest : List Char) :
    pieces? (some seen) (digits ++ ' ' :: rest) =
      (pieces? none rest).map (.point (seen ++ digits) :: ·) := by
  induction digits generalizing seen with
  | nil =>
    rw [List.append_nil] at some_ ⊢
    have space : Hexadecimal.isDigit ' ' = false := by decide
    simp [pieces?, space, some_]
  | cons d digits ih =>
    rw [List.length_cons] at few
    have digit : Hexadecimal.isDigit d = true := hex d List.mem_cons_self
    have room : seen.length < 6 := by omega
    have more := ih (seen ++ [d]) (fun e mem => hex e (List.mem_cons_of_mem d mem))
      (by simp; omega) (by simp)
    simp only [List.cons_append, pieces?, digit, room, decide_true, Bool.and_self, if_true]
    simpa using more

def pieceOf (first : Bool) (c : Char) : Piece :=
  if isPlain first c then .plain c else .point (Hexadecimal.digits c.toNat)

theorem code_pieceOf (first : Bool) (c : Char) : (pieceOf first c).code = c.toNat := by
  unfold pieceOf
  split
  · rfl
  · exact Hexadecimal.number_digits c.toNat

theorem isSafe_of_pieceOf {first : Bool} {c d : Char} (written : pieceOf first c = .plain d) :
    IsSafe d := by
  unfold pieceOf at written
  split at written
  · rename_i plain
    cases written
    exact isSafe_of_plain plain
  · cases written

theorem pieces?_identifierChar (first : Bool) (c : Char) (rest : List Char) :
    pieces? none (identifierChar first c ++ rest) =
      (pieces? none rest).map (pieceOf first c :: ·) := by
  unfold identifierChar pieceOf
  split
  · rename_i plain
    simp [pieces?, ne_backslash_of_plain plain]
  · have few : ([] : List Char).length + (Hexadecimal.digits c.toNat).length ≤ 6 := by
      simpa using length_digits_toNat_le c
    have digits := pieces?_digits [] (fun _ => Hexadecimal.isDigit_of_mem_digits) few
      (Hexadecimal.digits_ne_nil c.toNat) rest
    simpa [escapePoint, pieces?] using digits

/-- The characters of a text, each with whether it is the first one. -/
def marked : List Char → List (Bool × Char)
  | [] => []
  | c :: rest => (true, c) :: rest.map (false, ·)

theorem snd_marked (cs : List Char) : (marked cs).map Prod.snd = cs := by
  cases cs with
  | nil => rfl
  | cons c rest => simp [marked, Function.comp_def]

theorem identifierChars_eq (cs : List Char) :
    identifierChars cs = (marked cs).flatMap fun entry => identifierChar entry.1 entry.2 := by
  cases cs with
  | nil => rfl
  | cons c rest => simp [identifierChars, marked, List.flatMap_map]

def piecesOf (cs : List Char) : List Piece := (marked cs).map fun entry => pieceOf entry.1 entry.2

theorem pieces?_identifierChars (cs : List Char) :
    pieces? none (identifierChars cs) = some (piecesOf cs) := by
  rw [identifierChars_eq, piecesOf]
  induction marked cs with
  | nil => rfl
  | cons c rest ih => simp [pieces?_identifierChar, ih]

theorem code_piecesOf (cs : List Char) : (piecesOf cs).map Piece.code = cs.map Char.toNat := by
  have whole := congrArg (List.map Char.toNat) (snd_marked cs)
  simpa [piecesOf, Function.comp_def, code_pieceOf] using whole

theorem isSafe_of_mem_piecesOf {cs : List Char} {d : Char} (mem : .plain d ∈ piecesOf cs) :
    IsSafe d := by
  obtain ⟨_, _, written⟩ := List.mem_map.mp mem
  exact isSafe_of_pieceOf written

theorem identifierChars_injective {cs ds : List Char}
    (same : identifierChars cs = identifierChars ds) : cs = ds := by
  have read := pieces?_identifierChars cs
  rw [same, pieces?_identifierChars ds] at read
  have codes : ds.map Char.toNat = cs.map Char.toNat := by
    rw [← code_piecesOf, ← code_piecesOf, Option.some.inj read]
  exact List.map_inj_right (fun _ _ => Char.toNat_inj.mp) |>.mp codes.symm

theorem identifier_injective {v w : String} (same : identifier v = identifier w) : v = w :=
  String.toList_inj.mp (identifierChars_injective (String.ofList_injective same))

end Identifier

section Strings

/-- Some double quote does not stand behind an escaping backslash. -/
def hasBareQuote : List Char → Bool
  | [] => false
  | '\\' :: _ :: rest => hasBareQuote rest
  | c :: rest => c == '"' || hasBareQuote rest

/-- A string whose opening quote has been read: its text, and what follows its closing quote. -/
def readQuoted? : List Char → Option (List Char × List Char)
  | [] => none
  | '\\' :: c :: rest => (readQuoted? rest).map fun (text, rest) => (c :: text, rest)
  | c :: rest =>
    if c = '\\' then none
    else if c = '"' then some ([], rest)
    else (readQuoted? rest).map fun (text, rest) => (c :: text, rest)

theorem readQuoted?_escape (c : Char) (rest : List Char) :
    readQuoted? ('\\' :: c :: rest) =
      (readQuoted? rest).map fun (text, rest) => (c :: text, rest) := rfl

theorem readQuoted?_quote (rest : List Char) : readQuoted? ('"' :: rest) = some ([], rest) := by
  simp [readQuoted?]

theorem readQuoted?_cons {c : Char} (slash : c ≠ '\\') (quote : c ≠ '"') (rest : List Char) :
    readQuoted? (c :: rest) = (readQuoted? rest).map fun (text, rest) => (c :: text, rest) := by
  rw [readQuoted?.eq_def]
  simp [slash, quote]

theorem hasBareQuote_cons {c : Char} (slash : c ≠ '\\') (rest : List Char) :
    hasBareQuote (c :: rest) = (c == '"' || hasBareQuote rest) := by
  rw [hasBareQuote.eq_def]
  simp [slash]

theorem stringChar_cases (c : Char) :
    (stringChar c = ['\\', c] ∧ (c = '\\' ∨ c = '"')) ∨
      (stringChar c = [c] ∧ c ≠ '\\' ∧ c ≠ '"') := by
  unfold stringChar
  split
  · rename_i special
    exact .inl ⟨rfl, by simpa using special⟩
  · rename_i other
    simp only [Bool.or_eq_true, decide_eq_true_eq, not_or] at other
    exact .inr ⟨rfl, other⟩

theorem stringChars_cons (c : Char) (cs : List Char) :
    stringChars (c :: cs) = stringChar c ++ stringChars cs := rfl

theorem hasBareQuote_stringChars (cs : List Char) : hasBareQuote (stringChars cs) = false := by
  induction cs with
  | nil => rfl
  | cons c rest ih =>
    rw [stringChars_cons]
    rcases stringChar_cases c with ⟨escaped, _⟩ | ⟨bare, slash, quote⟩
    · rw [escaped]
      exact ih
    · rw [bare, List.singleton_append, hasBareQuote_cons slash, ih]
      simpa using quote

theorem readQuoted?_stringChars (cs rest : List Char) :
    readQuoted? (stringChars cs ++ '"' :: rest) = some (cs, rest) := by
  induction cs with
  | nil => exact readQuoted?_quote rest
  | cons c others ih =>
    rw [stringChars_cons, List.append_assoc]
    rcases stringChar_cases c with ⟨escaped, _⟩ | ⟨bare, slash, quote⟩
    · rw [escaped]
      change readQuoted? ('\\' :: c :: (stringChars others ++ '"' :: rest)) = _
      rw [readQuoted?_escape, ih]
      rfl
    · rw [bare, List.singleton_append, readQuoted?_cons slash quote, ih]
      rfl

theorem attributeEquals_injective {name v w : String}
    (same : attributeEquals name v = attributeEquals name w) : v = w := by
  unfold attributeEquals at same
  rw [String.append_left_inj, String.append_right_inj] at same
  have escaped : stringChars v.toList = stringChars w.toList := String.ofList_injective same
  have read := unescapeString_stringChars v.toList
  rw [escaped, unescapeString_stringChars] at read
  exact String.toList_inj.mp (Option.some.inj read).symm

end Strings

section Unescaped

theorem length_readQuoted? {cs text rest : List Char} (read : readQuoted? cs = some (text, rest)) :
    rest.length < cs.length := by
  fun_induction readQuoted? cs generalizing text with
  | case1 => cases read
  | case2 c more ih =>
    obtain ⟨⟨text', rest'⟩, behind, same⟩ := Option.map_eq_some_iff.mp read
    cases same
    have shorter := ih behind
    simp only [List.length_cons]
    omega
  | case3 => cases read
  | case4 =>
    cases read
    simp
  | case5 c more _ _ _ ih =>
    obtain ⟨⟨text', rest'⟩, behind, same⟩ := Option.map_eq_some_iff.mp read
    cases same
    have shorter := ih behind
    simp only [List.length_cons]
    omega

def IsBare (cs : List Char) : Prop := '"' ∉ cs ∧ '\\' ∉ cs

theorem isBare_nil : IsBare [] := ⟨List.not_mem_nil, List.not_mem_nil⟩

theorem isBare_cons {c : Char} {cs : List Char} (quote : c ≠ '"') (slash : c ≠ '\\') :
    IsBare (c :: cs) ↔ IsBare cs := by
  simp [IsBare, quote.symm, slash.symm]

variable {cs rest rest' : List Char}

theorem readQuoted?_of_isBare (bare : IsBare cs) :
    readQuoted? (cs ++ '"' :: rest) = some (cs, rest) := by
  induction cs with
  | nil => exact readQuoted?_quote rest
  | cons c others ih =>
    have quote : c ≠ '"' := fun same => bare.1 (same ▸ List.mem_cons_self)
    have slash : c ≠ '\\' := fun same => bare.2 (same ▸ List.mem_cons_self)
    rw [List.cons_append, readQuoted?_cons slash quote, ih ((isBare_cons quote slash).mp bare)]
    rfl

theorem readQuoted?_cases {c d : Char} {text : List Char}
    (read : readQuoted? (c :: cs) = some (d :: text, rest)) :
    (c = '\\' ∧ ∃ others, cs = d :: others ∧ readQuoted? others = some (text, rest)) ∨
      (c = d ∧ c ≠ '\\' ∧ c ≠ '"' ∧ readQuoted? cs = some (text, rest)) := by
  by_cases slash : c = '\\'
  · subst slash
    cases cs with
    | nil => simp [readQuoted?] at read
    | cons e others =>
      rw [readQuoted?_escape] at read
      obtain ⟨⟨text', rest'⟩, behind, same⟩ := Option.map_eq_some_iff.mp read
      obtain ⟨⟨rfl, rfl⟩, rfl⟩ : (e = d ∧ text' = text) ∧ rest' = rest := by simpa using same
      exact .inl ⟨rfl, others, rfl, behind⟩
  by_cases quote : c = '"'
  · subst quote
    simp [readQuoted?_quote] at read
  · rw [readQuoted?_cons slash quote] at read
    obtain ⟨⟨text', rest'⟩, behind, same⟩ := Option.map_eq_some_iff.mp read
    obtain ⟨⟨rfl, rfl⟩, rfl⟩ : (c = d ∧ text' = text) ∧ rest' = rest := by simpa using same
    exact .inr ⟨rfl, slash, quote, behind⟩

theorem not_readQuoted?_backslashes :
    (n : Nat) → (cs : List Char) →
      readQuoted? (cs ++ '"' :: rest) ≠ some (List.replicate (n + 1) '\\' ++ cs, rest')
  | n, [], read => by
    rw [List.nil_append, readQuoted?_quote] at read
    simp [List.replicate_succ] at read
  | n, [c], read => by
    rcases readQuoted?_cases read with ⟨_, others, same, _⟩ | ⟨same, slash, _⟩
    · exact absurd (List.cons.inj same).1 (by decide)
    · exact slash same
  | n, c :: d :: more, read => by
    rcases readQuoted?_cases read with ⟨rfl, others, same, read⟩ | ⟨same, slash, _⟩
    · obtain ⟨rfl, rfl⟩ := List.cons.inj same
      have shifted : List.replicate (n + 1 + 1) '\\' ++ more =
          List.replicate n '\\' ++ '\\' :: '\\' :: more := by
  -- Read with one more backslash in front, or several, a text is never what it was: each step takes
  -- two backslashes for one of them, so they run out before the text does.
        simp [List.replicate_succ']
      exact not_readQuoted?_backslashes (n + 1) more (shifted ▸ read)
    · exact slash same

theorem isBare_of_readQuoted? (read : readQuoted? (cs ++ '"' :: rest) = some (cs, rest')) :
    IsBare cs := by
  induction cs with
  | nil => exact isBare_nil
  | cons c others ih =>
    rcases readQuoted?_cases read with ⟨rfl, more, same, read⟩ | ⟨_, slash, quote, read⟩
    · cases others with
      | nil => exact absurd (List.cons.inj same).1 (by decide)
      | cons d others =>
        obtain ⟨rfl, rfl⟩ := List.cons.inj same
        exact absurd read (not_readQuoted?_backslashes 0 others)
    · exact (isBare_cons quote slash).mpr (ih read)

end Unescaped

end ElementSearch.Css
