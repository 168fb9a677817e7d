import ElementSearch.Css.Token
import ElementSearch.Proofs.Css.Identifier

/-! Tests of an attribute for equality.
In brackets stand the name, the sign of equality and a value, which is an identifier or a quoted
string and may be followed by a letter that says whether case counts.  Escapes make a text shorter
and quotes are no part of it, so a text that is put behind the sign as it is is the value of the
test only if it is an identifier without escapes. -/

namespace ElementSearch.Css

def escaped (rest : List Char) : List Char :=
  if hexSize rest ≠ 0 then [pointChar (Hexadecimal.number (rest.take (hexSize rest)))]
  else rest.take (escapeSize rest)

/-- A text with its escapes undone; the first `gone` characters are left out. -/
def undo (gone : Nat) : List Char → List Char
  | [] => []
  | c :: rest =>
    match gone with
    | k + 1 => undo k rest
    | 0 =>
      if c = '\\' then escaped rest ++ undo (max (newlineSize rest) (escapeSize rest)) rest
      else c :: undo 0 rest

def IsLineBreak (cs : List Char) : Prop := cs = ['\r', '\n'] ∨ ∃ c, cs = [c] ∧ isLineEnd c = true

inductive IsStringRow (quote : Char) : List Char → Prop
  | nil : IsStringRow quote []
  | char {c : Char} {cs : List Char} (other : c ≠ quote ∧ c ≠ '\\' ∧ isLineEnd c = false)
      (row : IsStringRow quote cs) : IsStringRow quote (c :: cs)
  | escape {cs ds : List Char} (escape : IsEscape cs) (row : IsStringRow quote ds) :
      IsStringRow quote (cs ++ ds)
  | joined {cs ds : List Char} (lineEnd : IsLineBreak cs) (row : IsStringRow quote ds) :
      IsStringRow quote ('\\' :: (cs ++ ds))

/-- The characters write the value. -/
inductive Writes : List Char → List Char → Prop
  | bare {cs : List Char} (identifier : IsIdentifier cs) : Writes cs (undo 0 cs)
  | quoted {quote : Char} {cs : List Char} (mark : quote = '"' ∨ quote = '\'')
      (row : IsStringRow quote cs) : Writes (quote :: (cs ++ [quote])) (undo 0 cs)

def IsPadding (cs : List Char) : Prop := ∀ c ∈ cs, isBlank c = true

inductive IsTail (written : List Char) : List Char → Prop
  | padding {pad : List Char} (white : IsPadding pad) : IsTail written pad
  | letter {gap pad : List Char} {c : Char} (white : IsPadding gap)
      (apart : gap ≠ [] ∨ ¬IsIdentifier written) (letter : c ∈ ['i', 'I', 's', 'S'])
      (white' : IsPadding pad) : IsTail written (gap ++ c :: pad)

/-- The characters test the attribute `name` for the value, and nothing else. -/
inductive IsTest (name : List Char) : List Char → List Char → Prop
  | brackets {before between gap written tail value : List Char} (white : IsPadding before)
      (white' : IsPadding between) (white'' : IsPadding gap) (writes : Writes written value)
      (ends : IsTail written tail) :
      IsTest name
        ('[' :: (before ++ (name ++ (between ++ '=' :: (gap ++ (written ++ (tail ++ [']'])))))))
        value

/-- An identifier that has no escapes. -/
def IsPlainName (cs : List Char) : Prop := IsIdentifier cs ∧ '\\' ∉ cs

section Lengths

theorem length_escaped_le (rest : List Char) :
    (escaped rest).length ≤ max (newlineSize rest) (escapeSize rest) ∧ (escaped rest).length ≤ 1 ∧
      (escaped rest).length ≤ rest.length := by
  unfold escaped
  by_cases hex : hexSize rest ≠ 0
  · have size : 1 ≤ escapeSize rest := by
      simp only [escapeSize, if_pos hex, pointSize, if_neg hex]
      omega
    have some_ : 1 ≤ rest.length := by
      cases rest with
      | nil => exact absurd rfl hex
      | cons => simp
    rw [if_pos hex, List.length_singleton]
    exact ⟨by omega, by omega, some_⟩
  · have size : escapeSize rest ≤ 1 := by
      simp only [escapeSize, if_neg hex]
      split
      · split <;> omega
      · omega
    rw [if_neg hex, List.length_take]
    exact ⟨by omega, by omega, by omega⟩

theorem length_undo_le (cs : List Char) (gone : Nat) :
    (undo gone cs).length ≤ cs.length - gone := by
  induction cs generalizing gone with
  | nil => simp [undo]
  | cons c rest ih =>
    unfold undo
    split
    · rename_i k
      have further := ih k
      rw [List.length_cons]
      omega
    · split
      · have further := ih (max (newlineSize rest) (escapeSize rest))
        have bounds := length_escaped_le rest
        rw [List.length_append, List.length_cons]
        omega
      · have further := ih 0
        rw [List.length_cons, List.length_cons]
        omega

theorem length_undo_lt {cs : List Char} (slash : '\\' ∈ cs) : (undo 0 cs).length < cs.length := by
  induction cs with
  | nil => cases slash
  | cons c rest ih =>
    simp only [undo]
    split
    · have further := length_undo_le rest (max (newlineSize rest) (escapeSize rest))
      have bounds := length_escaped_le rest
      rw [List.length_append, List.length_cons]
      omega
    · rename_i other
      have later := (List.mem_cons.mp slash).resolve_left fun same => other same.symm
      have further := ih later
      rw [List.length_cons, List.length_cons]
      omega

theorem undo_of_notMem {cs : List Char} (absent : '\\' ∉ cs) : undo 0 cs = cs := by
  induction cs with
  | nil => rfl
  | cons c rest ih =>
    have other : c ≠ '\\' := fun same => absent (same ▸ List.mem_cons_self)
    have inside : '\\' ∉ rest := fun mem => absent (List.mem_cons_of_mem c mem)
    simp only [undo, if_neg other, ih inside]

theorem Writes.cases_length {written value : List Char} (writes : Writes written value) :
    value.length < written.length ∨ (value = written ∧ IsPlainName written) := by
  cases writes with
  | bare identifier =>
    by_cases slash : '\\' ∈ written
    · exact .inl (length_undo_lt slash)
    · exact .inr ⟨undo_of_notMem slash, identifier, slash⟩
  | quoted mark row =>
    rename_i quote cs
    have inside := length_undo_le cs 0
    refine .inl ?_
    rw [List.length_cons, List.length_append, List.length_singleton]
    omega

theorem writes_of_isPlainName {cs : List Char} (plain : IsPlainName cs) : Writes cs cs := by
  have writes := Writes.bare plain.1
  rwa [undo_of_notMem plain.2] at writes

end Lengths

instance : DecidablePred OpensIdentifier :=
  fun _ => inferInstanceAs (Decidable (_ ∨ _ ∨ _))

instance : DecidablePred ContinuesIdentifier :=
  fun _ => inferInstanceAs (Decidable (_ ∨ _ ∨ _))

section Names

theorem continues_of_isNameRow {cs : List Char} (row : IsNameRow cs) (absent : '\\' ∉ cs) :
    ∀ c ∈ cs, ContinuesIdentifier c := by
  induction row with
  | nil => exact nofun
  | char continues row ih =>
    exact List.forall_mem_cons.mpr
      ⟨continues, ih fun mem => absent (List.mem_cons_of_mem _ mem)⟩
  | escape escape row ih =>
    obtain ⟨rest, rfl⟩ := escape.opens
    exact absurd List.mem_cons_self absent

theorem isNameRow_of_continues {cs : List Char} (all : ∀ c ∈ cs, ContinuesIdentifier c) :
    IsNameRow cs := by
  induction cs with
  | nil => exact .nil
  | cons c rest ih =>
    obtain ⟨first, others⟩ := List.forall_mem_cons.mp all
    exact .char first (ih others)

theorem IsPlainName.continues {cs : List Char} (plain : IsPlainName cs) :
    ∀ c ∈ cs, ContinuesIdentifier c := by
  obtain ⟨⟨opening, row⟩, absent⟩ := plain
  rename_i front behind
  have hyphen : ContinuesIdentifier '-' := .inr (.inr rfl)
  have later := continues_of_isNameRow row fun mem => absent (List.mem_append_right front mem)
  have first : ∀ c ∈ front, ContinuesIdentifier c := by
    cases opening with
    | char opens => exact List.forall_mem_singleton.mpr (.inl opens)
    | hyphenChar opens =>
      exact List.forall_mem_cons.mpr ⟨hyphen, List.forall_mem_singleton.mpr (.inl opens)⟩
    | hyphens => exact List.forall_mem_cons.mpr ⟨hyphen, List.forall_mem_singleton.mpr hyphen⟩
    | escape escape =>
      obtain ⟨rest, rfl⟩ := escape.opens
      simp at absent
    | hyphenEscape escape =>
      obtain ⟨rest, rfl⟩ := escape.opens
      simp at absent
  exact List.forall_mem_append.mpr ⟨first, later⟩

theorem not_continues {c : Char} (sign : c = '=' ∨ c = '\\' ∨ c = ' ') :
    ¬ContinuesIdentifier c := by
  rcases sign with rfl | rfl | rfl <;> decide

theorem IsPlainName.notMem {cs : List Char} (plain : IsPlainName cs) {c : Char}
    (sign : c = '=' ∨ c = '\\' ∨ c = ' ') : c ∉ cs :=
  fun mem => not_continues sign (plain.continues c mem)

theorem isPlainName_cons {c : Char} {cs : List Char} (opens : OpensIdentifier c)
    (continues : ∀ d ∈ cs, ContinuesIdentifier d) : IsPlainName (c :: cs) := by
  have all : ∀ d ∈ c :: cs, ContinuesIdentifier d :=
    List.forall_mem_cons.mpr ⟨.inl opens, continues⟩
  exact ⟨.row (.char opens) (isNameRow_of_continues continues),
    fun mem => not_continues (.inr (.inl rfl)) (all '\\' mem)⟩

end Names

theorem IsPadding.equals_notMem {cs : List Char} (white : IsPadding cs) : '=' ∉ cs :=
  fun mem => absurd (white '=' mem) (by decide)

theorem dropWhile_to_equals {xs : List Char} (absent : '=' ∉ xs) (ys : List Char) :
    (xs ++ '=' :: ys).dropWhile (· != '=') = '=' :: ys := by
  have passed : ∀ c ∈ xs, (c != '=') = true := fun c mem =>
    bne_iff_ne.mpr fun same => absent (same ▸ mem)
  rw [List.dropWhile_append_of_pos passed]
  rfl

theorem eq_of_first_equals {xs ys us vs : List Char} (absent : '=' ∉ xs) (absent' : '=' ∉ us)
    (same : xs ++ '=' :: ys = us ++ '=' :: vs) : ys = vs := by
  have cut := congrArg (List.dropWhile (· != '=')) same
  rw [dropWhile_to_equals absent, dropWhile_to_equals absent'] at cut
  exact (List.cons.inj cut).2

theorem isTest_iff {name text : List Char} (plain : IsPlainName name) :
    IsTest name ('[' :: (name ++ '=' :: (text ++ [']']))) text ↔ IsPlainName text := by
  have named : '=' ∉ name := plain.notMem (.inl rfl)
  constructor
  · intro test
    generalize whole : '[' :: (name ++ '=' :: (text ++ [']'])) = cs at test
    obtain ⟨white, white', white'', writes, ends⟩ := test
    rename_i before between gap written tail
    have same : name ++ '=' :: (text ++ [']']) =
        (before ++ (name ++ between)) ++ '=' :: ((gap ++ (written ++ tail)) ++ [']']) := by
      simpa using whole
    have absent : '=' ∉ before ++ (name ++ between) := by
      simp [white.equals_notMem, named, white'.equals_notMem]
    have behind := eq_of_first_equals named absent same
    have parts : text = gap ++ (written ++ tail) := List.append_cancel_right behind
    have lengths := congrArg List.length parts
    simp only [List.length_append] at lengths
    -- the value is as long as all that stands there, so nothing of it can be escape or quote
    rcases writes.cases_length with shorter | ⟨value, plainWritten⟩
    · omega
    · exact value ▸ plainWritten
  · intro plainText
    have padding : IsPadding [] := nofun
    exact .brackets padding padding padding (writes_of_isPlainName plainText) (.padding padding)

end ElementSearch.Css
