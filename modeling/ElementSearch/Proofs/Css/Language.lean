import ElementSearch.Css.Sniff
import ElementSearch.Proofs.Text.Words

/-! The language of selectors, rule by rule, and the texts taken for selectors.
The rules say which lists of characters are selectors and fix no way to read them: white space
between two compounds may pad a combinator or be one, and a bare attribute value may or may not
keep the letter of a flag.  Whether a text looks like a selector is decided in agreement with
them.  White space and word characters are those of Unicode. -/

namespace ElementSearch.Css

open Grammar

def OpensName (c : Char) : Prop := ('a' ≤ c ∧ c ≤ 'z') ∨ ('A' ≤ c ∧ c ≤ 'Z') ∨ c = '_'

def ContinuesName (c : Char) : Prop := OpensName c ∨ ('0' ≤ c ∧ c ≤ '9') ∨ c = '-'

def IsWhite (cs : List Char) : Prop := ∀ c ∈ cs, Blank.isBlank c = true

/-- `-?[_a-zA-Z][_a-zA-Z0-9-]*` -/
inductive IsIdent : List Char → Prop
  | plain {c : Char} {cs : List Char} (first : OpensName c) (others : ∀ d ∈ cs, ContinuesName d) :
      IsIdent (c :: cs)
  | hyphen {c : Char} {cs : List Char} (first : OpensName c) (others : ∀ d ∈ cs, ContinuesName d) :
      IsIdent ('-' :: c :: cs)

inductive IsAttributeName : List Char → Prop
  | name {c : Char} {cs : List Char} (first : OpensName c)
      (others : ∀ d ∈ cs, Alphanumeric.isWord d = true ∨ d = '-' ∨ d = ':') :
      IsAttributeName (c :: cs)

inductive IsAttributeValue : List Char → Prop
  | doubleQuoted {cs : List Char} (inside : ∀ c ∈ cs, c ≠ '"') :
      IsAttributeValue ('"' :: (cs ++ ['"']))
  | singleQuoted {cs : List Char} (inside : ∀ c ∈ cs, c ≠ '\'') :
      IsAttributeValue ('\'' :: (cs ++ ['\'']))
  | bare {cs : List Char} (some : cs ≠ [])
      (inside : ∀ c ∈ cs, Blank.isBlank c = false ∧ c ≠ ']' ∧ c ≠ '"' ∧ c ≠ '\'') :
      IsAttributeValue cs

inductive IsOperator : List Char → Prop
  | equals : IsOperator ['=']
  | signed {c : Char} (sign : c = '~' ∨ c = '|' ∨ c = '^' ∨ c = '$' ∨ c = '*') :
      IsOperator [c, '=']

inductive IsFlag : List Char → Prop
  | absent : IsFlag []
  | letter {c : Char} {pad : List Char} (flag : c = 'i' ∨ c = 'I' ∨ c = 's' ∨ c = 'S')
      (white : IsWhite pad) : IsFlag (c :: pad)

/-- What an attribute is compared with, if it is compared at all. -/
inductive IsComparison : List Char → Prop
  | absent : IsComparison []
  | value {operator before value after flag : List Char} (sign : IsOperator operator)
      (white : IsWhite before) (word : IsAttributeValue value) (gap : IsWhite after)
      (letter : IsFlag flag) : IsComparison (operator ++ (before ++ (value ++ (after ++ flag))))

inductive IsAttribute : List Char → Prop
  | brackets {before name after comparison : List Char} (white : IsWhite before)
      (word : IsAttributeName name) (gap : IsWhite after) (test : IsComparison comparison) :
      IsAttribute ('[' :: (before ++ (name ++ (after ++ (comparison ++ [']'])))))

inductive IsArgument : List Char → Prop
  | absent : IsArgument []
  | brackets {cs : List Char} (inside : ∀ c ∈ cs, c ≠ '(' ∧ c ≠ ')') :
      IsArgument ('(' :: (cs ++ [')']))

inductive IsPseudo : List Char → Prop
  | oneColon {name argument : List Char} (word : IsIdent name) (brackets : IsArgument argument) :
      IsPseudo (':' :: (name ++ argument))
  | twoColons {name argument : List Char} (word : IsIdent name) (brackets : IsArgument argument) :
      IsPseudo (':' :: ':' :: (name ++ argument))

inductive IsSuffix : List Char → Prop
  | idName {name : List Char} (word : IsIdent name) : IsSuffix ('#' :: name)
  | className {name : List Char} (word : IsIdent name) : IsSuffix ('.' :: name)
  | bracketed {cs : List Char} (test : IsAttribute cs) : IsSuffix cs
  | pseudoName {cs : List Char} (test : IsPseudo cs) : IsSuffix cs

inductive IsCompound : List Char → Prop
  | element {name : List Char} {suffixes : List (List Char)} (word : IsIdent name)
      (tests : ∀ s ∈ suffixes, IsSuffix s) : IsCompound (name ++ suffixes.flatten)
  | any {suffixes : List (List Char)} (tests : ∀ s ∈ suffixes, IsSuffix s) :
      IsCompound ('*' :: suffixes.flatten)
  | bare {suffixes : List (List Char)} (some : suffixes ≠ []) (tests : ∀ s ∈ suffixes, IsSuffix s) :
      IsCompound suffixes.flatten

inductive IsCombinator : List Char → Prop
  | sign {before after : List Char} {c : Char} (white : IsWhite before)
      (sign : c = '>' ∨ c = '+' ∨ c = '~') (gap : IsWhite after) :
      IsCombinator (before ++ c :: after)
  | space {cs : List Char} (some : cs ≠ []) (white : IsWhite cs) : IsCombinator cs

inductive IsComma : List Char → Prop
  | padded {before after : List Char} (white : IsWhite before) (gap : IsWhite after) :
      IsComma (before ++ ',' :: after)

def IsComplex : List Char → Prop := Separated IsCompound IsCombinator

def IsSelectorList : List Char → Prop := Separated IsComplex IsComma

theorem has_letter_iff {c : Char} : CharSet.letter.has c = true ↔ OpensName c := by
  simp [CharSet.has, Alphanumeric.isAsciiLetter, OpensName, or_assoc]

theorem has_letterDigit_iff {c : Char} :
    (CharSet.letterDigitOr ['_', '-']).has c = true ↔ ContinuesName c := by
  simp only [CharSet.has, Alphanumeric.isAsciiLetter, Alphanumeric.isAsciiDigit, ContinuesName,
    OpensName, Bool.or_eq_true, Bool.and_eq_true, decide_eq_true_eq, List.contains_cons,
    List.contains_nil, beq_iff_eq, Bool.or_false]
  grind

theorem has_word_iff {c : Char} :
    (CharSet.wordOr ['-', ':']).has c = true ↔
      Alphanumeric.isWord c = true ∨ c = '-' ∨ c = ':' := by
  simp [CharSet.has]

variable {cs : List Char}

theorem matches_blanks_iff : Matches blanks cs ↔ IsWhite cs := matches_many_set_iff

theorem matches_ident_iff : Matches ident cs ↔ IsIdent cs := by
  have body : ∀ ds, Matches (both nameStart (many (set (.letterDigitOr ['_', '-'])))) ds ↔
      ∃ c rest, OpensName c ∧ (∀ d ∈ rest, ContinuesName d) ∧ ds = c :: rest := by
    intro ds
    simp only [nameStart, matches_both_iff, matches_set_iff, matches_many_set_iff,
      has_letter_iff, has_letterDigit_iff]
    constructor
    · rintro ⟨_, rest, ⟨c, first, rfl⟩, others, rfl⟩
      exact ⟨c, rest, first, others, rfl⟩
    · rintro ⟨c, rest, first, others, rfl⟩
      exact ⟨[c], rest, ⟨c, first, rfl⟩, others, rfl⟩
  simp only [ident, Grammar.sequence, matches_both_iff (g := optional _), matches_optional_iff,
    matches_one_iff, body]
  constructor
  · rintro ⟨_, _, rfl | rfl, ⟨c, rest, first, others, rfl⟩, rfl⟩
    · exact .hyphen first others
    · exact .plain first others
  · intro word
    cases word with
    | plain first others => exact ⟨[], _, .inr rfl, ⟨_, _, first, others, rfl⟩, rfl⟩
    | hyphen first others => exact ⟨['-'], _, .inl rfl, ⟨_, _, first, others, rfl⟩, rfl⟩

theorem matches_attributeValue_iff : Matches attributeValue cs ↔ IsAttributeValue cs := by
  simp only [attributeValue, choice, Grammar.sequence, matches_either_iff, matches_one_both_iff]
  simp only [matches_both_iff, matches_one_iff, matches_many_set_iff, matches_atLeastOne_set_iff]
  constructor
  · rintro (⟨_, ⟨inside, _, all, rfl, rfl⟩, rfl⟩ | ⟨_, ⟨inside, _, all, rfl, rfl⟩, rfl⟩ |
      ⟨some, all⟩)
    · exact .doubleQuoted (by simpa [CharSet.has] using all)
    · exact .singleQuoted (by simpa [CharSet.has] using all)
    · exact .bare some (by simpa [CharSet.has] using all)
  · intro word
    cases word with
    | @doubleQuoted inside all =>
      exact .inl ⟨_, ⟨inside, _, by simpa [CharSet.has] using all, rfl, rfl⟩, rfl⟩
    | @singleQuoted inside all =>
      exact .inr (.inl ⟨_, ⟨inside, _, by simpa [CharSet.has] using all, rfl, rfl⟩, rfl⟩)
    | bare some all => exact .inr (.inr ⟨some, by simpa [CharSet.has] using all⟩)

theorem matches_flag_iff : Matches (optional caseFlag) cs ↔ IsFlag cs := by
  simp only [caseFlag, matches_optional_iff, matches_both_iff, matches_set_iff,
    matches_blanks_iff]
  constructor
  · rintro (⟨_, pad, ⟨c, member, rfl⟩, white, rfl⟩ | rfl)
    · exact .letter (by simpa [CharSet.has] using member) white
    · exact .absent
  · intro word
    cases word with
    | absent => exact .inr rfl
    | @letter c pad flag white =>
      exact .inl ⟨[c], pad, ⟨c, by simpa [CharSet.has] using flag, rfl⟩, white, rfl⟩

theorem matches_operator_iff {g : Grammar} :
    Matches (both (optional (set (.oneOf ['~', '|', '^', '$', '*']))) (both (one '=') g)) cs ↔
      ∃ operator rest, IsOperator operator ∧ Matches g rest ∧ cs = operator ++ rest := by
  rw [matches_both_iff]
  simp only [matches_optional_iff, matches_set_iff, matches_one_both_iff]
  constructor
  · rintro ⟨_, _, ⟨c, member, rfl⟩ | rfl, ⟨rest, follows, rfl⟩, rfl⟩
    · exact ⟨[c, '='], rest, .signed (by simpa [CharSet.has] using member), follows, rfl⟩
    · exact ⟨['='], rest, .equals, follows, rfl⟩
  · rintro ⟨_, rest, sign, follows, rfl⟩
    cases sign with
    | equals => exact ⟨[], _, .inr rfl, ⟨rest, follows, rfl⟩, rfl⟩
    | @signed c sign =>
      exact ⟨[c], _, .inl ⟨c, by simpa [CharSet.has] using sign, rfl⟩, ⟨rest, follows, rfl⟩, rfl⟩

def comparison : Grammar :=
  Grammar.sequence [optional (set (.oneOf ['~', '|', '^', '$', '*'])), one '=', blanks,
    attributeValue, blanks, optional caseFlag]

theorem attributeTest_eq :
    attributeTest = both (one '[') (both blanks (both nameStart
      (both (many (set (.wordOr ['-', ':'])))
        (both blanks (both (optional comparison) (one ']')))))) := rfl

theorem matches_comparison_iff : Matches (optional comparison) cs ↔ IsComparison cs := by
  simp only [comparison, Grammar.sequence, matches_optional_iff (g := both _ _),
    matches_operator_iff]
  simp only [matches_both_iff, matches_blanks_iff, matches_attributeValue_iff, matches_flag_iff]
  constructor
  · rintro (⟨_, _, sign, rest, rfl⟩ | rfl)
    · obtain ⟨_, _, white, rest, rfl⟩ := rest
      obtain ⟨_, _, word, rest, rfl⟩ := rest
      obtain ⟨_, _, gap, letter, rfl⟩ := rest
      exact .value sign white word gap letter
    · exact .absent
  · intro word
    cases word with
    | absent => exact .inr rfl
    | value sign white word gap letter =>
      refine .inl ⟨_, _, sign, ?_, rfl⟩
      refine ⟨_, _, white, ?_, rfl⟩
      exact ⟨_, _, word, ⟨_, _, gap, letter, rfl⟩, rfl⟩

theorem matches_attributeName_iff {g : Grammar} :
    Matches (both nameStart (both (many (set (.wordOr ['-', ':']))) g)) cs ↔
      ∃ name rest, IsAttributeName name ∧ Matches g rest ∧ cs = name ++ rest := by
  simp only [nameStart, matches_both_iff, matches_set_iff, matches_many_set_iff, has_letter_iff,
    has_word_iff]
  constructor
  · rintro ⟨_, _, ⟨c, first, rfl⟩, ⟨others, rest, all, follows, rfl⟩, rfl⟩
    exact ⟨c :: others, rest, .name first all, follows, rfl⟩
  · rintro ⟨_, rest, ⟨first, all⟩, follows, rfl⟩
    exact ⟨_, _, ⟨_, first, rfl⟩, ⟨_, rest, all, follows, rfl⟩, rfl⟩

theorem matches_attributeTest_iff : Matches attributeTest cs ↔ IsAttribute cs := by
  rw [attributeTest_eq, matches_one_both_iff]
  simp only [matches_both_iff (g := blanks), matches_attributeName_iff, matches_blanks_iff]
  simp only [matches_both_iff, matches_comparison_iff, matches_one_iff]
  constructor
  · rintro ⟨_, ⟨_, _, white, rest, rfl⟩, rfl⟩
    obtain ⟨_, _, word, rest, rfl⟩ := rest
    obtain ⟨_, _, gap, ⟨_, _, test, rfl, rfl⟩, rfl⟩ := rest
    exact .brackets white word gap test
  · rintro ⟨white, word, gap, test⟩
    refine ⟨_, ⟨_, _, white, ?_, rfl⟩, rfl⟩
    refine ⟨_, _, word, ?_, rfl⟩
    exact ⟨_, _, gap, ⟨_, _, test, rfl, rfl⟩, rfl⟩

def argument : Grammar := Grammar.sequence [one '(', many (set (.noneOf ['(', ')'])), one ')']

theorem pseudo_eq :
    pseudo = both (one ':') (both (optional (one ':')) (both ident (optional argument))) := rfl

theorem matches_argument_iff : Matches (optional argument) cs ↔ IsArgument cs := by
  simp only [argument, Grammar.sequence, matches_optional_iff, matches_one_both_iff]
  simp only [matches_both_iff, matches_many_set_iff, matches_one_iff]
  constructor
  · rintro (⟨_, ⟨inside, _, all, rfl, rfl⟩, rfl⟩ | rfl)
    · exact .brackets (by simpa [CharSet.has] using all)
    · exact .absent
  · intro word
    cases word with
    | absent => exact .inr rfl
    | @brackets inside all =>
      exact .inl ⟨_, ⟨inside, _, by simpa [CharSet.has] using all, rfl, rfl⟩, rfl⟩

theorem matches_pseudo_iff : Matches pseudo cs ↔ IsPseudo cs := by
  rw [pseudo_eq, matches_one_both_iff]
  simp only [matches_both_iff, matches_optional_iff (g := one _), matches_one_iff,
    matches_ident_iff, matches_argument_iff]
  constructor
  · rintro ⟨_, ⟨_, _, rfl | rfl, ⟨_, _, word, brackets, rfl⟩, rfl⟩, rfl⟩
    · exact (IsPseudo.twoColons word brackets :)
    · exact (IsPseudo.oneColon word brackets :)
  · intro word
    cases word with
    | oneColon word brackets => exact ⟨_, ⟨[], _, .inr rfl, ⟨_, _, word, brackets, rfl⟩, rfl⟩, rfl⟩
    | twoColons word brackets =>
      exact ⟨_, ⟨[':'], _, .inl rfl, ⟨_, _, word, brackets, rfl⟩, rfl⟩, rfl⟩

theorem matches_suffix_iff : Matches suffix cs ↔ IsSuffix cs := by
  simp only [suffix, choice, matches_either_iff, matches_one_both_iff, matches_ident_iff,
    matches_attributeTest_iff, matches_pseudo_iff]
  constructor
  · rintro (⟨name, word, rfl⟩ | ⟨name, word, rfl⟩ | test | test)
    · exact .idName word
    · exact .className word
    · exact .bracketed test
    · exact .pseudoName test
  · intro word
    cases word with
    | idName word => exact .inl ⟨_, word, rfl⟩
    | className word => exact .inr (.inl ⟨_, word, rfl⟩)
    | bracketed test => exact .inr (.inr (.inl test))
    | pseudoName test => exact .inr (.inr (.inr test))

theorem matches_compound_iff : Matches compound cs ↔ IsCompound cs := by
  simp only [compound, matches_either_iff, matches_atLeastOne_iff, matches_both_iff,
    matches_many_iff, matches_ident_iff, matches_one_iff, matches_suffix_iff]
  constructor
  · rintro (⟨_, _, word | rfl, ⟨suffixes, tests, rfl⟩, rfl⟩ | ⟨suffixes, some, tests, rfl⟩)
    · exact .element word tests
    · exact .any tests
    · exact .bare some tests
  · intro word
    cases word with
    | element word tests => exact .inl ⟨_, _, .inl word, ⟨_, tests, rfl⟩, rfl⟩
    | any tests => exact .inl ⟨['*'], _, .inr rfl, ⟨_, tests, rfl⟩, rfl⟩
    | bare some tests => exact .inr ⟨_, some, tests, rfl⟩

theorem matches_joined_iff :
    Matches (either (Grammar.sequence [blanks, set (.oneOf ['>', '+', '~']), blanks, compound])
      (both (atLeastOne (set .blank)) compound)) cs ↔
      ∃ s w, IsCombinator s ∧ IsCompound w ∧ cs = s ++ w := by
  -- White space on its own and white space around a sign are read by different branches.
  simp only [Grammar.sequence, matches_either_iff, matches_both_iff, matches_blanks_iff,
    matches_set_iff, matches_atLeastOne_set_iff, matches_compound_iff]
  constructor
  · rintro (⟨before, _, white, rest, rfl⟩ | ⟨s, w, ⟨some, white⟩, word, rfl⟩)
    · obtain ⟨_, _, ⟨c, member, rfl⟩, rest, rfl⟩ := rest
      obtain ⟨after, w, gap, word, rfl⟩ := rest
      have sign : c = '>' ∨ c = '+' ∨ c = '~' := by simpa [CharSet.has] using member
      exact ⟨before ++ c :: after, w, .sign white sign gap, word, by simp⟩
    · exact ⟨s, w, .space some white, word, rfl⟩
  · rintro ⟨s, w, between, word, rfl⟩
    cases between with
    | @sign before after c white sign gap =>
      have member : (CharSet.oneOf ['>', '+', '~']).has c = true := by
        simpa [CharSet.has] using sign
      refine .inl ⟨before, _, white, ?_, by rw [List.append_assoc]⟩
      exact ⟨[c], _, ⟨c, member, rfl⟩, ⟨after, w, gap, word, rfl⟩, rfl⟩
    | space some white => exact .inr ⟨s, w, ⟨some, white⟩, word, rfl⟩

theorem matches_complex_iff : Matches complex cs ↔ IsComplex cs :=
  matches_separated_iff (fun _ => matches_compound_iff) fun _ => matches_joined_iff

theorem matches_listed_iff :
    Matches (Grammar.sequence [blanks, one ',', blanks, complex]) cs ↔
      ∃ s w, IsComma s ∧ IsComplex w ∧ cs = s ++ w := by
  simp only [Grammar.sequence, matches_both_iff, matches_blanks_iff, matches_one_iff,
    matches_complex_iff]
  constructor
  · rintro ⟨before, _, white, ⟨_, _, rfl, ⟨after, w, gap, word, rfl⟩, rfl⟩, rfl⟩
    exact ⟨before ++ ',' :: after, w, .padded white gap, word, by simp⟩
  · rintro ⟨_, w, ⟨white, gap⟩, word, rfl⟩
    exact ⟨_, _, white, ⟨[','], _, rfl, ⟨_, w, gap, word, rfl⟩, rfl⟩, by simp⟩

theorem matches_selectorList_iff : Matches selectorList cs ↔ IsSelectorList cs :=
  matches_separated_iff (fun _ => matches_complex_iff) fun _ => matches_listed_iff

theorem ne_hyphen_of_opens {c : Char} (first : OpensName c) : c ≠ '-' := by
  rintro rfl
  revert first
  simp [OpensName]

theorem startsIdent_cons {c : Char} (h : c ≠ '-') (rest : List Char) :
    startsIdent (c :: rest) = CharSet.letter.has c := by
  unfold startsIdent
  split
  · rename_i same
    exact absurd (List.cons.inj same).1 h
  · rename_i same
    rw [(List.cons.inj same).1]
  · contradiction

theorem startsIdent_iff :
    startsIdent cs = true ↔ ∃ name rest, IsIdent name ∧ cs = name ++ rest := by
  constructor
  · intro starts
    unfold startsIdent at starts
    split at starts
    · rename_i c rest
      exact ⟨['-', c], rest, .hyphen (has_letter_iff.mp starts) (by simp), rfl⟩
    · rename_i c rest _
      exact ⟨[c], rest, .plain (has_letter_iff.mp starts) (by simp), rfl⟩
    · contradiction
  · rintro ⟨_, rest, word, rfl⟩
    cases word with
    | plain first _ =>
      rw [List.cons_append, startsIdent_cons (ne_hyphen_of_opens first)]
      exact has_letter_iff.mpr first
    | hyphen first _ => exact has_letter_iff.mpr first

theorem hasMarker_iff :
    hasMarker cs = true ↔ ∃ c ∈ cs, c = '#' ∨ c = '.' ∨ c = '[' ∨ c = ':' := by
  simp [hasMarker]

theorem looksLikeSelector_cons {c : Char} (h : c ≠ '[') (rest : List Char) :
    looksLikeSelector (c :: rest) =
      (((c = '#' || c = '.') && startsIdent rest) ||
        (hasMarker (Blank.trim (c :: rest)) &&
          accepts selectorList (Blank.trim (c :: rest)))) := by
  unfold looksLikeSelector
  split
  · contradiction
  · rename_i same
    exact absurd (List.cons.inj same).1 h
  · rename_i same
    obtain ⟨rfl, rfl⟩ := List.cons.inj same
    split
    · rename_i opens
      rw [opens, Bool.true_or]
    · rename_i opens
      rw [Bool.eq_false_iff.mpr opens, Bool.false_or]

/-- A text is taken for a selector when it opens with an attribute test, an id or a class, or
when without the white space around it it has a marker and is a word of the language. -/
theorem looksLikeSelector_iff_language (cs : List Char) :
    looksLikeSelector cs = true ↔
      cs ≠ [] ∧
        ((∃ rest, cs = '[' :: rest) ∨
          (∃ c name rest, (c = '#' ∨ c = '.') ∧ IsIdent name ∧ cs = c :: (name ++ rest)) ∨
          ((∃ c ∈ Blank.trim cs, c = '#' ∨ c = '.' ∨ c = '[' ∨ c = ':') ∧
            IsSelectorList (Blank.trim cs))) := by
  cases cs with
  | nil => simp [looksLikeSelector]
  | cons c rest =>
    by_cases bracket : c = '['
    · subst bracket
      exact ⟨fun _ => ⟨by simp, .inl ⟨rest, rfl⟩⟩, fun _ => rfl⟩
    · have opening : (∃ d name tail, (d = '#' ∨ d = '.') ∧ IsIdent name ∧
          c :: rest = d :: (name ++ tail)) ↔
          ((c = '#' ∨ c = '.') ∧ startsIdent rest = true) := by
        rw [startsIdent_iff]
        constructor
        · rintro ⟨d, name, tail, sign, word, same⟩
          obtain ⟨rfl, rfl⟩ := List.cons.inj same
          exact ⟨sign, name, tail, word, rfl⟩
        · rintro ⟨sign, name, tail, word, rfl⟩
          exact ⟨c, name, tail, sign, word, rfl⟩
      have closed : ¬ ∃ tail, c :: rest = '[' :: tail := by
        rintro ⟨tail, same⟩
        exact bracket (List.cons.inj same).1
      rw [looksLikeSelector_cons bracket, opening, ← hasMarker_iff, ← matches_selectorList_iff,
        ← accepts_iff]
      simp only [Bool.or_eq_true, Bool.and_eq_true, decide_eq_true_eq, ne_eq, reduceCtorEq,
        not_false_eq_true, true_and, closed, false_or]

example : looksLikeSelector "ul > li[lang=e i]".toList = true := by decide

example : looksLikeSelector "Step > #1".toList = false := by decide

end ElementSearch.Css
