import ElementSearch.Proofs.Css.Language
import ElementSearch.Proofs.XPath.NamePath
import ElementSearch.Tier

/-! The text itself as a path.
A text is tried as a path if it is words of Unicode with slashes between them, each of which begins
with a letter of ASCII or an underscore.  XPath has fewer characters for its names: superscripts,
fractions and other numeric signs are word characters and no part of any name.  The query is a path
of names exactly if the text has none of these, and otherwise it is no query at all. -/

namespace ElementSearch.Tier

open Grammar XPath

def IsWord (cs : List Char) : Prop :=
  ∃ c rest, cs = c :: rest ∧ Css.OpensName c ∧
    ∀ d ∈ rest, Alphanumeric.isWord d = true ∨ d = '.' ∨ d = '-'

/-- Words with one slash or two between neighbours. -/
def IsWordPath : List Char → Prop := Separated IsWord IsSlash

section Words

variable {cs : List Char}

theorem matches_plainName_iff : Matches plainName cs ↔ IsWord cs := by
  simp only [plainName, matches_both_iff, matches_set_iff, matches_many_set_iff,
    Css.has_letter_iff]
  constructor
  · rintro ⟨_, rest, ⟨c, opens, rfl⟩, all, rfl⟩
    exact ⟨c, rest, rfl, opens, fun d mem => by simpa [CharSet.has] using all d mem⟩
  · rintro ⟨c, rest, rfl, opens, all⟩
    exact ⟨[c], rest, ⟨c, opens, rfl⟩, fun d mem => by simpa [CharSet.has] using all d mem, rfl⟩

theorem matches_plainPath_iff : Matches plainPath cs ↔ IsWordPath cs := by
  refine matches_separated_iff (fun w => matches_plainName_iff) fun w => ?_
  simp only [Grammar.sequence, matches_both_iff, matches_optional_iff, matches_one_iff,
    matches_plainName_iff]
  constructor
  · rintro ⟨_, _, rfl, ⟨s, v, rfl | rfl, word, rfl⟩, rfl⟩
    · exact ⟨['/', '/'], _, .inr rfl, word, rfl⟩
    · exact ⟨['/'], _, .inl rfl, word, rfl⟩
  · rintro ⟨_, v, rfl | rfl, word, rfl⟩
    · exact ⟨['/'], v, rfl, ⟨[], v, .inr rfl, word, rfl⟩, rfl⟩
    · exact ⟨['/'], '/' :: v, rfl, ⟨['/'], v, .inl rfl, word, rfl⟩, rfl⟩

theorem isNameStart_of_opens {c : Char} (opens : Css.OpensName c) : isNameStart c = true := by
  rcases opens with ⟨low, high⟩ | ⟨low, high⟩ | rfl
  · have bounds : 97 ≤ c.toNat ∧ c.toNat ≤ 122 :=
      ⟨UInt32.le_iff_toNat_le.mp low, UInt32.le_iff_toNat_le.mp high⟩
    simp [isNameStart, nameStartTable, Intervals.mem, bounds]
  · have bounds : 65 ≤ c.toNat ∧ c.toNat ≤ 90 :=
      ⟨UInt32.le_iff_toNat_le.mp low, UInt32.le_iff_toNat_le.mp high⟩
    simp [isNameStart, nameStartTable, Intervals.mem, bounds]
  · decide

theorem IsWord.isName (word : IsWord cs) (named : ∀ c ∈ cs, c = '/' ∨ isNameChar c = true) :
    IsName cs := by
  obtain ⟨c, rest, rfl, opens, all⟩ := word
  refine ⟨c, rest, rfl, isNameStart_of_opens opens, fun d mem => ?_⟩
  rcases named d (List.mem_cons_of_mem c mem) with rfl | name
  · exact absurd (all '/' mem) (by decide)
  · exact name

theorem IsWordPath.namePath (path : IsWordPath cs)
    (named : ∀ c ∈ cs, c = '/' ∨ isNameChar c = true) : ∃ steps, NamePath cs steps := by
  induction path with
  | last word => exact ⟨_, .last (word.isName named)⟩
  | more word slash _ ih =>
    obtain ⟨front, rest⟩ := List.forall_mem_append.mp named
    obtain ⟨steps, path⟩ := ih rest
    exact ⟨_, .more (word.isName (List.forall_mem_append.mp front).1) slash path⟩

theorem IsWordPath.namePath_iff (path : IsWordPath cs) :
    (∃ steps, NamePath cs steps) ↔ ∀ c ∈ cs, c = '/' ∨ isNameChar c = true :=
  ⟨fun ⟨_, steps⟩ => steps.chars, path.namePath⟩

theorem isWord_of_opens {c : Char} (opens : Css.OpensName c) : Alphanumeric.isWord c = true := by
  have ascii : c.toNat < 128 := by
    rcases opens with ⟨_, high⟩ | ⟨_, high⟩ | rfl
    · exact Nat.lt_of_le_of_lt (UInt32.le_iff_toNat_le.mp high) (by decide)
    · exact Nat.lt_of_le_of_lt (UInt32.le_iff_toNat_le.mp high) (by decide)
    · decide
  rw [Alphanumeric.isWord, Alphanumeric.isAlphanumeric_of_ascii ascii]
  rcases opens with bounds | bounds | rfl <;> simp_all [Alphanumeric.isAsciiLetter]

theorem IsWordPath.chars (path : IsWordPath cs) :
    ∀ c ∈ cs, Alphanumeric.isWord c = true ∨ c = '.' ∨ c = '-' ∨ c = '/' := by
  have inWord {w : List Char} (word : IsWord w) :
      ∀ c ∈ w, Alphanumeric.isWord c = true ∨ c = '.' ∨ c = '-' ∨ c = '/' := by
    obtain ⟨c, rest, rfl, opens, all⟩ := word
    refine List.forall_mem_cons.mpr ⟨.inl (isWord_of_opens opens), fun d mem => ?_⟩
    rcases all d mem with word | dot | hyphen
    · exact .inl word
    · exact .inr (.inl dot)
    · exact .inr (.inr (.inl hyphen))
  induction path with
  | last word => exact inWord word
  | more word slash _ ih =>
    refine List.forall_mem_append.mpr ⟨List.forall_mem_append.mpr ⟨inWord word, ?_⟩, ih⟩
    exact fun c mem => .inr (.inr (.inr (IsSlash.chars slash c mem)))

theorem IsWordPath.unquoted (path : IsWordPath cs) : ∀ c ∈ cs, c ≠ '\'' ∧ c ≠ '"' := by
  intro c mem
  constructor <;> rintro rfl <;> exact absurd (path.chars _ mem) (by decide)

theorem isForeign_of_word {c : Char} (word : Alphanumeric.isWord c = true)
    (other : isNameChar c = false) : IsForeign c := by
  refine ⟨Nat.le_of_not_lt fun ascii => ?_, other⟩
  rw [Alphanumeric.isWord, Alphanumeric.isAlphanumeric_of_ascii ascii] at word
  have bounds : (97 ≤ c.toNat ∧ c.toNat ≤ 122) ∨ (65 ≤ c.toNat ∧ c.toNat ≤ 90) ∨
      (48 ≤ c.toNat ∧ c.toNat ≤ 57) ∨ c.toNat = 95 := by
    simp only [Alphanumeric.isAsciiLetter, Alphanumeric.isAsciiDigit, Bool.or_eq_true,
      Bool.and_eq_true, decide_eq_true_eq, beq_iff_eq, Char.le_def, UInt32.le_iff_toNat_le] at word
    rcases word with ((low | high) | digit) | rfl
    · exact .inl low
    · exact .inr (.inl high)
    · exact .inr (.inr (.inl digit))
    · exact .inr (.inr (.inr rfl))
  have name : isNameChar c = true := by
    simp only [isNameChar, isNameStart, nameStartTable, nameRestTable, Intervals.mem, List.any_cons,
      Bool.or_eq_true, Bool.and_eq_true, decide_eq_true_eq]
    omega
  rw [name] at other
  cases other

theorem IsWordPath.isForeign (path : IsWordPath cs) {c : Char} (mem : c ∈ cs) (step : c ≠ '/')
    (other : isNameChar c = false) : IsForeign c := by
  rcases path.chars c mem with word | rfl | rfl | rfl
  · exact isForeign_of_word word other
  · exact absurd other (by decide)
  · exact absurd other (by decide)
  · exact absurd rfl step

end Words

theorem path_mem_rawTiers {raw : String} (accepted : plainPath.accepts raw.toList = true)
    (position : Int) : ofPath position "raw" (".//" ++ raw) ∈ rawTiers raw position := by
  simp [rawTiers, accepted]

theorem mem_rawTiers_iff {raw : String} {position : Int} {tier : Tier} :
    tier ∈ rawTiers raw position ∧ tier.query.kind = .text "xpath" ↔
      IsWordPath raw.toList ∧ tier = ofPath position "raw" (".//" ++ raw) := by
  have selector : (ofSelector position "raw" raw).query.kind ≠ .text "xpath" := by
    simp [ofSelector]
  rw [← matches_plainPath_iff, ← accepts_iff]
  unfold rawTiers
  split
  · rename_i accepted
    simp only [List.mem_cons, List.not_mem_nil, or_false, accepted, true_and]
    constructor
    · rintro ⟨rfl | rfl, path⟩
      · exact absurd path selector
      · rfl
    · rintro rfl
      exact ⟨.inr rfl, rfl⟩
  · rename_i rejected
    constructor
    · rintro ⟨mem, path⟩
      rw [List.mem_singleton.mp mem] at path
      exact absurd path selector
    · exact fun accepted => absurd accepted.1 rejected

/-- The text is put as a path only if it is words with slashes between them.  It is then a path of
names, and read as one, if all its characters are slashes or belong in names; any other character
leaves a query that cannot be read. -/
theorem raw_path_named_iff {raw : String} {position : Int} {tier : Tier}
    (emitted : tier ∈ rawTiers raw position) (path : tier.query.kind = .text "xpath") :
    tier.query.value = .text (".//" ++ raw) ∧
      ((∃ steps, NamePath raw.toList steps) ↔ ∀ c ∈ raw.toList, c = '/' ∨ isNameChar c = true) ∧
      (∀ steps, NamePath raw.toList steps →
        tokens? (".//" ++ raw) = some (.sign ['.'] :: .sign ['/', '/'] :: steps)) ∧
      ((¬∃ steps, NamePath raw.toList steps) → tokens? (".//" ++ raw) = none) := by
  obtain ⟨words, rfl⟩ := mem_rawTiers_iff.mp ⟨emitted, path⟩
  refine ⟨rfl, words.namePath_iff, fun steps named => named.tokens?, fun unnamed => ?_⟩
  rw [words.namePath_iff] at unnamed
  obtain ⟨c, rest⟩ := Classical.not_forall.mp unnamed
  obtain ⟨mem, other⟩ := Classical.not_imp.mp rest
  obtain ⟨step, unnamed⟩ := not_or.mp other
  have foreign : IsForeign c := words.isForeign mem step (Bool.eq_false_iff.mpr unnamed)
  refine foreign.tokens? ?_ ?_
  · rw [String.toList_append]
    exact List.mem_append_right _ mem
  · rw [String.toList_append]
    exact List.forall_mem_append.mpr ⟨by simp, words.unquoted⟩

theorem raw_path_named_input : ofPath 4 "raw" ".//form//input.x" ∈ rawTiers "form//input.x" 4 ∧
    tokens? ".//form//input.x" = some [.sign ['.'], .sign ['/', '/'], .name "form".toList,
      .sign ['/', '/'], .name "input.x".toList] := by
  have emitted : ofPath 4 "raw" ".//form//input.x" ∈ rawTiers "form//input.x" 4 :=
    path_mem_rawTiers (by decide) 4
  have named : NamePath "form//input.x".toList
      [.name "form".toList, .sign ['/', '/'], .name "input.x".toList] :=
    .more ⟨'f', ['o', 'r', 'm'], rfl, by decide, List.all_eq_true.mp (by decide)⟩ (.inr rfl)
      (.last ⟨'i', "nput.x".toList, rfl, by decide, List.all_eq_true.mp (by decide)⟩)
  exact ⟨emitted, (raw_path_named_iff emitted rfl).2.2.1 _ named⟩

/-- The superscript is a word character and no character of a name. -/
theorem raw_path_unreadable : ofPath 4 "raw" ".//a²" ∈ rawTiers "a²" 4 ∧
    (¬∃ steps, NamePath "a²".toList steps) ∧ tokens? ".//a²" = none := by
  refine ⟨path_mem_rawTiers (by decide) 4, fun ⟨steps, named⟩ => ?_, by decide⟩
  exact absurd (named.chars '²' (by decide)) (by decide)

end ElementSearch.Tier
