import ElementSearch.Text.Grammar

/-! The words of each way to put grammars together.
Every lemma reads one combinator as a statement about lists of characters, so that a grammar
turns into its language by rewriting. -/

namespace ElementSearch

/-- Items one after another with a separator between any two neighbours. -/
inductive Separated (item separator : List Char → Prop) : List Char → Prop
  | last {w : List Char} (word : item w) : Separated item separator w
  | more {w s rest : List Char} (word : item w) (between : separator s)
      (others : Separated item separator rest) : Separated item separator (w ++ s ++ rest)

namespace Grammar

variable {g h : Grammar} {cs : List Char}

theorem matches_empty_iff : Matches empty cs ↔ cs = [] := by
  constructor
  · intro word
    cases word
    rfl
  · rintro rfl
    exact .empty

theorem matches_set_iff {s : CharSet} : Matches (set s) cs ↔ ∃ c, s.has c = true ∧ cs = [c] := by
  constructor
  · intro word
    cases word with
    | set member => exact ⟨_, member, rfl⟩
  · rintro ⟨c, member, rfl⟩
    exact .set member

theorem matches_one_iff {c : Char} : Matches (one c) cs ↔ cs = [c] := by
  rw [one, matches_set_iff]
  constructor
  · rintro ⟨d, member, rfl⟩
    have same : d = c := by simpa [CharSet.has] using member
    rw [same]
  · rintro rfl
    exact ⟨c, by simp [CharSet.has], rfl⟩

theorem matches_both_iff :
    Matches (both g h) cs ↔ ∃ xs ys, Matches g xs ∧ Matches h ys ∧ cs = xs ++ ys := by
  constructor
  · intro word
    cases word with
    | both first second => exact ⟨_, _, first, second, rfl⟩
  · rintro ⟨xs, ys, first, second, rfl⟩
    exact .both first second

theorem matches_either_iff : Matches (either g h) cs ↔ Matches g cs ∨ Matches h cs := by
  constructor
  · intro word
    cases word with
    | left word => exact .inl word
    | right word => exact .inr word
  · rintro (word | word)
    · exact .left word
    · exact .right word

theorem matches_optional_iff : Matches (optional g) cs ↔ Matches g cs ∨ cs = [] := by
  rw [optional, matches_either_iff, matches_empty_iff]

theorem matches_one_both_iff {c : Char} :
    Matches (both (one c) h) cs ↔ ∃ ys, Matches h ys ∧ cs = c :: ys := by
  simp only [matches_both_iff, matches_one_iff]
  constructor
  · rintro ⟨xs, ys, rfl, second, rfl⟩
    exact ⟨ys, second, rfl⟩
  · rintro ⟨ys, second, rfl⟩
    exact ⟨[c], ys, rfl, second, rfl⟩

theorem matches_many_iff :
    Matches (many g) cs ↔ ∃ words : List (List Char), (∀ w ∈ words, Matches g w) ∧
      cs = words.flatten := by
  constructor
  · intro word
    generalize shape : many g = m at word
    induction word with
    | stop => exact ⟨[], by simp, rfl⟩
    | more head _ _ ih =>
      cases shape
      obtain ⟨words, all, rfl⟩ := ih rfl
      exact ⟨_ :: words, List.forall_mem_cons.mpr ⟨head, all⟩, rfl⟩
    | _ => simp at shape
  · rintro ⟨words, all, rfl⟩
    induction words with
    | nil => exact .stop
    | cons w words ih =>
      rw [List.forall_mem_cons] at all
      exact .more all.1 (ih all.2)

theorem matches_atLeastOne_iff :
    Matches (atLeastOne g) cs ↔ ∃ words : List (List Char), words ≠ [] ∧
      (∀ w ∈ words, Matches g w) ∧ cs = words.flatten := by
  simp only [atLeastOne, matches_both_iff, matches_many_iff]
  constructor
  · rintro ⟨w, _, head, ⟨words, all, rfl⟩, rfl⟩
    exact ⟨w :: words, by simp, List.forall_mem_cons.mpr ⟨head, all⟩, rfl⟩
  · rintro ⟨words, some, all, rfl⟩
    obtain ⟨w, words, rfl⟩ := List.exists_cons_of_ne_nil some
    rw [List.forall_mem_cons] at all
    exact ⟨w, words.flatten, all.1, ⟨words, all.2, rfl⟩, rfl⟩

theorem matches_many_set_iff {s : CharSet} :
    Matches (many (set s)) cs ↔ ∀ c ∈ cs, s.has c = true := by
  constructor
  · intro word
    obtain ⟨words, all, rfl⟩ := matches_many_iff.mp word
    intro c mem
    obtain ⟨w, inside, mem⟩ := List.mem_flatten.mp mem
    obtain ⟨d, member, rfl⟩ := matches_set_iff.mp (all w inside)
    rwa [List.mem_singleton.mp mem]
  · intro all
    induction cs with
    | nil => exact .stop
    | cons c cs ih =>
      rw [List.forall_mem_cons] at all
      exact .more (.set all.1) (ih all.2)

theorem matches_atLeastOne_set_iff {s : CharSet} :
    Matches (atLeastOne (set s)) cs ↔ cs ≠ [] ∧ ∀ c ∈ cs, s.has c = true := by
  simp only [atLeastOne, matches_both_iff, matches_set_iff, matches_many_set_iff]
  constructor
  · rintro ⟨_, ys, ⟨c, member, rfl⟩, all, rfl⟩
    exact ⟨by simp, List.forall_mem_cons.mpr ⟨member, all⟩⟩
  · rintro ⟨some, all⟩
    obtain ⟨c, cs, rfl⟩ := List.exists_cons_of_ne_nil some
    rw [List.forall_mem_cons] at all
    exact ⟨[c], cs, ⟨c, all.1, rfl⟩, all.2, rfl⟩

theorem matches_separated_iff {next : Grammar} {item separator : List Char → Prop}
    (items : ∀ w, Matches g w ↔ item w)
    (pairs : ∀ w, Matches next w ↔ ∃ s v, separator s ∧ item v ∧ w = s ++ v) :
    Matches (both g (many next)) cs ↔ Separated item separator cs := by
  constructor
  · intro word
    obtain ⟨first, _, head, tail, rfl⟩ := matches_both_iff.mp word
    obtain ⟨words, all, rfl⟩ := matches_many_iff.mp tail
    rw [items] at head
    clear word tail
    induction words generalizing first with
    | nil =>
      rw [List.flatten_nil, List.append_nil]
      exact .last head
    | cons w words ih =>
      rw [List.forall_mem_cons] at all
      obtain ⟨s, v, between, follows, rfl⟩ := (pairs w).mp all.1
      rw [List.flatten_cons, List.append_assoc, ← List.append_assoc first]
      exact .more head between (ih v follows all.2)
  · intro word
    induction word with
    | @last w word => exact matches_both_iff.mpr ⟨w, [], (items w).mpr word, .stop, by simp⟩
    | @more w s rest word between _ ih =>
      obtain ⟨v, ys, follows, tail, rfl⟩ := matches_both_iff.mp ih
      have step : Matches next (s ++ v) := (pairs _).mpr ⟨s, v, between, (items v).mp follows, rfl⟩
      refine matches_both_iff.mpr ⟨w, s ++ v ++ ys, (items w).mpr word, .more step tail, ?_⟩
      simp only [List.append_assoc]

end Grammar

end ElementSearch
