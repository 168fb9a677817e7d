import ElementSearch.Text.Alphanumeric
import ElementSearch.Text.Blank

/-! Regular grammars over characters.
`Matches g cs` says that the whole of `cs` is a word of `g`.  `accepts` decides it by partial
derivatives: the set of grammars left to match after each character stays small, because equal
ones are kept once. -/

namespace ElementSearch

inductive CharSet where
  | oneOf (members : List Char)
  | noneOf (members : List Char)
  | blank
  | notBlankNor (members : List Char)
  | letter
  | wordOr (members : List Char)
  | letterDigitOr (members : List Char)
deriving DecidableEq

def CharSet.has : CharSet → Char → Bool
  | .oneOf members, c => members.contains c
  | .noneOf members, c => !members.contains c
  | .blank, c => Blank.isBlank c
  | .notBlankNor members, c => !(Blank.isBlank c || members.contains c)
  | .letter, c => Alphanumeric.isAsciiLetter c || c == '_'
  | .wordOr members, c => Alphanumeric.isWord c || members.contains c
  | .letterDigitOr members, c =>
    Alphanumeric.isAsciiLetter c || Alphanumeric.isAsciiDigit c || members.contains c

inductive Grammar where
  | empty
  | set (s : CharSet)
  | both (first second : Grammar)
  | either (left right : Grammar)
  | many (body : Grammar)
deriving DecidableEq

namespace Grammar

def sequence : List Grammar → Grammar
  | [] => empty
  | [g] => g
  | g :: rest => both g (sequence rest)

def choice (g : Grammar) : List Grammar → Grammar
  | [] => g
  | h :: rest => either g (choice h rest)

def one (c : Char) : Grammar := set (.oneOf [c])

def optional (g : Grammar) : Grammar := either g empty

def atLeastOne (g : Grammar) : Grammar := both g (many g)

/-- `cs` is a word of the grammar. -/
inductive Matches : Grammar → List Char → Prop
  | empty : Matches .empty []
  | set {s : CharSet} {c : Char} (h : s.has c = true) : Matches (.set s) [c]
  | both {g h : Grammar} {xs ys : List Char} (first : Matches g xs) (second : Matches h ys) :
      Matches (.both g h) (xs ++ ys)
  | left {g h : Grammar} {xs : List Char} (word : Matches g xs) : Matches (.either g h) xs
  | right {g h : Grammar} {xs : List Char} (word : Matches h xs) : Matches (.either g h) xs
  | stop {g : Grammar} : Matches (.many g) []
  | more {g : Grammar} {xs ys : List Char} (head : Matches g xs) (tail : Matches (.many g) ys) :
      Matches (.many g) (xs ++ ys)

def nullable : Grammar → Bool
  | .empty => true
  | .set _ => false
  | .both g h => g.nullable && h.nullable
  | .either g h => g.nullable || h.nullable
  | .many _ => true

/-- What is left to match after `c`, one grammar for every way of reading it. -/
def step (c : Char) : Grammar → List Grammar
  | .empty => []
  | .set s => if s.has c then [.empty] else []
  | .both g h =>
    let ahead := (g.step c).map (.both · h)
    if g.nullable then ahead ++ h.step c else ahead
  | .either g h => g.step c ++ h.step c
  | .many g => (g.step c).map (.both · (.many g))

def distinct : List Grammar → List Grammar
  | [] => []
  | g :: rest =>
    let others := distinct rest
    if others.contains g then others else g :: others

def stepAll (c : Char) (gs : List Grammar) : List Grammar := distinct (gs.flatMap (step c))

def acceptsAny (gs : List Grammar) : List Char → Bool
  | [] => gs.any nullable
  | c :: cs => acceptsAny (stepAll c gs) cs

def accepts (g : Grammar) (cs : List Char) : Bool := acceptsAny [g] cs

theorem mem_distinct {g : Grammar} {gs : List Grammar} : g ∈ distinct gs ↔ g ∈ gs := by
  induction gs with
  | nil => simp [distinct]
  | cons h rest ih =>
    simp only [distinct, List.mem_cons]
    split
    · rename_i seen
      have inside : h ∈ distinct rest := List.contains_iff_mem.mp seen
      constructor
      · exact fun m => .inr (ih.mp m)
      · rintro (rfl | m)
        · exact inside
        · exact ih.mpr m
    · simp [ih]

theorem matches_nil_iff {g : Grammar} : Matches g [] ↔ g.nullable = true := by
  induction g with
  | empty => simp [nullable, Matches.empty]
  | set s =>
    constructor
    · intro word; cases word
    · simp [nullable]
  | both g h ihg ihh =>
    constructor
    · intro word
      generalize outcome : ([] : List Char) = cs at word
      cases word with
      | both first second =>
        obtain ⟨rfl, rfl⟩ := List.append_eq_nil_iff.mp outcome.symm
        simp [nullable, ihg.mp first, ihh.mp second]
    · intro null
      simp only [nullable, Bool.and_eq_true] at null
      simpa using Matches.both (ihg.mpr null.1) (ihh.mpr null.2)
  | either g h ihg ihh =>
    constructor
    · intro word
      cases word with
      | left word => simp [nullable, ihg.mp word]
      | right word => simp [nullable, ihh.mp word]
    · intro null
      simp only [nullable, Bool.or_eq_true] at null
      rcases null with null | null
      · exact .left (ihg.mpr null)
      · exact .right (ihh.mpr null)
  | many g _ => simp [nullable, Matches.stop]

theorem matches_many_cons {g : Grammar} {c : Char} {cs : List Char}
    (word : Matches (.many g) (c :: cs)) :
    ∃ xs ys, cs = xs ++ ys ∧ Matches g (c :: xs) ∧ Matches (.many g) ys := by
  generalize shape : Grammar.many g = m at word
  generalize whole : c :: cs = ds at word
  induction word with
  | stop => simp at whole
  | @more g' xs ys head tail _ ihTail =>
    cases shape
    cases xs with
    | nil => exact ihTail rfl (by simpa using whole)
    | cons d xs =>
      simp only [List.cons_append, List.cons.injEq] at whole
      exact ⟨xs, ys, whole.2, whole.1 ▸ head, tail⟩
  | _ => simp at shape

theorem matches_cons_iff {g : Grammar} {c : Char} {cs : List Char} :
    Matches g (c :: cs) ↔ ∃ h ∈ g.step c, Matches h cs := by
  induction g generalizing cs with
  | empty =>
    constructor
    · intro word; cases word
    · simp [step]
  | set s =>
    constructor
    · intro word
      cases word with
      | set member => exact ⟨.empty, by simp [step, member], .empty⟩
    · rintro ⟨h, mem, word⟩
      simp only [step] at mem
      split at mem
      · rename_i member
        rw [List.mem_singleton.mp mem] at word
        cases word
        exact .set member
      · simp at mem
  | both g h ihg ihh =>
    constructor
    · intro word
      generalize whole : c :: cs = ds at word
      cases word with
      | @both _ _ xs ys first second =>
        cases xs with
        | nil =>
          have null := matches_nil_iff.mp first
          simp only [List.nil_append] at whole
          subst whole
          obtain ⟨k, mem, word⟩ := ihh.mp second
          exact ⟨k, by simp [step, null, mem], word⟩
        | cons d xs =>
          simp only [List.cons_append, List.cons.injEq] at whole
          obtain ⟨rfl, rfl⟩ := whole
          obtain ⟨k, mem, word⟩ := ihg.mp first
          refine ⟨.both k h, ?_, .both word second⟩
          simp only [step]
          split <;> simp [mem]
    · rintro ⟨k, mem, word⟩
      have cases' : (∃ k' ∈ g.step c, k = .both k' h) ∨ (g.nullable = true ∧ k ∈ h.step c) := by
        simp only [step] at mem
        split at mem
        · rename_i null
          rcases List.mem_append.mp mem with front | back
          · obtain ⟨k', inside, rfl⟩ := List.mem_map.mp front
            exact .inl ⟨k', inside, rfl⟩
          · exact .inr ⟨null, back⟩
        · obtain ⟨k', inside, rfl⟩ := List.mem_map.mp mem
          exact .inl ⟨k', inside, rfl⟩
      rcases cases' with ⟨k', inside, rfl⟩ | ⟨null, inside⟩
      · cases word with
        | @both _ _ xs ys first second =>
          have front : Matches g (c :: xs) := ihg.mpr ⟨k', inside, first⟩
          exact .both front second
      · have front : Matches g [] := matches_nil_iff.mpr null
        exact .both front (ihh.mpr ⟨k, inside, word⟩)
  | either g h ihg ihh =>
    constructor
    · intro word
      cases word with
      | left word =>
        obtain ⟨k, mem, word⟩ := ihg.mp word
        exact ⟨k, by simp [step, mem], word⟩
      | right word =>
        obtain ⟨k, mem, word⟩ := ihh.mp word
        exact ⟨k, by simp [step, mem], word⟩
    · rintro ⟨k, mem, word⟩
      rcases List.mem_append.mp mem with mem | mem
      · exact .left (ihg.mpr ⟨k, mem, word⟩)
      · exact .right (ihh.mpr ⟨k, mem, word⟩)
  | many g ih =>
    constructor
    · intro word
      obtain ⟨xs, ys, rfl, head, tail⟩ := matches_many_cons word
      obtain ⟨k, mem, word⟩ := ih.mp head
      exact ⟨.both k (.many g), List.mem_map.mpr ⟨k, mem, rfl⟩, .both word tail⟩
    · rintro ⟨k, mem, word⟩
      obtain ⟨k', inside, rfl⟩ := List.mem_map.mp mem
      cases word with
      | @both _ _ xs ys first second =>
        have front : Matches g (c :: xs) := ih.mpr ⟨k', inside, first⟩
        exact .more front second

theorem acceptsAny_iff {gs : List Grammar} {cs : List Char} :
    acceptsAny gs cs = true ↔ ∃ g ∈ gs, Matches g cs := by
  induction cs generalizing gs with
  | nil => simp [acceptsAny, matches_nil_iff]
  | cons c cs ih =>
    rw [acceptsAny, ih]
    constructor
    · rintro ⟨h, mem, word⟩
      obtain ⟨g, inside, stepped⟩ := List.mem_flatMap.mp (mem_distinct.mp mem)
      exact ⟨g, inside, matches_cons_iff.mpr ⟨h, stepped, word⟩⟩
    · rintro ⟨g, inside, word⟩
      obtain ⟨h, stepped, word⟩ := matches_cons_iff.mp word
      exact ⟨h, mem_distinct.mpr (List.mem_flatMap.mpr ⟨g, inside, stepped⟩), word⟩

theorem accepts_iff {g : Grammar} {cs : List Char} : accepts g cs = true ↔ Matches g cs := by
  simp [accepts, acceptsAny_iff]

end Grammar

end ElementSearch
