import ElementSearch.Proofs.XPath.Quote
import ElementSearch.Tier.Pattern

/-! What a text can do to a query.
The outline of a pattern is its tokens with a slot where a text goes.  A query for a text has the
tokens of the outline with those of the quoted text in every slot, so no text opens, closes or
moves any token of the pattern. -/

namespace ElementSearch.XPath.Pattern

open Reading

inductive Mark where
  | token (t : Token)
  | slot
deriving DecidableEq

def Mark.put (expression : List Token) : Mark → List Token
  | token t => [t]
  | slot => expression

def parts (p : Pattern) : List (Option (List Char)) :=
  p.map fun piece => match piece with
    | .fixed s => some s.toList
    | .slot => none

/-- A slot is only read between two tokens. -/
def marksFrom? : Reading → List (Option (List Char)) → Option (List Mark × Reading)
  | r, [] => some ([], r)
  | r, some cs :: rest => do
    let (tokens, next) ← r.scan? cs
    let (marks, last) ← marksFrom? next rest
    return (tokens.map .token ++ marks, last)
  | between, none :: rest => do
    let (marks, last) ← marksFrom? between rest
    return (.slot :: marks, last)
  | _, none :: _ => none

def outlineOf? (parts : List (Option (List Char))) : Option (List Mark) := do
  let (marks, r) ← marksFrom? between parts
  let last ← r.ended?
  return marks ++ last.map .token

def outline? (p : Pattern) : Option (List Mark) := outlineOf? p.parts

theorem toList_fill (p : Pattern) (expression : String) :
    (p.fill expression).toList = p.parts.flatMap fun part => part.getD expression.toList := by
  induction p with
  | nil => rfl
  | cons piece rest ih =>
    simp only [fill, parts] at ih ⊢
    cases piece <;> simp [String.join_cons, ih]

theorem count_none_parts (p : Pattern) : p.parts.count none = p.slots := by
  induction p with
  | nil => rfl
  | cons piece rest ih =>
    simp only [parts, slots] at ih ⊢
    cases piece <;> simp [ih]

theorem marksFrom?_fixed {cs : List Char} {rest : List (Option (List Char))} {r last : Reading}
    {marks : List Mark} (outlined : marksFrom? r (some cs :: rest) = some (marks, last)) :
    ∃ tokens next behind, r.scan? cs = some (tokens, next) ∧
      marksFrom? next rest = some (behind, last) ∧ marks = tokens.map .token ++ behind := by
  simp only [marksFrom?, bind, Option.bind_eq_some_iff, pure, Option.some.injEq] at outlined
  obtain ⟨⟨tokens, next⟩, first, ⟨behind, _⟩, going, same⟩ := outlined
  cases same
  exact ⟨tokens, next, behind, first, going, rfl⟩

theorem marksFrom?_slot {rest : List (Option (List Char))} {r last : Reading} {marks : List Mark}
    (outlined : marksFrom? r (none :: rest) = some (marks, last)) :
    r = between ∧ ∃ behind, marksFrom? between rest = some (behind, last) ∧
      marks = .slot :: behind := by
  cases r with
  | between =>
    simp only [marksFrom?, bind, Option.bind_eq_some_iff, pure, Option.some.injEq] at outlined
    obtain ⟨⟨behind, _⟩, going, same⟩ := outlined
    cases same
    exact ⟨rfl, behind, going, rfl⟩
  | _ => cases outlined

theorem flatMap_put_map (expression tokens : List Token) :
    (tokens.map Mark.token).flatMap (Mark.put expression) = tokens := by
  induction tokens with
  | nil => rfl
  | cons t rest ih => simp [Mark.put, ih]

theorem count_slot_map (tokens : List Token) : (tokens.map Mark.token).count .slot = 0 := by
  simp [List.count_eq_zero]

theorem scan?_parts_fill {inside : List Token} {expression : List Char}
    (read : between.scan? expression = some (inside, between))
    {parts : List (Option (List Char))} {r last : Reading} {marks : List Mark}
    (outlined : marksFrom? r parts = some (marks, last)) :
    r.scan? (parts.flatMap fun part => part.getD expression) =
      some (marks.flatMap (Mark.put inside), last) := by
  -- Reading goes through the parts one after the other; an expression that begins and ends between
  -- two tokens leaves the reading of everything else as it is.
  induction parts generalizing r marks with
  | nil =>
    cases outlined
    rfl
  | cons part rest ih =>
    rw [List.flatMap_cons]
    cases part with
    | some cs =>
      obtain ⟨tokens, next, behind, first, going, rfl⟩ := marksFrom?_fixed outlined
      rw [List.flatMap_append, flatMap_put_map]
      exact scan?_append_of_eq first (ih going)
    | none =>
      obtain ⟨rfl, behind, going, rfl⟩ := marksFrom?_slot outlined
      rw [List.flatMap_cons]
      exact scan?_append_of_eq read (ih going)

theorem count_slot_marksFrom? {parts : List (Option (List Char))} {r last : Reading}
    {marks : List Mark} (outlined : marksFrom? r parts = some (marks, last)) :
    marks.count .slot = parts.count none := by
  induction parts generalizing r marks with
  | nil =>
    cases outlined
    rfl
  | cons part rest ih =>
    cases part with
    | some cs =>
      obtain ⟨tokens, next, behind, _, going, rfl⟩ := marksFrom?_fixed outlined
      rw [List.count_append, count_slot_map, Nat.zero_add, ih going]
      simp
    | none =>
      obtain ⟨rfl, behind, going, rfl⟩ := marksFrom?_slot outlined
      rw [List.count_cons_self, ih going, List.count_cons_self]

theorem tokens?_fill {inside : List Token} {expression : String}
    (read : between.scan? expression.toList = some (inside, between)) {p : Pattern}
    {marks : List Mark} (outlined : p.outline? = some marks) :
    tokens? (p.fill expression) = some (marks.flatMap (Mark.put inside)) := by
  simp only [outline?, outlineOf?, bind, Option.bind_eq_some_iff, pure, Option.some.injEq]
    at outlined
  obtain ⟨⟨front, r⟩, read', last, ended, rfl⟩ := outlined
  simp only [tokens?, toList_fill, scan?_parts_fill read read', ended, bind, Option.bind_some, pure]
  rw [List.flatMap_append, flatMap_put_map]

theorem count_slot_outline? {p : Pattern} {marks : List Mark}
    (outlined : p.outline? = some marks) : marks.count .slot = p.slots := by
  simp only [outline?, outlineOf?, bind, Option.bind_eq_some_iff, pure, Option.some.injEq]
    at outlined
  obtain ⟨⟨front, r⟩, read, last, _, rfl⟩ := outlined
  rw [List.count_append, count_slot_map, Nat.add_zero, count_slot_marksFrom? read,
    count_none_parts]

theorem parts_nil : parts [] = [] := rfl

-- A text is spelled out by unification: evaluating `toList` decodes it character by character.
theorem parts_fixed {s : String} {cs : List Char} {p : Pattern} {rest : List (Option (List Char))}
    (spelled : s = String.ofList cs) (tail : parts p = rest) :
    parts (.fixed s :: p) = some cs :: rest := by
  rw [← tail, spelled]
  simp [parts]

theorem parts_slot {p : Pattern} {rest : List (Option (List Char))} (tail : parts p = rest) :
    parts (.slot :: p) = none :: rest := by
  rw [← tail]
  rfl

theorem parts_append (p q : Pattern) : parts (p ++ q) = parts p ++ parts q := List.map_append

/-- The parts of a pattern with its texts spelled out. -/
structure Spelling (p : Pattern) where
  parts : List (Option (List Char))
  same : p.parts = parts

namespace Spelling

variable {p q : Pattern} {s t : String} {cs ds : List Char}

def nothing : Spelling [] := ⟨[], parts_nil⟩

def text (spelled : s = String.ofList cs) (rest : Spelling p) : Spelling (.fixed s :: p) :=
  ⟨some cs :: rest.parts, parts_fixed spelled rest.same⟩

def hole (rest : Spelling p) : Spelling (.slot :: p) := ⟨none :: rest.parts, parts_slot rest.same⟩

def around (before : s = String.ofList cs) (after : t = String.ofList ds) :
    Spelling [.fixed s, .slot, .fixed t] := .text before (.hole (.text after .nothing))

def or (first : Spelling p) (rest : Spelling q) : Spelling (p ++ [.fixed " | "] ++ q) :=
  ⟨first.parts ++ [some [' ', '|', ' ']] ++ rest.parts, by
    rw [parts_append, parts_append, first.same, rest.same, parts_fixed rfl parts_nil]⟩

end Spelling

theorem isSome_outline? {p : Pattern} (spelling : Spelling p)
    (outlined : (outlineOf? spelling.parts).isSome = true) : p.outline?.isSome = true := by
  rwa [outline?, spelling.same]

end ElementSearch.XPath.Pattern

namespace ElementSearch.Tier

open XPath Pattern

/-- The patterns of all queries for a text. -/
def patterns : List Pattern :=
  [clickableNarrow, clickableWide, clickableSelf, checkableByText, checkableByName,
    fieldLabelEquals, fieldLabelContains, fieldByName, optionByVisibleText, optionByValue]

section Spellings

variable {p : Pattern} {s : String} {cs : List Char}

/-- The two halves of the path are spelled out one by one. -/
def Spelling.field {before after : List Char}
    (first : ".//*[self::input | self::textarea | self::select]" = String.ofList before)
    (second : notExcluded = String.ofList after) (rest : Spelling p) :
    Spelling (.fixed fieldPath :: p) :=
  have spelled : fieldPath = String.ofList (before ++ after) :=
    calc
      fieldPath = ".//*[self::input | self::textarea | self::select]" ++ notExcluded := rfl
      _ = String.ofList before ++ String.ofList after := congr (congrArg (· ++ ·) first) second
      _ = String.ofList (before ++ after) := String.ofList_append.symm
  .text spelled rest

def Spelling.pressed (before : s = String.ofList cs) (rest : Spelling p) :
    Spelling (.fixed s :: .fixed buttonInput :: p) := .text before (.text rfl rest)

attribute [local irreducible] fieldPath

def spelledNarrow : Spelling clickableNarrow :=
  .or (.around rfl rfl) <| .or (.around rfl rfl) <| .or (.around rfl rfl) <|
  Spelling.pressed rfl (.around rfl rfl)

def spelledWide : Spelling clickableWide :=
  .or (.text rfl <| .hole <| .around rfl rfl) <|
  .or (Spelling.pressed rfl <| .around rfl rfl) <|
  .or (.around rfl rfl) <| .or (.around rfl rfl) <| .or (.around rfl rfl) <|
  .or (Spelling.pressed rfl <| .around rfl rfl) <|
  .or (.around rfl rfl) <| .or (.around rfl rfl) <| .or (.around rfl rfl) <| .around rfl rfl

def spelledSelf : Spelling clickableSelf := .text rfl <| .hole <| .around rfl rfl

def spelledByText : Spelling checkableByText :=
  .or (.text rfl <| .text rfl <| .hole <| .around rfl rfl) <| .around rfl rfl

def spelledCheckable : Spelling checkableByName := .text rfl <| .around rfl rfl

def spelledEquals : Spelling fieldLabelEquals :=
  .or (Spelling.field rfl rfl <| .text rfl <| .hole <| .text rfl <| .hole <| .around rfl rfl) <|
  .text rfl <| .hole <| .text rfl <| Spelling.field rfl rfl .nothing

def spelledContains : Spelling fieldLabelContains :=
  .or (Spelling.field rfl rfl <| .text rfl <| .hole <| .text rfl <| .hole <| .around rfl rfl) <|
  .or (.text rfl <| .hole <| .text rfl <| Spelling.field rfl rfl .nothing) <|
  .or (.text rfl <| .hole <| .text rfl <| .text rfl .nothing) <|
  .or (.text rfl <| .hole <| .text rfl <| .text rfl .nothing) <|
  .text rfl <| .hole <| .text rfl <| .text rfl .nothing

def spelledField : Spelling fieldByName := Spelling.field rfl rfl <| .around rfl rfl

def spelledOption : Spelling optionByVisibleText := .text rfl <| .hole <| .around rfl rfl

def spelledValue : Spelling optionByValue := .text rfl <| .hole <| .around rfl rfl

end Spellings

theorem outline?_patterns : ∀ p ∈ patterns, p.outline?.isSome = true := by
  simp only [patterns, List.forall_mem_cons]
  exact ⟨isSome_outline? spelledNarrow (by decide +kernel),
    isSome_outline? spelledWide (by decide +kernel),
    isSome_outline? spelledSelf (by decide +kernel),
    isSome_outline? spelledByText (by decide +kernel),
    isSome_outline? spelledCheckable (by decide +kernel),
    isSome_outline? spelledEquals (by decide +kernel),
    isSome_outline? spelledContains (by decide +kernel),
    isSome_outline? spelledField (by decide +kernel),
    isSome_outline? spelledOption (by decide +kernel),
    isSome_outline? spelledValue (by decide +kernel), by simp⟩

/-- One outline serves for all texts: the queries for two texts differ in the expressions that
stand in its slots and nowhere else, and each expression stands for its own text. -/
theorem outline_of_all_texts {p : Pattern} (known : p ∈ patterns) :
    ∃ outline : List Pattern.Mark, outline.count .slot = p.slots ∧
      ∀ text : String, ∃ expression : List Token,
        tokens? (quote text) = some expression ∧
          stringValue? expression = some text.toList ∧
          tokens? (p.fill (quote text)) = some (outline.flatMap (Pattern.Mark.put expression)) := by
  obtain ⟨outline, outlined⟩ := Option.isSome_iff_exists.mp (outline?_patterns p known)
  refine ⟨outline, Pattern.count_slot_outline? outlined, ?_⟩
  intro text
  obtain ⟨expression, read, value⟩ := scan?_quoteChars text.toList
  have quoted : Reading.between.scan? (quote text).toList = some (expression, .between) := by
    simpa [quote] using read
  refine ⟨expression, ?_, value, Pattern.tokens?_fill quoted outlined⟩
  simp [tokens?, quoted, Reading.ended?]

theorem outline_of_clickableWide :
    clickableWide ∈ patterns ∧
      ∃ outline : List Pattern.Mark, outline.count .slot = 11 ∧
        ∀ text : String, ∃ expression : List Token,
          tokens? (quote text) = some expression ∧
            stringValue? expression = some text.toList ∧
            tokens? (clickableWide.fill (quote text)) =
              some (outline.flatMap (Pattern.Mark.put expression)) := by
  have known : clickableWide ∈ patterns := List.mem_cons_of_mem _ List.mem_cons_self
  exact ⟨known, slots_clickableWide ▸ outline_of_all_texts known⟩

end ElementSearch.Tier
