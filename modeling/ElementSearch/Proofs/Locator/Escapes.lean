import ElementSearch.Proofs.Css.Identifier
import ElementSearch.Proofs.Locator.Interchange

/-! Selectors with an escaped value.
Ids, names and accessibility labels are written into a selector with their value escaped, an id as
an identifier and the others as a quoted string.  Two values never give the same selector, and a
quoted value ends where its string does.  The selector of an id is valid unless the id is empty, is
a hyphen, or begins with a hyphen and a digit. -/

namespace ElementSearch.LocatorOf

open Css

/-- The value is written into the selector as a quoted string. -/
def QuotesValue (l : Locator) : Prop := l.kind = .name ∨ l.isAccessibility = true

/-- The value is escaped in the selector. -/
def EscapesValue (l : Locator) : Prop := l.kind = .id ∨ l.QuotesValue

def target (l : Locator) : String := if l.kind = .name then "name" else "aria-label"

def selectorFor (l : Locator) (v : String) : String :=
  if l.kind = .id then "#" ++ identifier v else attributeEquals l.target v

section Selectors

variable {l m : Locator} {v w : String}

theorem QuotesValue.ne_id (quotes : l.QuotesValue) : l.kind ≠ .id := by
  rcases quotes with kind | accessible
  · simp [kind]
  · simp [(isAccessibility_iff.mp accessible).1]

theorem selectorFor_of_quotes (quotes : l.QuotesValue) (v : String) :
    l.selectorFor v = attributeEquals l.target v := if_neg quotes.ne_id

theorem EscapesValue.showsValue (escapes : l.EscapesValue) : l.ShowsValue := by
  rcases escapes with kind | kind | accessible
  · exact .inl kind
  · exact .inr (.inl kind)
  · exact .inr (.inr (.inr (.inr accessible)))

theorem EscapesValue.toQuery (escapes : l.EscapesValue) (given : l.value = .text v) :
    l.toQuery = .ok ⟨"css", .text (l.selectorFor v)⟩ := by
  rw [toQuery_of_showsValue escapes.showsValue]
  rcases escapes with kind | kind | accessible
  · simp only [wording, language, selectorFor, kind, given, Value.display_text]
    rfl
  · simp only [wording, language, selectorFor, target, kind, given, Value.display_text]
    rfl
  · have kind := (isAccessibility_iff.mp accessible).1
    simp only [wording, language, selectorFor, target, kind, given, Value.display_text]
    rfl

theorem selectorFor_congr (alike : m.kind = l.kind) : m.selectorFor = l.selectorFor := by
  funext v
  rw [selectorFor, selectorFor, target, target, alike]

theorem selectorFor_injective (same : l.selectorFor v = l.selectorFor w) : v = w := by
  unfold selectorFor at same
  split at same
  · rw [String.append_right_inj] at same
    exact identifier_injective same
  · exact attributeEquals_injective same

end Selectors

/-- Decoded from the left, an escaped identifier gives back the text, and it has nothing but
letters, digits, hyphens and underscores outside escapes; an escaped string gives back the text too,
and has neither a bare quote nor a backslash at its end.  So two values of one kind of locator give
two selectors, and the string of a selector ends where it was closed. -/
theorem escapes_read_back :
    (∀ v : String, ∃ pieces, pieces? none (identifier v).toList = some pieces ∧
      pieces.map Piece.code = v.toList.map Char.toNat ∧ ∀ c, .plain c ∈ pieces → IsSafe c) ∧
    (∀ v : String, unescapeString (string v).toList = some v.toList ∧
      hasBareQuote (string v).toList = false) ∧
    ∀ (l : Locator) (v : String), l.EscapesValue → l.value = .text v →
      ∃ words, l.toQuery = .ok ⟨"css", .text words⟩ ∧
        (l.QuotesValue → words = "[" ++ l.target ++ "=\"" ++ string v ++ "\"]" ∧
          ∀ rest, readQuoted? ((string v).toList ++ '"' :: rest) = some (v.toList, rest)) ∧
        ∀ (m : Locator) (w : String), m.EscapesValue → m.kind = l.kind → m.value = .text w →
          m.toQuery = .ok ⟨"css", .text words⟩ → w = v := by
  refine ⟨?_, ?_, ?_⟩
  · intro v
    rw [identifier, String.toList_ofList]
    exact ⟨_, pieces?_identifierChars v.toList, code_piecesOf v.toList,
      fun _ => isSafe_of_mem_piecesOf⟩
  · intro v
    rw [string, String.toList_ofList]
    exact ⟨unescapeString_stringChars v.toList, hasBareQuote_stringChars v.toList⟩
  · intro l v escapes given
    refine ⟨_, escapes.toQuery given, ?_, ?_⟩
    · intro quotes
      refine ⟨selectorFor_of_quotes quotes v, fun rest => ?_⟩
      rw [string, String.toList_ofList]
      exact readQuoted?_stringChars v.toList rest
    · intro m w escapes' alike given' compiled
      rw [escapes'.toQuery given', selectorFor_congr alike] at compiled
      have same : l.selectorFor w = l.selectorFor v := by simpa using compiled
      exact selectorFor_injective same

def closingLabel : Locator :=
  { make .custom "\"] *" .null with engine := accessibilityEngine }

theorem escapes_read_back_closingLabel :
    closingLabel.EscapesValue ∧ closingLabel.QuotesValue ∧ closingLabel.value = .text "\"] *" ∧
      closingLabel.toQuery = .ok ⟨"css", .text "[aria-label=\"\\\"] *\"]"⟩ ∧
      readQuoted? "\\\"] *\"]".toList = some ("\"] *".toList, [']']) := by
  have quotes : closingLabel.QuotesValue := .inr (by decide)
  obtain ⟨words, compiled, quoted, _⟩ :=
    escapes_read_back.2.2 closingLabel "\"] *" (.inr quotes) rfl
  obtain ⟨rfl, ends⟩ := quoted quotes
  exact ⟨.inr quotes, quotes, rfl, compiled, ends [']']⟩

def keyed (key text : String) : Value := .dict [(.text key, .text text)]

def ofKeyed (kind : Kind) (text : String) : Locator :=
  { make kind (.text text) (keyed kind.label text) with strict := .bool true }

theorem classify_keyed_id (fallback : Kind) (strict : Bool) (v : String) :
    classify [] fallback strict (keyed "id" v) = .ok (ofKeyed .id v) := rfl

/-- The selector of an id is a number sign and one identifier unless the id is empty, is a hyphen,
or begins with a hyphen and a digit. -/
theorem id_selector_iff (fallback : Kind) (strict : Bool) (v : String) :
    ∃ l words, classify [] fallback strict (keyed "id" v) = .ok l ∧
      l.toQuery = .ok ⟨"css", .text words⟩ ∧
      (IsIdSelector words.toList ↔ v ≠ "" ∧ v ≠ "-" ∧
        ∀ d rest, v.toList = '-' :: d :: rest → Alphanumeric.isAsciiDigit d = false) := by
  have escapes : (ofKeyed .id v).EscapesValue := .inl rfl
  refine ⟨ofKeyed .id v, _, classify_keyed_id fallback strict v, escapes.toQuery rfl, ?_⟩
  have spelled : ((ofKeyed .id v).selectorFor v).toList = '#' :: identifierChars v.toList := by
    change ("#" ++ identifier v).toList = _
    simp [identifier]
  have empty : v ≠ "" ↔ v.toList ≠ [] := not_congr String.toList_inj.symm
  have hyphen : v ≠ "-" ↔ v.toList ≠ ['-'] := not_congr String.toList_inj.symm
  rw [spelled, isIdSelector_iff, isIdentifier_identifierChars_iff, empty, hyphen]

/-- A digit behind a hyphen is left as it is, and the two begin no identifier. -/
theorem hyphen_digit_unescaped :
    classify [] .fuzzy false (keyed "id" "-5") = .ok (ofKeyed .id "-5") ∧
      (ofKeyed .id "-5").toQuery = .ok ⟨"css", .text "#-5"⟩ ∧ ¬IsIdSelector "#-5".toList := by
  refine ⟨rfl, rfl, ?_⟩
  change ¬IsIdSelector ('#' :: identifierChars ['-', '5'])
  rw [isIdSelector_iff, isIdentifier_identifierChars_iff]
  rintro ⟨_, _, noDigit⟩
  exact absurd (noDigit '5' [] rfl) (by decide)

end ElementSearch.LocatorOf
