import ElementSearch.Proofs.Css.Escaping
import ElementSearch.Proofs.Locator.Interchange

/-! Tests on the properties of a component.
Behind the name of a component stands one test in brackets for each property, with the value between
double quotes.  The tests read back as the properties just when no value has a double quote or a
backslash, for nothing is escaped: a value with a quote ends its string there, and what follows in
it is read as the query's own. -/

namespace ElementSearch.LocatorOf

open Css

/-- Neither white space nor a sign of a test, so identifiers of any language have no other. -/
def isKeyChar (c : Char) : Bool :=
  !(Blank.isBlank c || ['[', ']', '=', '"', '\\'].contains c)

def IsKey (cs : List Char) : Prop := cs ≠ [] ∧ ∀ c ∈ cs, isKeyChar c = true

instance : DecidablePred IsKey := fun cs =>
  decidable_of_iff (cs ≠ [] ∧ cs.all isKeyChar = true) (and_congr_right fun _ => List.all_eq_true)

abbrev Test := List Char × List Char

def readTest? : List Char → Option (Test × List Char)
  | '[' :: cs =>
    match cs.takeWhile isKeyChar, cs.dropWhile isKeyChar with
    | c :: key, ' ' :: '=' :: ' ' :: '"' :: body =>
      match readQuoted? body with
      | some (text, ']' :: rest) => some ((c :: key, text), rest)
      | _ => none
    | _, _ => none
  | _ => none

theorem length_readTest? {cs rest : List Char} {test : Test}
    (read : readTest? cs = some (test, rest)) : rest.length < cs.length := by
  unfold readTest? at read
  split at read
  · rename_i cs
    split at read
    · rename_i key body named behind
      split at read
      · rename_i text quoted
        cases read
        have inside := length_readQuoted? quoted
        have whole := (List.dropWhile_sublist isKeyChar (l := cs)).length_le
        rw [behind] at whole
        simp only [List.length_cons] at inside whole ⊢
        omega
      · cases read
    · cases read
  · cases read

def readTests? (cs : List Char) : Option (List Test) :=
  match cs with
  | [] => some []
  | c :: more =>
    match read : readTest? (c :: more) with
    | none => none
    | some (test, rest) =>
      have _ := length_readTest? read
      (readTests? rest).map (test :: ·)
termination_by cs.length
decreasing_by assumption

theorem readTests?_none {c : Char} {more : List Char} (read : readTest? (c :: more) = none) :
    readTests? (c :: more) = none := by
  rw [readTests?]
  split
  · rfl
  · rename_i something
    cases read.symm.trans something

theorem readTests?_some {c : Char} {more rest : List Char} {test : Test}
    (read : readTest? (c :: more) = some (test, rest)) :
    readTests? (c :: more) = (readTests? rest).map (test :: ·) := by
  rw [readTests?]
  split
  · rename_i nothing
    cases read.symm.trans nothing
  · rename_i something
    cases read.symm.trans something
    rfl

def testChars (key text : List Char) : List Char :=
  '[' :: (key ++ (" = \"".toList ++ (text ++ ['"', ']'])))

theorem readTest?_testChars {key : List Char} (named : IsKey key) (text rest : List Char) :
    readTest? (testChars key text ++ rest) =
      match readQuoted? (text ++ '"' :: ']' :: rest) with
      | some (text, ']' :: rest) => some ((key, text), rest)
      | _ => none := by
  obtain ⟨c, more, rfl⟩ := List.exists_cons_of_ne_nil named.1
  have blank : isKeyChar ' ' = false := by decide
  have front (tail : List Char) : (c :: more ++ ' ' :: tail).takeWhile isKeyChar = c :: more := by
    rw [List.takeWhile_append_of_pos named.2]
    simp [blank]
  have back (tail : List Char) : (c :: more ++ ' ' :: tail).dropWhile isKeyChar = ' ' :: tail := by
    rw [List.dropWhile_append_of_pos named.2]
    simp [blank]
  have spelled : testChars (c :: more) text ++ rest =
      '[' :: (c :: more ++ ' ' :: '=' :: ' ' :: '"' :: (text ++ '"' :: ']' :: rest)) := by
    simp [testChars]
  rw [spelled, readTest?]
  simp only [front, back]

theorem string_of_readTest? {key text rest rest' : List Char} {test : Test} (named : IsKey key)
    (read : readTest? (testChars key text ++ rest) = some (test, rest')) :
    ∃ text', test = (key, text') ∧
      readQuoted? (text ++ '"' :: ']' :: rest) = some (text', ']' :: rest') := by
  rw [readTest?_testChars named] at read
  split at read
  · rename_i text' rest'' quoted
    cases read
    exact ⟨text', rfl, quoted⟩
  · cases read

def rowChars (tests : List Test) : List Char :=
  tests.flatMap fun (key, text) => testChars key text

theorem readTests?_rowChars_iff {tests : List Test} (named : ∀ test ∈ tests, IsKey test.1) :
    readTests? (rowChars tests) = some tests ↔ ∀ test ∈ tests, IsBare test.2 := by
  induction tests with
  | nil => simp [rowChars, readTests?]
  | cons test others ih =>
    obtain ⟨key, text⟩ := test
    obtain ⟨first, further⟩ := List.forall_mem_cons.mp named
    have opened := readTest?_testChars first text (rowChars others)
    have row : rowChars ((key, text) :: others) = testChars key text ++ rowChars others := rfl
    rw [List.forall_mem_cons, ← ih further, row]
    constructor
    · intro read
      cases step : readTest? (testChars key text ++ rowChars others) with
      | none =>
        rw [testChars, List.cons_append] at step read
        cases (readTests?_none step).symm.trans read
      | some found =>
        obtain ⟨test, rest⟩ := found
        obtain ⟨text', rfl, quoted⟩ := string_of_readTest? first step
        rw [testChars, List.cons_append] at step read
        rw [readTests?_some step] at read
        obtain ⟨tests, behind, same⟩ := Option.map_eq_some_iff.mp read
        cases same
        have bare := isBare_of_readQuoted? quoted
        rw [readQuoted?_of_isBare bare] at quoted
        cases quoted
        exact ⟨bare, behind⟩
    · rintro ⟨bare, behind⟩
      rw [readQuoted?_of_isBare bare] at opened
      rw [testChars, List.cons_append] at opened ⊢
      rw [readTests?_some opened, behind]
      rfl

def textProps (pairs : List (String × String)) : Value :=
  .dict (pairs.map fun (key, text) => (.text key, .text text))

def testsOf (pairs : List (String × String)) : List Test :=
  pairs.map fun (key, text) => (key.toList, text.toList)

theorem propSuffix_textProps (pairs : List (String × String)) :
    propSuffix (textProps pairs) = .ok (String.ofList (rowChars (testsOf pairs))) := by
  change propTests (pairs.map fun (key, text) => (.text key, .text text)) = _
  induction pairs with
  | nil => rfl
  | cons pair rest ih =>
    obtain ⟨key, text⟩ := pair
    rw [List.map_cons, propTests, ih]
    simp only [Value.display_text, bind, Except.bind, pure, Except.pure]
    refine congrArg Except.ok (String.toList_inj.mp ?_)
    simp [rowChars, testsOf, testChars]

theorem toQuery_of_component {l : Locator} (component : l.kind = .react ∨ l.kind = .vue)
    {pairs : List (String × String)} (given : l.props = textProps pairs) :
    l.toQuery = l.value.display.map fun name =>
      ⟨l.kind.label, .text (name ++ String.ofList (rowChars (testsOf pairs)))⟩ := by
  have suffix := propSuffix_textProps pairs
  rcases component with kind | kind
  · rw [toQuery_of_showsValue (.inr (.inr (.inl kind)))]
    simp only [wording, language, kind, given, suffix]
    cases l.value.display <;> rfl
  · rw [toQuery_of_showsValue (.inr (.inr (.inr (.inl kind))))]
    simp only [wording, language, kind, given, suffix]
    cases l.value.display <;> rfl

/-- Behind the name of a component its tests read back as its properties, in their order and with
nothing else, just when no value has a double quote or a backslash. -/
theorem component_tests_read_back_iff {l : Locator} (component : l.kind = .react ∨ l.kind = .vue)
    {pairs : List (String × String)} (given : l.props = textProps pairs)
    (named : ∀ pair ∈ pairs, IsKey pair.1.toList) :
    ∃ suffix : String,
      l.toQuery = l.value.display.map (fun name => ⟨l.kind.label, .text (name ++ suffix)⟩) ∧
      (readTests? suffix.toList = some (testsOf pairs) ↔
        ∀ pair ∈ pairs, '"' ∉ pair.2.toList ∧ '\\' ∉ pair.2.toList) := by
  refine ⟨_, toQuery_of_component component given, ?_⟩
  have named' : ∀ test ∈ testsOf pairs, IsKey test.1 := List.forall_mem_map.mpr named
  rw [String.toList_ofList, readTests?_rowChars_iff named', testsOf, List.forall_mem_map]
  rfl

def buttonObject (pairs : List (String × String)) : Value :=
  .dict [(.text "react", .text "Button"), (.text "props", textProps pairs)]

def button (pairs : List (String × String)) : Locator :=
  { make .react "Button" (buttonObject pairs) with
    props := textProps pairs, strict := .bool true }

theorem classify_buttonObject (pairs : List (String × String)) :
    classify [] .fuzzy false (buttonObject pairs) = .ok (button pairs) := rfl

def bracketedLabel : List (String × String) := [("label", "it's ]["), ("data-n", "1")]

theorem component_tests_read_back_bracketedLabel :
    (button bracketedLabel).kind = .react ∧
      (button bracketedLabel).props = textProps bracketedLabel ∧
      (∀ pair ∈ bracketedLabel, IsKey pair.1.toList) ∧
      ∃ suffix : String, (button bracketedLabel).toQuery =
          .ok ⟨"react", .text ("Button" ++ suffix)⟩ ∧
        readTests? suffix.toList = some (testsOf bracketedLabel) := by
  have named : ∀ pair ∈ bracketedLabel, IsKey pair.1.toList := by decide
  obtain ⟨suffix, compiled, reads⟩ :=
    component_tests_read_back_iff (l := button bracketedLabel) (.inl rfl) rfl named
  refine ⟨rfl, rfl, named, suffix, compiled, reads.mpr ?_⟩
  decide

/-- A double quote in a value ends its string, and the rest of the value adds a test. -/
theorem quote_adds_test :
    classify [] .fuzzy false (buttonObject [("label", "a\"][x = \"b")]) =
        .ok (button [("label", "a\"][x = \"b")]) ∧
      (button [("label", "a\"][x = \"b")]).toQuery =
        .ok ⟨"react", .text "Button[label = \"a\"][x = \"b\"]"⟩ ∧
      readTests? "[label = \"a\"][x = \"b\"]".toList =
        some (testsOf [("label", "a"), ("x", "b")]) := by
  refine ⟨classify_buttonObject _, rfl, ?_⟩
  cbv

end ElementSearch.LocatorOf
