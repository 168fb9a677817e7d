import ElementSearch.Proofs.XPath.Branches
import ElementSearch.Proofs.XPath.Whitespace
import ElementSearch.Tier

/-! Options by the text they show.
The text of an option is compared with the text that is looked for, the first after the treatment of
white space by XPath and the second trimmed.  The two treatments differ, so an option is found by
its own text only if trimming is all that its white space needs. -/

namespace ElementSearch.Tier

open XPath

def textEquals (expression : String) : String :=
  "[" ++ ("normalize-space(.) = " ++ expression) ++ "]"

def optionsWith (predicate : String) : String :=
  "./option" ++ predicate ++ "|./optgroup/option" ++ predicate

/-- The predicate compares the text of an element with the value. -/
def ComparesWith (predicate : String) (value : List Char) : Prop :=
  ∃ expression, predicate = textEquals expression ∧ IsPrimary expression.toList value

/-- The predicate holds of an element that has the text. -/
def HoldsOf (predicate : String) (text : List Char) : Prop :=
  ComparesWith predicate (normalizeSpace text)

section Comparison

variable {predicate expression : String} {value value' text : List Char}

theorem toList_textEquals (expression : String) :
    (textEquals expression).toList =
      '[' :: ("normalize-space(.) = ".toList ++ expression.toList ++ [']']) := by
  have opening : "[".toList = ['['] := by decide
  have closing : "]".toList = [']'] := by decide
  simp only [textEquals, String.toList_append, opening, closing, List.cons_append,
    List.nil_append]

theorem ComparesWith.unique (first : ComparesWith predicate value)
    (second : ComparesWith predicate value') : value = value' := by
  obtain ⟨expression, rfl, primary⟩ := first
  obtain ⟨other, same, primary'⟩ := second
  have lists : expression.toList ++ [']'] = other.toList ++ [']'] := by
    have whole := congrArg String.toList same
    rw [toList_textEquals, toList_textEquals, List.append_assoc, List.append_assoc] at whole
    exact List.append_cancel_left (List.cons.inj whole).2
  exact (primary.unique primary' lists).2.1

theorem ComparesWith.holdsOf_iff (compared : ComparesWith predicate value) :
    HoldsOf predicate text ↔ normalizeSpace text = value := by
  constructor
  · exact fun holds => holds.unique compared
  · rintro rfl
    exact compared

end Comparison

theorem fill_optionByVisibleText (expression : String) :
    optionByVisibleText.fill expression = optionsWith (textEquals expression) := by
  have first : "./option[normalize-space(.) = " =
      "./option" ++ ("[" ++ "normalize-space(.) = ") := by decide
  have second : "]|./optgroup/option[normalize-space(.) = " =
      "]" ++ ("|./optgroup/option" ++ ("[" ++ "normalize-space(.) = ")) := by decide
  simp only [optionByVisibleText, Pattern.fill, optionsWith, textEquals, List.map_cons,
    List.map_nil, String.join_cons, String.join_nil, first, second, String.append_assoc,
    String.append_empty]

section Branches

variable {path expression : String} (closed : Balanced path.toList)
  (balanced : Balanced expression.toList)

include closed balanced

theorem balanced_textEquals : Balanced (path ++ textEquals expression).toList := by
  have opened : Balanced "normalize-space(.) = ".toList := by decide
  have predicate : Balanced (['['] ++ ("normalize-space(.) = ".toList ++ expression.toList) ++
      [']']) := Balanced.surrounded (by decide) (by decide) (opened.append balanced)
  rw [String.toList_append, toList_textEquals]
  exact closed.append predicate

theorem branches_textEquals (one : branches path.toList = [path.toList]) :
    branches (path ++ textEquals expression).toList = [(path ++ textEquals expression).toList] := by
  have opened : Balanced "normalize-space(.) = ".toList := by decide
  have predicate := branches_predicate (opened.append balanced)
  rw [← toList_textEquals] at predicate
  have back : branchesFrom (Nesting.outside.after path.toList) (textEquals expression).toList =
      [(textEquals expression).toList] := by
    rw [closed]
    exact predicate
  have front : branches path.toList = [] ++ [path.toList] := one
  rw [String.toList_append]
  exact branchesFrom_append front back

end Branches

def textTest (text : String) : String := textEquals (quote (Blank.strip text))

theorem comparesWith_textTest (text : String) :
    ComparesWith (textTest text) (Blank.trim text.toList) := by
  refine ⟨quote (Blank.strip text), rfl, ?_⟩
  simpa [quote, Blank.strip] using isPrimary_quoteChars (Blank.trim text.toList)

theorem optionTiers_text (text : String) :
    ∃ byValue, optionTiers (.text text) =
      .ok [ofPath 1 "byVisibleText" (optionsWith (textTest text)), byValue] := by
  refine ⟨ofPath 2 "byValue" (optionByValue.fill (quote (Blank.strip text))), ?_⟩
  rw [textTest, ← fill_optionByVisibleText]
  rfl

theorem branches_textTest (text : String) :
    branches (optionsWith (textTest text)).toList =
      [("./option" ++ textTest text).toList, ("./optgroup/option" ++ textTest text).toList] := by
  have bar : "|./optgroup/option".toList = '|' :: "./optgroup/option".toList := by decide
  have whole : (optionsWith (textTest text)).toList = ("./option" ++ textTest text).toList ++
      '|' :: ("./optgroup/option" ++ textTest text).toList := by
    simp only [optionsWith, String.toList_append, bar, List.append_assoc, List.cons_append]
  have balanced : Balanced (quote (Blank.strip text)).toList := balanced_quote (Blank.strip text)
  have child : Balanced "./option".toList := by decide
  have grouped : Balanced "./optgroup/option".toList := by decide
  rw [whole, textTest, branches_bar (branches_textEquals child balanced (by decide))
    (balanced_textEquals child balanced), branches_textEquals grouped balanced (by decide)]

/-- Either kind of option is compared with the text trimmed.  It is found by its own text exactly
if the white space of the text is single spaces, but for white space of XPath around it. -/
theorem own_text_found_iff (text : String) :
    (∃ byValue, optionTiers (.text text) =
      .ok [ofPath 1 "byVisibleText" (optionsWith (textTest text)), byValue]) ∧
    branches (optionsWith (textTest text)).toList =
      [("./option" ++ textTest text).toList, ("./optgroup/option" ++ textTest text).toList] ∧
    ComparesWith (textTest text) (Blank.trim text.toList) ∧
    (HoldsOf (textTest text) text.toList ↔ Tidy text.toList) := by
  have compared := comparesWith_textTest text
  refine ⟨optionTiers_text text, branches_textTest text, compared, ?_⟩
  rw [compared.holdsOf_iff]
  exact normalizeSpace_eq_trim_iff text.toList

/-- Two spaces inside a text are one when the options are compared, and two in the text that is
looked for. -/
theorem own_text_missed :
    (∃ byValue, optionTiers (.text "New  York") =
      .ok [ofPath 1 "byVisibleText" (optionsWith (textTest "New  York")), byValue]) ∧
    ComparesWith (textTest "New  York") "New  York".toList ∧
    normalizeSpace "New  York".toList = "New York".toList ∧
    ¬HoldsOf (textTest "New  York") "New  York".toList := by
  have trimmed : Blank.trim "New  York".toList = "New  York".toList := by decide
  have normal : normalizeSpace "New  York".toList = "New York".toList := by decide
  have compared := comparesWith_textTest "New  York"
  rw [trimmed] at compared
  refine ⟨optionTiers_text "New  York", compared, normal, ?_⟩
  rw [compared.holdsOf_iff, normal]
  decide

end ElementSearch.Tier
