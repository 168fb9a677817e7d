import Mathlib.Data.Bool.AllAny
import ElementSearch.Proofs.Css.AttributeTest
import ElementSearch.Proofs.Locator.Shorthand
import ElementSearch.Proofs.XPath.Primary

/-! The two strategies of a marker.
Both are meant to test one attribute for what stands behind the mark.  XPath gets it as a string
expression, whatever it is; a selector gets it as it is, so there the test is the same only for
identifiers without escapes. -/

namespace ElementSearch.Shorthand

open Css

theorem toList_selector (mark attributeName value : String) (showActual : Bool) :
    (query ⟨mark, attributeName, .selector, showActual⟩ value).toList =
      '[' :: (attributeName.toList ++ '=' :: (value.toList ++ [']'])) := by
  simp [query]

/-- For a plain attribute name, the path tests the attribute for any text behind the mark; the
selector does so just when the text is a plain name. -/
theorem strategies_agree_iff (mark value : String) {attributeName : String}
    (plain : IsPlainName attributeName.toList) (showActual : Bool) (fallback : Kind)
    (strict : Bool) :
    (∃ l expression,
      LocatorOf.classify [filter ⟨mark, attributeName, .path, showActual⟩] fallback strict
        (.text (mark ++ value)) = .ok l ∧ l.kind = .xpath ∧
      l.value = .text (".//*[@" ++ attributeName ++ "=" ++ expression ++ "]") ∧
      XPath.IsPrimary expression.toList value.toList) ∧
    ∃ l selector,
      LocatorOf.classify [filter ⟨mark, attributeName, .selector, showActual⟩] fallback strict
        (.text (mark ++ value)) = .ok l ∧ l.kind = .css ∧ l.value = .text selector ∧
      (IsTest attributeName.toList selector.toList value.toList ↔ IsPlainName value.toList) := by
  constructor
  · have behind := behind_append ⟨mark, attributeName, .path, showActual⟩ value
    refine ⟨_, XPath.quote value, classify_marked ⟨mark, attributeName, .path, showActual⟩ value
      fallback strict, rfl, ?_, ?_⟩
    · rw [rewrite, behind]
      rfl
    · rw [XPath.quote, String.toList_ofList]
      exact XPath.isPrimary_quoteChars value.toList
  · have behind := behind_append ⟨mark, attributeName, .selector, showActual⟩ value
    refine ⟨_, _, classify_marked ⟨mark, attributeName, .selector, showActual⟩ value fallback
      strict, rfl, rfl, ?_⟩
    rw [behind, toList_selector]
    exact isTest_iff plain

theorem isPlainName_testId : IsPlainName "data-test-id".toList :=
  isPlainName_cons (by decide) (List.all_iff_forall_prop.mp (by decide))

theorem strategies_agree_testId :
    IsPlainName "data-test-id".toList ∧ ∃ l selector,
      LocatorOf.classify [filter ⟨"$", "data-test-id", .selector, false⟩] .fuzzy false
        (.text ("$" ++ "login")) = .ok l ∧ l.kind = .css ∧ l.value = .text selector ∧
      IsTest "data-test-id".toList selector.toList "login".toList := by
  obtain ⟨l, selector, classified, kind, value, test⟩ :=
    (strategies_agree_iff "$" "login" isPlainName_testId false .fuzzy false).2
  have login : IsPlainName "login".toList :=
    isPlainName_cons (by decide) (List.all_iff_forall_prop.mp (by decide))
  exact ⟨isPlainName_testId, l, selector, classified, kind, value, test.mpr login⟩

/-- Behind a space there is no more value, and a letter there says something else. -/
theorem spaced_values_astray :
    (∃ l, LocatorOf.classify [filter ⟨"$", "data-test-id", .selector, false⟩] .fuzzy false "$a b" =
        .ok l ∧ l.kind = .css ∧ l.value = "[data-test-id=a b]" ∧
      ¬IsTest "data-test-id".toList "[data-test-id=a b]".toList "a b".toList) ∧
    IsTest "data-test-id".toList "[data-test-id=a i]".toList "a".toList := by
  have testId := isPlainName_testId
  have inside : "[data-test-id=a b]".toList =
      '[' :: ("data-test-id".toList ++ '=' :: ("a b".toList ++ [']'])) := by decide
  have flagged : "[data-test-id=a i]".toList =
      '[' :: ([] ++ ("data-test-id".toList ++ ([] ++ '=' :: ([] ++ ("a".toList ++
        ([' '] ++ 'i' :: [] ++ [']'])))))) := by decide
  have padding : IsPadding [] := nofun
  refine ⟨⟨_, classify_marked ⟨"$", "data-test-id", .selector, false⟩ "a b" .fuzzy false, rfl,
    ?_, ?_⟩, ?_⟩
  · rw [rewrite, behind_append]
    rfl
  · rw [inside, isTest_iff testId]
    intro plain
    exact plain.notMem (.inr (.inr rfl)) (by decide)
  · have a : IsPlainName "a".toList := isPlainName_cons (by decide) nofun
    rw [flagged]
    have space : IsPadding [' '] := List.forall_mem_singleton.mpr rfl
    exact .brackets padding padding padding (writes_of_isPlainName a)
      (.letter space (.inl (List.cons_ne_nil _ _)) (by decide) padding)

end ElementSearch.Shorthand
