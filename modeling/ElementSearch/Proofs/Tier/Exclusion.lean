import ElementSearch.Proofs.Css.Nesting
import ElementSearch.Proofs.Tier.Outline
import ElementSearch.Proofs.XPath.Segments
import ElementSearch.Tier

/-! Inputs that are no fields.
Submit buttons, images and hidden inputs are left out by one predicate.  It stands on the last step
of every alternative that looks for a text, and on the whole of a selector that is translated; a
text that is no selector goes to the driver as it is. -/

namespace ElementSearch.XPath.Pattern

open Nesting

/-- The characters of spelled pieces, with a hole for every slot. -/
def rowOf (parts : List (Option (List Char))) : List (Option Char) :=
  parts.flatMap fun part => match part with
    | some cs => cs.map some
    | none => [none]

theorem fillHoles_fixed (expression cs : List Char) : fillHoles expression (cs.map some) = cs := by
  induction cs with
  | nil => rfl
  | cons c rest ih =>
    rw [List.map_cons, fillHoles_cons, ih]
    rfl

theorem fillHoles_rowOf (expression : List Char) (parts : List (Option (List Char))) :
    fillHoles expression (rowOf parts) = parts.flatMap fun part => part.getD expression := by
  induction parts with
  | nil => rfl
  | cons part rest ih =>
    have appended (xs ys : List (Option Char)) : fillHoles expression (xs ++ ys) =
        fillHoles expression xs ++ fillHoles expression ys := List.flatMap_append
    cases part with
    | some cs =>
      have filled : rowOf (some cs :: rest) = cs.map some ++ rowOf rest := rfl
      rw [filled, appended, fillHoles_fixed, ih]
      rfl
    | none =>
      have filled : rowOf (none :: rest) = [none] ++ rowOf rest := rfl
      rw [filled, appended, ih]
      simp [fillHoles]

theorem bears_fill {p : Pattern} (spelling : Spelling p) {predicate : String} {cs : List Char}
    (written : predicate = String.ofList cs) (borne : bears cs (rowOf spelling.parts) = true)
    {expression : String} (balanced : Balanced expression.toList) :
    Bears predicate.toList (p.fill expression).toList := by
  have filled : (p.fill expression).toList =
      fillHoles expression.toList (rowOf spelling.parts) := by
    rw [fillHoles_rowOf, toList_fill, spelling.same]
  rw [filled, written, String.toList_ofList]
  exact bears_fillHoles balanced borne

end ElementSearch.XPath.Pattern

namespace ElementSearch.Tier

open XPath Nesting

theorem bears_fields {expression : String} (balanced : Balanced expression.toList) :
    ∀ p ∈ [fieldLabelEquals, fieldLabelContains, fieldByName],
      Bears notExcluded.toList (p.fill expression).toList := by
  simp only [List.forall_mem_cons]
  exact ⟨Pattern.bears_fill spelledEquals rfl (by decide +kernel) balanced,
    Pattern.bears_fill spelledContains rfl (by decide +kernel) balanced,
    Pattern.bears_fill spelledField rfl (by decide +kernel) balanced, by simp⟩

section Whole

/-- The query is one step, which is all that the path finds, and the predicate is put to that. -/
structure BearsAsWhole (predicate path query : List Char) : Prop where
  alternatives : branches query = [query]
  steps : steps query = [query]
  segments : segments query = ['(' :: (path ++ [')']), predicate]

def fieldsAmong (path : String) : String := "(" ++ path ++ ")" ++ notExcluded

def wholeRow (exclusion : List Char) : List (Option Char) :=
  some '(' :: none :: some ')' :: exclusion.map some

def StaysWhole (exclusion : List Char) : Prop :=
  sheltered outside (wholeRow exclusion) = true ∧
    partsFrom pass (· == some '|') false outside (wholeRow exclusion) = [wholeRow exclusion] ∧
    partsFrom pass (· == some '/') false outside (wholeRow exclusion) = [wholeRow exclusion] ∧
    partsFrom pass (· == some '[') true outside (wholeRow exclusion) =
      [[some '(', none, some ')'], exclusion.map some]

instance (exclusion : List Char) : Decidable (StaysWhole exclusion) :=
  inferInstanceAs (Decidable (_ ∧ _))

theorem bearsAsWhole_of_spelled {exclusion : List Char} {path : String}
    (balanced : Balanced path.toList) (written : notExcluded = String.ofList exclusion)
    (whole : StaysWhole exclusion) :
    BearsAsWhole notExcluded.toList path.toList (fieldsAmong path).toList := by
  obtain ⟨safe, alternatives, oneStep, cut⟩ := whole
  have opening : "(".toList = ['('] := by decide
  have closing : ")".toList = [')'] := by decide
  have filled : (fieldsAmong path).toList = fillHoles path.toList (wholeRow exclusion) := by
    simp only [fieldsAmong, String.toList_append, opening, closing, written, String.toList_ofList,
      wholeRow, fillHoles_cons, Pattern.fillHoles_fixed, Option.elim_some, Option.elim_none,
      List.append_assoc]
  rw [filled]
  constructor
  · rw [branches_fillHoles balanced safe, alternatives]
    rfl
  · rw [XPath.steps, partsFrom_fillHoles balanced safe, oneStep]
    rfl
  · rw [XPath.segments, partsFrom_fillHoles balanced safe, cut, written, String.toList_ofList]
    simp only [List.map_cons, List.map_nil, Pattern.fillHoles_fixed]
    rfl

theorem bearsAsWhole_fieldsAmong {path : String} (balanced : Balanced path.toList) :
    BearsAsWhole notExcluded.toList path.toList (fieldsAmong path).toList := by
  apply bearsAsWhole_of_spelled balanced
  · exact rfl
  · decide

end Whole

def fieldTiersWith (expression : String) (last : Tier) : List Tier :=
  [ofPath 1 "labelEquals" (fieldLabelEquals.fill expression),
    ofPath 2 "labelContains" (fieldLabelContains.fill expression),
    ofPath 3 "byName" (fieldByName.fill expression), last]

theorem fieldTiers_eq (expression raw : String) :
    fieldTiers expression raw = (fieldRaw raw).map (fieldTiersWith expression) := by
  rw [fieldTiers]
  cases fieldRaw raw <;> rfl

theorem fieldRaw_of_refused {text : String} {refusal : Css.Refusal}
    (refused : Css.toPath .html text = .error refusal) :
    match refusal with
    | .unsupported _ => fieldRaw text = .ok (ofSelector 4 "raw" text)
    | _ => ∃ fault, fieldRaw text = .error fault := by
  cases refusal <;> simp [fieldRaw, refused]

/-- A text is looked for in fields only: what is pressed or hidden is left out by a predicate on the
last step of every alternative.  The selector that the text is has it as a whole, and the text
itself is the selector exactly if it is none that can be translated.  A translation that breaks down
leaves no tiers at all. -/
theorem fields_only (text : String) :
    let exclusion := "[not(./@type = 'submit' or ./@type = 'image' or ./@type = 'hidden')]"
    (∀ p ∈ [fieldLabelEquals, fieldLabelContains, fieldByName],
      Bears exclusion.toList (p.fill (quote text)).toList) ∧
    match Css.toPath .html text with
    | .ok path =>
      fieldTiers (quote text) text = .ok (fieldTiersWith (quote text)
          (ofPath 4 "raw" ("(" ++ path ++ ")" ++ exclusion))) ∧
        BearsAsWhole exclusion.toList path.toList ("(" ++ path ++ ")" ++ exclusion).toList
    | .error (.unsupported _) =>
      fieldTiers (quote text) text =
        .ok (fieldTiersWith (quote text) (ofSelector 4 "raw" text))
    | .error _ => ∃ fault, fieldTiers (quote text) text = .error fault := by
  intro exclusion
  refine ⟨bears_fields (balanced_quote text), ?_⟩
  rw [fieldTiers_eq]
  cases translated : Css.toPath .html text with
  | ok path =>
    have last : fieldRaw text = .ok (ofPath 4 "raw" (fieldsAmong path)) := by
      simp only [fieldRaw, translated]
      rfl
    rw [last]
    exact ⟨rfl, bearsAsWhole_fieldsAmong (Css.balanced_toPath translated)⟩
  | error refusal =>
    have last := fieldRaw_of_refused translated
    cases refusal with
    | unsupported message =>
      rw [last]
      rfl
    | longNumber | noLanguage | namelessGeneric | namelessHtml =>
      obtain ⟨fault, failed⟩ := last
      rw [failed]
      exact ⟨fault, rfl⟩

end ElementSearch.Tier
