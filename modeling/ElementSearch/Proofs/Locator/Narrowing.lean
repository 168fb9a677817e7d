import ElementSearch.Locator.Refine
import ElementSearch.Proofs.XPath.Branches

/-! Steps that narrow a locator.
Such a step puts a suffix behind the XPath form.  The suffix belongs to the last alternative of the
form; alternatives before it stay as they were, and alternatives of a sub-locator that `find` goes
to stand beside them.  Only the step that picks a position brackets the form first. -/

namespace ElementSearch

/-- What a narrowing step puts behind the XPath form; the content may be refused. -/
structure Suffix where
  opening : String
  content : Outcome String
  closing : String

def Suffix.text (suffix : Suffix) : Outcome String :=
  suffix.content.map fun content => suffix.opening ++ content ++ suffix.closing

def Suffix.frames : List (String × String) :=
  [("//", ""), ("[./child::", "]"), ("[./descendant::", "]"), ("[contains(., ", ")]"), ("[", "]"),
    ("[ancestor::", "]"), ("[preceding-sibling::", "]"), ("[following-sibling::", "]")]

theorem Suffix.solid_frames : ∀ frame ∈ frames, XPath.solid frame.1.toList ≠ 0 := by
  decide

namespace Refinement

open LocatorOf

/-- The suffix of a narrowing step; the other steps have none. -/
def suffix? (filters : List Filter) : Refinement → Option Suffix
  | find inner => some ⟨"//", subSelector filters inner, ""⟩
  | withChild inner => some ⟨"[./child::", subSelector filters inner, "]"⟩
  | withDescendant inner => some ⟨"[./descendant::", subSelector filters inner, "]"⟩
  | withText text => some ⟨"[contains(., ", XPath.quoteValue text, ")]"⟩
  | withAttributes (.dict entries) =>
    some ⟨"[", (attributeTests entries).map " and ".intercalate, "]"⟩
  | withAttributes _ => some ⟨"[", .error .missingAttribute, "]"⟩
  | inside outer => some ⟨"[ancestor::", subSelector filters outer, "]"⟩
  | after sibling => some ⟨"[preceding-sibling::", subSelector filters sibling, "]"⟩
  | before sibling => some ⟨"[following-sibling::", subSelector filters sibling, "]"⟩
  | _ => none

end Refinement

namespace LocatorOf

open XPath XPath.Nesting

variable {filters : List Filter} {l : Locator} {path : String} {step : Refinement}
  {suffix : Suffix}

theorem map_append (path opening closing : String) (content : Outcome String) :
    (Suffix.text ⟨opening, content, closing⟩).map (fun s => ofPath (path ++ s)) =
      content.map fun s => ofPath (path ++ opening ++ s ++ closing) := by
  cases content with
  | error fault => rfl
  | ok s => simp [Suffix.text, Except.map, String.append_assoc]

theorem extend_eq (form : l.pathText = .ok path) (opening closing : String) (inner : Value) :
    l.extend filters opening closing inner =
      (subSelector filters inner).map fun s => ofPath (path ++ opening ++ s ++ closing) := by
  rw [extend, form]
  cases subSelector filters inner <;> rfl

theorem refine_eq (form : l.pathText = .ok path) (narrows : step.suffix? filters = some suffix) :
    l.refine filters step = suffix.text.map fun s => ofPath (path ++ s) := by
  cases step with
  | find inner | withChild inner | withDescendant inner | inside inner | after inner
  | before inner =>
    cases narrows
    rw [map_append, refine, extend_eq form]
  | withText text =>
    cases narrows
    rw [map_append, refine, form]
    cases quoteValue text <;> rfl
  | withAttributes attributes =>
    cases attributes with
    | dict entries =>
      cases narrows
      simp only [map_append, refine, form]
      cases attributeTests entries <;> rfl
    | _ =>
      cases narrows
      rfl
  | _ => cases narrows

theorem frame_mem (narrows : step.suffix? filters = some suffix) :
    (suffix.opening, suffix.closing) ∈ Suffix.frames := by
  unfold Refinement.suffix? at narrows
  split at narrows <;> cases narrows <;> simp [Suffix.frames]

theorem solid_text (narrows : step.suffix? filters = some suffix) {s : String}
    (accepted : suffix.text = .ok s) : solid s.toList ≠ 0 := by
  obtain ⟨content, _, rfl⟩ := Outcome.map_eq_ok accepted
  have some : solid suffix.opening.toList ≠ 0 := Suffix.solid_frames _ (frame_mem narrows)
  unfold solid at some ⊢
  rw [String.toList_append, String.toList_append, List.countP_append, List.countP_append]
  omega

/-- A narrowing step extends the last alternative of the locator and no other, and the further
alternatives of the suffix stand beside them; so it reaches every alternative just when there is one
and the suffix adds none.  A predicate adds none. -/
theorem narrowing_extends_last (filters : List Filter) {l : Locator} {path : String}
    (form : l.pathText = .ok path) {step : Refinement} {suffix : Suffix}
    (narrows : step.suffix? filters = some suffix) :
    l.refine filters step = suffix.text.map (fun s => ofPath (path ++ s)) ∧
      ∀ s, suffix.text = .ok s → ∃ earlier last first others,
        branches path.toList = earlier ++ [last] ∧
        branchesFrom (outside.after path.toList) s.toList = first :: others ∧
        branches (path ++ s).toList = earlier ++ (last ++ first) :: others ∧
        (ReachesAll path.toList s.toList ↔ earlier = [] ∧ others = []) ∧
        ∀ inner, s.toList = '[' :: (inner ++ [']']) → XPath.Balanced inner →
          XPath.Balanced path.toList → others = [] := by
  refine ⟨refine_eq form narrows, ?_⟩
  intro s accepted
  obtain ⟨earlier, last, front⟩ := List.eq_nil_or_concat _ |>.resolve_left
    (branchesFrom_ne_nil outside path.toList)
  rw [List.concat_eq_append] at front
  obtain ⟨first, others, back⟩ := List.exists_cons_of_ne_nil
    (branchesFrom_ne_nil (outside.after path.toList) s.toList)
  refine ⟨earlier, last, first, others, front, back, ?_,
    reachesAll_iff (solid_text narrows accepted) front back, ?_⟩
  · rw [String.toList_append]
    exact branchesFrom_append front back
  · intro inner spelled balanced closed
    rw [spelled, closed] at back
    have only := branches_predicate balanced
    rw [branches, back] at only
    exact (List.cons.inj only).2

def pathObject (path : String) : Value := .dict [(.text "xpath", .text path)]

theorem classified_pathObject (path : String) :
    classified [] (pathObject path) = .ok (ofPath path) := rfl

def linkOrButton : Locator := ofPath ".//a | .//button"

theorem narrowing_extends_last_linkOrButton :
    linkOrButton.pathText = .ok ".//a | .//button" ∧
      (Refinement.find (pathObject ".//b")).suffix? [] = some ⟨"//", .ok "b", ""⟩ ∧
      linkOrButton.refine [] (.find (pathObject ".//b")) = .ok (ofPath ".//a | .//button//b") := by
  have form : linkOrButton.pathText = .ok ".//a | .//button" := rfl
  have narrows : (Refinement.find (pathObject ".//b")).suffix? [] = some ⟨"//", .ok "b", ""⟩ := rfl
  exact ⟨form, narrows, (narrowing_extends_last [] form narrows).1⟩

/-- The link is left as it was when the step goes on from both alternatives, and when the step goes
to two alternatives the second one is looked for everywhere. -/
theorem alternatives_left_behind :
    (ofPath ".//a").refine [] (.alternative (pathObject ".//button")) = .ok linkOrButton ∧
      linkOrButton.refine [] (.find (pathObject ".//b")) = .ok (ofPath ".//a | .//button//b") ∧
      branches ".//a | .//button//b".toList = [".//a ".toList, " .//button//b".toList] ∧
      ¬ReachesAll ".//a | .//button".toList "//b".toList ∧
      (ofPath ".//a").refine [] (.find (pathObject ".//b | .//i")) =
        .ok (ofPath ".//a//b | .//i") ∧
      branches ".//a//b | .//i".toList = [".//a//b ".toList, " .//i".toList] ∧
      ¬ReachesAll ".//a".toList "//b | .//i".toList := by
  have two : branches ".//a | .//button".toList = [".//a ".toList, " .//button".toList] := rfl
  have one : branches ".//a".toList = [".//a".toList] := rfl
  refine ⟨rfl, rfl, rfl, ?_, rfl, rfl, ?_⟩
  · intro reached
    have front : branches ".//a | .//button".toList = [".//a ".toList] ++ [" .//button".toList] :=
      two
    have alone := (reachesAll_iff (by decide) front rfl).1 reached
    exact List.cons_ne_nil _ _ alone.1
  · intro reached
    have front : branches ".//a".toList = [] ++ [".//a".toList] := one
    have alone := (reachesAll_iff (by decide) front rfl).1 reached
    exact List.cons_ne_nil _ _ alone.2

end LocatorOf

end ElementSearch
