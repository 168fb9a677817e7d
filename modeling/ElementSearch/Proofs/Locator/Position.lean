import ElementSearch.Proofs.Locator.Chain
import ElementSearch.Proofs.XPath.Sum

/-! One node out of many.
The step that picks a position puts the query in brackets and a test on the position behind it.  The
test is a sum that comes to the position itself, or to the place that is so many nodes from the last
one; it keeps the one node there, and none if the query does not give that many. -/

namespace ElementSearch

namespace XPath

section Filter

variable {α : Type} {nodes : List α} {test : String} {place : Int}

/-- The nodes whose position, counted from one, is what the test comes to. -/
def atPosition (test : String) (nodes : List α) : List α :=
  ((nodes.zipIdx 1).filter fun numbered =>
    sum? nodes.length test = some (numbered.2 : Int)).map Prod.fst

theorem filter_zipIdx (nodes : List α) (first : Nat) (place : Int) :
    ((nodes.zipIdx first).filter fun numbered => place = (numbered.2 : Int)).map Prod.fst =
      if first ≤ place then nodes[(place - first).toNat]?.toList else [] := by
  induction nodes generalizing first with
  | nil => simp
  | cons node rest ih =>
    rw [List.zipIdx_cons, List.filter_cons]
    by_cases here : place = first
    · have none : ¬((first + 1 : Nat) : Int) ≤ place := by omega
      have others := ih (first + 1)
      rw [if_neg none] at others
      simp [here] at others ⊢
      exact others
    · rw [if_neg (by simpa using here), ih (first + 1)]
      by_cases later : (first : Int) ≤ place
      · have behind : ((first + 1 : Nat) : Int) ≤ place := by omega
        have shifted : (place - first).toNat = (place - (first + 1 : Nat)).toNat + 1 := by omega
        rw [if_pos later, if_pos behind, shifted, List.getElem?_cons_succ]
      · have earlier : ¬((first + 1 : Nat) : Int) ≤ place := by omega
        rw [if_neg later, if_neg earlier]

theorem atPosition_eq (value : sum? nodes.length test = some place) :
    atPosition test nodes = if 1 ≤ place then nodes[(place - 1).toNat]?.toList else [] := by
  rw [atPosition, value]
  simpa using filter_zipIdx nodes 1 place

theorem atPosition_of_inside (value : sum? nodes.length test = some place) (some_ : 1 ≤ place)
    (enough : place ≤ nodes.length) :
    ∃ node, nodes[(place - 1).toNat]? = some node ∧ atPosition test nodes = [node] := by
  have inside : (place - 1).toNat < nodes.length := by omega
  have found := List.getElem?_eq_getElem inside
  exact ⟨_, found, by rw [atPosition_eq value, if_pos some_, found]; rfl⟩

theorem atPosition_of_outside (value : sum? nodes.length test = some place)
    (outside : place < 1 ∨ nodes.length < place) : atPosition test nodes = [] := by
  rw [atPosition_eq value]
  split
  · have beyond : nodes.length ≤ (place - 1).toNat := by omega
    rw [List.getElem?_eq_none beyond]
    rfl
  · rfl

end Filter

end XPath

namespace LocatorOf

open XPath

variable {filters : List Filter} {l : Locator} {x test : String} {p : Int}

/-- The place from the start, counted from one, of a position among so many nodes. -/
def placeOf (size : Nat) (p : Int) : Int := if 0 < p then p else size + p + 1

theorem sum?_positionTest (accepted : positionTest (.int p) = .ok test) (size : Nat) :
    sum? size test = some (placeOf size p) := by
  have nonzero : p ≠ 0 := by
    rintro rfl
    cases accepted
  rw [positionTest_int nonzero] at accepted
  obtain ⟨digits, written, same⟩ := Outcome.map_eq_ok accepted
  obtain rfl := Value.eq_toString_of_written written
  by_cases positive : 0 < p
  · have count : (countOf p : Int) = p := by
      rw [countOf, if_pos positive]
      omega
    rw [← same, if_pos positive, placeOf, if_pos positive]
    exact (sum?_nat size (countOf p)).trans (congrArg some count)
  · have count : (countOf p : Int) = -(p + 1) := by
      rw [countOf, if_neg positive]
      omega
    have sum := sum?_lastMinus size (countOf p)
    rw [← same, if_neg positive, placeOf, if_neg positive, fromEnd]
    refine sum.trans (congrArg some ?_)
    omega

theorem refine_position (form : l.pathText = .ok x) (accepted : positionTest (.int p) = .ok test) :
    l.refine filters (.position (.int p)) = .ok (ofPath (picked x test)) := by
  rw [refine, pick, accepted, Outcome.bind_of_ok rfl, form]
  rfl

theorem refine_longPosition (nonzero : p ≠ 0) (long : Numeral.fits (countOf p) = false) :
    l.refine filters (.position (.int p)) = .error .longNumber := by
  rw [refine, pick, positionTest_of_many nonzero long]
  rfl

/-- A position whose number can be written counts from the first node, and a negative one from the
last; the test behind the brackets keeps the node there and no other.  A position and the negative
one that is as far from the end keep the same node.  With too many digits a position is refused. -/
theorem position_from_either_end (filters : List Filter) {l : Locator} {x : String}
    (form : l.pathText = .ok x) {p : Int} (nonzero : p ≠ 0) :
    (Numeral.fits (countOf p) = false →
        l.refine filters (.position (.int p)) = .error .longNumber) ∧
      (Numeral.fits (countOf p) = true →
        ∃ test, l.refine filters (.position (.int p)) =
          .ok (ofPath ("(" ++ x ++ ")[position()=" ++ test ++ "]")) ∧
        ∀ {α : Type} (nodes : List α),
          (∃ place, sum? nodes.length test = some place) ∧
          (0 < p → p ≤ nodes.length →
            ∃ node, nodes[(p - 1).toNat]? = some node ∧ atPosition test nodes = [node]) ∧
          (p < 0 → -nodes.length ≤ p →
            ∃ node, nodes[(nodes.length + p).toNat]? = some node ∧
              atPosition test nodes = [node]) ∧
          (p < -nodes.length ∨ nodes.length < p → atPosition test nodes = []) ∧
          (0 < p → p ≤ nodes.length →
            Numeral.fits (countOf (p - nodes.length - 1)) = true → ∃ other,
              l.refine filters (.position (.int (p - nodes.length - 1))) =
                .ok (ofPath ("(" ++ x ++ ")[position()=" ++ other ++ "]")) ∧
              atPosition other nodes = atPosition test nodes)) := by
  refine ⟨refine_longPosition nonzero, fun few => ?_⟩
  obtain ⟨test, accepted⟩ : ∃ test, positionTest (.int p) = .ok test :=
    ⟨_, positionTest_of_few nonzero few⟩
  refine ⟨test, refine_position form accepted, fun nodes => ?_⟩
  have value := sum?_positionTest accepted nodes.length
  refine ⟨⟨_, value⟩, fun positive enough => ?_, fun negative enough => ?_, fun outside => ?_,
    fun positive enough few' => ?_⟩
  · rw [placeOf, if_pos positive] at value
    exact atPosition_of_inside value (by omega) enough
  · rw [placeOf, if_neg (by omega)] at value
    obtain ⟨node, found, kept⟩ := atPosition_of_inside value (by omega) (by omega)
    have same : (nodes.length + p + 1 - 1).toNat = (nodes.length + p).toNat := by omega
    exact ⟨node, same ▸ found, kept⟩
  · refine atPosition_of_outside value ?_
    unfold placeOf
    split <;> omega
  · have mirrored : p - nodes.length - 1 ≠ 0 := by omega
    have accepted' := positionTest_of_few mirrored few'
    refine ⟨_, refine_position form accepted', ?_⟩
    have value' := sum?_positionTest accepted' nodes.length
    have same : placeOf nodes.length (p - nodes.length - 1) = placeOf nodes.length p := by
      rw [placeOf, placeOf, if_pos positive, if_neg (by omega)]
      omega
    rw [atPosition_eq value, atPosition_eq value', same]

theorem position_from_either_end_lastOfTwo :
    linkOrButton.pathText = .ok ".//a | .//button" ∧ (-1 : Int) ≠ 0 ∧
      ∃ test, linkOrButton.refine [] (.position (.int (-1))) =
          .ok (ofPath ("(.//a | .//button)[position()=" ++ test ++ "]")) ∧
        atPosition test ["link", "button"] = ["button"] := by
  have form : linkOrButton.pathText = .ok ".//a | .//button" := rfl
  have nonzero : (-1 : Int) ≠ 0 := by decide
  have few : Numeral.fits (countOf (-1)) = true := by decide
  obtain ⟨test, written, keeps⟩ := (position_from_either_end [] form nonzero).2 few
  obtain ⟨_, _, fromLast, _⟩ := keeps ["link", "button"]
  obtain ⟨node, found, kept⟩ := fromLast (by decide) (by decide)
  obtain rfl : "button" = node := Option.some.inj found
  exact ⟨form, nonzero, test, written, kept⟩

/-- A truth value is a number too, and the test on it has its name in place of a digit; and the
digits of a number may be too many from either end. -/
theorem position_unlike_number :
    linkOrButton.pathText = .ok ".//a | .//button" ∧
      linkOrButton.refine [] (.position (.bool true)) =
        .ok (ofPath "(.//a | .//button)[position()=True]") ∧
      sum? 2 "True" = none ∧
      linkOrButton.refine [] (.position (.int (Nat.pow 10 Numeral.mostDigits))) =
        .error .longNumber ∧
      linkOrButton.refine [] (.position (.int (-Nat.pow 10 Numeral.mostDigits - 1))) =
        .error .longNumber := by
  have powers (k : Nat) : 0 < Nat.pow 10 k := Nat.pow_pos (by decide)
  have positive := powers Numeral.mostDigits
  have digits : 0 < Numeral.mostDigits := by decide
  refine ⟨rfl, rfl, rfl, refine_longPosition (by omega) ?_, refine_longPosition (by omega) ?_⟩
  · refine Numeral.not_fits_of_le digits le_rfl ?_
    rw [countOf, if_pos (by omega)]
    omega
  · refine Numeral.not_fits_of_le digits le_rfl ?_
    rw [countOf, if_neg (by omega)]
    omega

end LocatorOf

end ElementSearch
