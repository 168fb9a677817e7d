import ElementSearch.Css.Path
import ElementSearch.Proofs.Decimal.Neutral
import ElementSearch.Proofs.XPath.Runs

/-! Brackets in the query of a selector.
What a translation takes over from a selector is spelled as a name, which has neither quotes nor
brackets, or it is quoted.  Each step closes the brackets that it opens, in its path and in its
condition, and so does the query for a selector, whatever its text is. -/

namespace ElementSearch.Css

open XPath Nesting

section Spelling

theorem balanced_of_isLiteral {expression content : List Char}
    (literal : IsLiteral expression content) : Balanced expression := by
  obtain ⟨mark, absent⟩ := literal
  refine balanced_enclose ?_ absent
  rcases mark with rfl | rfl <;> rfl

theorem balanced_quoteRunsChars (cs : List Char) : Balanced (quoteRunsChars cs) := by
  unfold quoteRunsChars
  split
  · rename_i absent
    exact balanced_enclose rfl absent
  split
  · rename_i absent
    exact balanced_enclose rfl absent
  · have between : Balanced [','] := by decide
    refine Balanced.surrounded (by decide) (by decide)
      (between.intercalate (List.forall_mem_map.mpr fun part mem => ?_))
    exact balanced_of_isLiteral (isLiteral_encloseRun (isEven_of_mem_runs mem))

theorem balanced_literal (text : String) : Balanced (literal text).toList := by
  rw [literal, quoteRuns, String.toList_ofList]
  exact balanced_quoteRunsChars text.toList

def IsPlain (c : Char) : Prop := isSafeChar c = true ∨ c = '\n'

theorem toNat_lt_of_isPlain {c : Char} (plain : IsPlain c) : c.toNat < 128 := by
  have below {d : Char} (low : c ≤ d) (ascii : d.toNat < 128) : c.toNat < 128 :=
    Nat.lt_of_le_of_lt (UInt32.le_iff_toNat_le.mp low) ascii
  rcases plain with safe | rfl
  · simp only [isSafeChar, isNameStart, isDigit, Bool.or_eq_true, Bool.and_eq_true,
      decide_eq_true_eq, beq_iff_eq] at safe
    rcases safe with (((((⟨_, low⟩ | ⟨_, low⟩) | rfl) | ⟨_, low⟩) | rfl) | rfl)
    · exact below low (by decide)
    · exact below low (by decide)
    · decide
    · exact below low (by decide)
    · decide
    · decide
  · decide

theorem neutral_ascii : ∀ n < 128, (isSafeChar (Char.ofNat n) = true ∨ Char.ofNat n = '\n') →
    isNeutral (Char.ofNat n) = true ∧ Neutral (LetterCase.lowerChar (Char.ofNat n)) := by
  decide

theorem neutral_of_isPlain {c : Char} (plain : IsPlain c) :
    isNeutral c = true ∧ Neutral (LetterCase.lowerChar c) := by
  have same : Char.ofNat c.toNat = c := Char.ofNat_toNat c
  have known := neutral_ascii c.toNat (toNat_lt_of_isPlain plain)
  rw [same] at known
  exact known plain

theorem isPlain_of_isSafeName {name : String} (safe : isSafeName name = true) :
    ∀ c ∈ name.toList, IsPlain c := by
  unfold isSafeName at safe
  split at safe
  · cases safe
  · rename_i c rest spelled
    obtain ⟨start, further⟩ := Bool.and_eq_true_iff.mp safe
    have first : IsPlain c := .inl (by simp [isSafeChar, start])
    have front : ∀ d ∈ rest.takeWhile isSafeChar, IsPlain d := fun d mem =>
      .inl (List.mem_takeWhile_imp mem)
    have back : ∀ d ∈ rest.dropWhile isSafeChar, IsPlain d := by
      split at further
      · rename_i ended
        simp [ended]
      · rename_i ended
        simp [ended, IsPlain]
      · cases further
    rw [spelled, ← List.takeWhile_append_dropWhile (p := isSafeChar) (l := rest)]
    exact List.forall_mem_cons.mpr ⟨first, List.forall_mem_append.mpr ⟨front, back⟩⟩

theorem neutral_of_isSafeName {name : String} (safe : isSafeName name = true) :
    Neutral name.toList := fun c mem =>
  (neutral_of_isPlain (isPlain_of_isSafeName safe c mem)).1

theorem neutral_lowerFrom {cs : List Char} (plain : ∀ c ∈ cs, IsPlain c) (before : List Char) :
    Neutral (LetterCase.lowerFrom before cs) := by
  induction cs generalizing before with
  | nil => exact neutral_nil
  | cons c rest ih =>
    obtain ⟨first, others⟩ := List.forall_mem_cons.mp plain
    have ascii := toNat_lt_of_isPlain first
    have other : c.toNat ≠ 931 := by omega
    rw [LetterCase.lowerFrom, if_neg other]
    exact neutral_append.mpr ⟨(neutral_of_isPlain first).2, ih others (c :: before)⟩

theorem neutral_lower {name : String} (safe : isSafeName name = true) :
    Neutral (LetterCase.lower name).toList := by
  rw [LetterCase.lower, String.toList_ofList]
  exact neutral_lowerFrom (isPlain_of_isSafeName safe) []

end Spelling

section Pieces

theorem spelled_append {first second : String} {cs ds : List Char} (head : first.toList = cs)
    (tail : second.toList = ds) : (first ++ second).toList = cs ++ ds := by
  rw [String.toList_append, head, tail]

-- As with the pieces of a pattern, a long text is spelled out by unification.
theorem spelled_fixed {text : String} {cs : List Char} (spelled : text = String.ofList cs) :
    text.toList = cs := by
  rw [spelled, String.toList_ofList]

theorem balanced_spelled {text : String} {cs : List Char} (spelled : text.toList = cs)
    (closed : Balanced cs) : Balanced text.toList := by
  rwa [spelled]

theorem leaves_spelled {piece : String} {cs : List Char} {s left : Nesting}
    (spelled : piece = String.ofList cs) (read : s.after cs = left) :
    s.after piece.toList = left := by
  rw [spelled_fixed spelled, read]

/-- Between literals, with brackets open, innermost first. -/
def inside (brackets : List Char) : Nesting := ⟨none, brackets⟩

theorem balanced_iff_inside {cs : List Char} :
    Balanced cs ↔ (inside []).after cs = inside [] := Iff.rfl

theorem after_inside {cs : List Char} (balanced : Balanced cs) (brackets : List Char) :
    (inside brackets).after cs = inside brackets := balanced.after_eq brackets

theorem pieces :
    (inside []).after "[".toList = inside ['['] ∧
    (inside ['[']).after "]".toList = inside [] ∧
    (inside []).after "(".toList = inside ['('] ∧
    (inside ['(']).after ")".toList = inside [] ∧
    (inside ['(']).after ") and (".toList = inside ['('] ∧
    (inside ['(']).after ") or (".toList = inside ['('] ∧
    (inside ['(']).after ") or ".toList = inside [] ∧
    (inside []).after "not(".toList = inside ['('] ∧
    (inside []).after " = ".toList = inside [] ∧
    (inside ['(']).after " = ".toList = inside ['('] ∧
    (inside []).after " != ".toList = inside [] ∧
    (inside ['(']).after ", ".toList = inside ['('] ∧
    (inside ['(', '(']).after ", ".toList = inside ['(', '('] ∧
    (inside []).after " and ".toList = inside [] ∧
    (inside []).after " and (".toList = inside ['('] ∧
    (inside []).after " and contains(".toList = inside ['('] ∧
    (inside ['(']).after ") and contains(concat(' ', normalize-space(".toList =
      inside ['(', '(', '('] ∧
    (inside ['(', '(', '(']).after "), ' '), ".toList = inside ['('] ∧
    (inside ['(']).after " or starts-with(".toList = inside ['(', '('] ∧
    (inside ['(', '(']).after "))".toList = inside [] ∧
    (inside []).after " and starts-with(".toList = inside ['('] ∧
    (inside []).after " and substring(".toList = inside ['('] ∧
    (inside ['(']).after ", string-length(".toList = inside ['(', '('] ∧
    (inside ['(', '(']).after ")-".toList = inside ['('] ∧
    (inside ['(']).after ") = ".toList = inside [] ∧
    (inside []).after "translate(".toList = inside ['('] ∧
    (inside []).after "attribute::*[name() = ".toList = inside ['['] ∧
    (inside []).after "attribute::*[local-name() = ".toList = inside ['['] ∧
    (inside []).after "count(".toList = inside ['('] ∧
    (inside ['(']).after "::".toList = inside ['('] ∧
    (inside ['(']).after "-sibling::".toList = inside ['('] ∧
    (inside ['(']).after ") = 0".toList = inside [] ∧
    (inside ['(']).after " +".toList = inside ['('] ∧
    (inside []).after " mod ".toList = inside [] ∧
    (inside []).after " = 0".toList = inside [] ∧
    (inside []).after " >= ".toList = inside [] ∧
    (inside []).after " <= ".toList = inside [] ∧
    (inside []).after "contains(., ".toList = inside ['('] ∧
    (inside []).after "lang(".toList = inside ['('] := by
  repeat' apply And.intro
  all_goals exact leaves_spelled rfl (by decide)

def closedPieces : List String :=
  ["0", "@", "@id", "@class", "self::", "name() = ", "local-name() = ", "position() = 1", " = ",
    " != ", " and ", " >= ", " <= ", " | ", ".//", "./", "/", "/descendant::",
    "/descendant-or-self::*/", "/following-sibling::", "descendant::", "following-sibling::",
    "following-sibling::*[1]/", "ancestor::*", "parent::*", "preceding-sibling::*[1]",
    "preceding-sibling::*", "not(parent::*)", "not(*) and not(string-length())"]

theorem balanced_piece {piece : String} (member : piece ∈ closedPieces) :
    Balanced piece.toList := by
  have all : ∀ piece ∈ closedPieces, Balanced piece.toList := by
    simp only [closedPieces, List.forall_mem_cons, List.not_mem_nil, false_implies,
      implies_true, and_true]
    repeat' apply And.intro
    all_goals exact balanced_spelled (spelled_fixed rfl) (by decide)
  exact all piece member

theorem neutral_piece {piece : String} (member : piece ∈ ["*", ":", ":*", "self::", "preceding",
    "following", "preceding-sibling", "following-sibling"]) : Neutral piece.toList := by
  have all : ∀ piece ∈ ["*", ":", ":*", "self::", "preceding", "following", "preceding-sibling",
      "following-sibling"], Neutral piece.toList := by decide
  exact all piece member

end Pieces

/-- Every step of the path, the name of the element and the condition keep to themselves. -/
structure Step.Nests (s : Step) : Prop where
  path : Balanced s.path.toList
  element : Neutral s.element.toList
  condition : Balanced s.condition.toList

namespace Step.Nests

variable {s other : Step} {condition combiner element : String}

theorem ofElement (neutral : Neutral element.toList) : (Step.ofElement element).Nests :=
  ⟨balanced_nil, neutral, balanced_nil⟩

theorem text (nests : s.Nests) : Balanced s.text.toList := by
  have element := Balanced.of_neutral nests.element
  unfold Step.text
  split
  · rw [String.toList_append, String.toList_append]
    exact (nests.path.append element).append balanced_nil
  · rw [balanced_iff_inside]
    simp only [String.toList_append, after_append, pieces, after_inside nests.path,
      after_inside element, after_inside nests.condition]

theorem require (nests : s.Nests) (balanced : Balanced condition.toList) :
    (s.require condition).Nests := by
  unfold Step.require
  split
  · exact ⟨nests.path, nests.element, balanced⟩
  · refine ⟨nests.path, nests.element, ?_⟩
    rw [balanced_iff_inside]
    simp only [String.toList_append, after_append, pieces, after_inside nests.condition,
      after_inside balanced]

theorem join (nests : s.Nests) (closed : Balanced combiner.toList) (others : other.Nests) :
    (s.join combiner other).Nests := by
  have front : Balanced (s.text ++ combiner).toList := by
    rw [String.toList_append]
    exact nests.text.append closed
  refine ⟨?_, others.element, others.condition⟩
  dsimp only [Step.join]
  split
  · exact front
  · rw [String.toList_append]
    exact front.append others.path

theorem any (nests : s.Nests) : { s with element := "*" }.Nests := by
  have star : Neutral "*".toList := neutral_piece (by simp)
  exact ⟨nests.path, star, nests.condition⟩

end Step.Nests

section Steps

variable {s : Step} {node value : String} {flavour : Flavour}

theorem balanced_compared {front : String} (balanced : Balanced front.toList) (text : String) :
    Balanced (front ++ literal text).toList := by
  rw [String.toList_append]
  exact balanced.append (balanced_literal text)

theorem nests_nameTest (nests : s.Nests) : s.nameTest.Nests := by
  have axis : Balanced "self::".toList := balanced_piece (by simp [closedPieces])
  have quoted : Balanced "name() = ".toList := balanced_piece (by simp [closedPieces])
  have test (spelled : Bool) : Balanced
      (if spelled then "self::" ++ s.element else "name() = " ++ literal s.element).toList := by
    cases spelled with
    | true =>
      rw [if_pos rfl, String.toList_append]
      exact axis.append (.of_neutral nests.element)
    | false => exact balanced_compared quoted s.element
  unfold Step.nameTest
  split
  · exact nests
  · exact (nests.require (test _)).any

theorem nests_spelled {element : String} {spelled : Bool}
    (neutral : spelled = true → Neutral element.toList) :
    (if spelled then Step.ofElement element
      else { (Step.ofElement element).require ("name() = " ++ literal element) with
        element := "*" }).Nests := by
  cases spelled with
  | true => exact .ofElement (neutral rfl)
  | false =>
    have star : Neutral "*".toList := neutral_piece (by simp)
    have named : Balanced "name() = ".toList := balanced_piece (by simp [closedPieces])
    exact ⟨balanced_nil, star, balanced_compared named element⟩

theorem neutral_spelling {name : String} (safe : isSafeName name = true) :
    Neutral (if flavour = .html then LetterCase.lower name else name).toList := by
  split
  · exact neutral_lower safe
  · exact neutral_of_isSafeName safe

theorem neutral_prefixed {space name : String} (safe : isSafeName space = true)
    (neutral : Neutral name.toList) : Neutral (space ++ ":" ++ name).toList := by
  have colon : Neutral ":".toList := neutral_piece (by simp)
  rw [String.toList_append, String.toList_append]
  exact neutral_append.mpr ⟨neutral_append.mpr ⟨neutral_of_isSafeName safe, colon⟩, neutral⟩

theorem nests_elementStep (space name : Option String) :
    (elementStep flavour space name).Nests := by
  have star : (Step.ofElement "*").Nests := .ofElement (neutral_piece (by simp))
  unfold elementStep
  split
  · split
    · exact star
    · refine nests_spelled fun safe => ?_
      have rest : Neutral ":*".toList := neutral_piece (by simp)
      rw [String.toList_append]
      exact neutral_append.mpr ⟨neutral_of_isSafeName safe, rest⟩
    · exact star
  · dsimp only
    split
    · have locally : Balanced "local-name() = ".toList := balanced_piece (by simp [closedPieces])
      exact star.require (balanced_compared locally _)
    · split
      · refine nests_spelled fun safe => ?_
        obtain ⟨safe, space⟩ := Bool.and_eq_true_iff.mp safe
        exact neutral_prefixed space (neutral_spelling safe)
      · exact nests_spelled fun safe => neutral_spelling safe

theorem nests_compareWith (nests : s.Nests) (closed : Balanced node.toList)
    (comparison : Comparison) (value : String) : (compareWith s comparison node value).Nests := by
  have never : (s.require "0").Nests := nests.require (balanced_piece (by simp [closedPieces]))
  have whole := balanced_literal value
  unfold compareWith
  split
  · refine nests.require (balanced_compared ?_ value)
    have equals : Balanced " = ".toList := balanced_piece (by simp [closedPieces])
    rw [String.toList_append]
    exact closed.append equals
  · split
    · refine nests.require (balanced_compared ?_ value)
      have differs : Balanced " != ".toList := balanced_piece (by simp [closedPieces])
      rw [String.toList_append]
      exact closed.append differs
    · refine nests.require ?_
      rw [balanced_iff_inside]
      simp only [String.toList_append, after_append, pieces, after_inside closed,
        after_inside whole]
  · split
    · have padded := balanced_literal (" " ++ value ++ " ")
      refine nests.require ?_
      rw [balanced_iff_inside]
      simp only [String.toList_append, after_append, pieces, after_inside closed,
        after_inside whole, after_inside padded]
    · exact never
  · have continued := balanced_literal (value ++ "-")
    refine nests.require ?_
    rw [balanced_iff_inside]
    simp only [String.toList_append, after_append, pieces, after_inside closed, after_inside whole,
      after_inside continued]
  · split
    · exact never
    · refine nests.require ?_
      rw [balanced_iff_inside]
      simp only [String.toList_append, after_append, pieces, after_inside closed,
        after_inside whole]
  · split
    · exact never
    · have size := Balanced.of_neutral (neutral_nat (value.length - 1))
      refine nests.require ?_
      rw [balanced_iff_inside]
      simp only [String.toList_append, after_append, pieces, after_inside closed,
        after_inside whole, after_inside size]
  · split
    · exact never
    · refine nests.require ?_
      rw [balanced_iff_inside]
      simp only [String.toList_append, after_append, pieces, after_inside closed,
        after_inside whole]

theorem balanced_attribute {name : String} {spelled : Bool}
    (neutral : spelled = true → Neutral name.toList) :
    Balanced (if spelled then "@" ++ name
      else "attribute::*[name() = " ++ literal name ++ "]").toList := by
  cases spelled with
  | true =>
    have sign : Balanced "@".toList := balanced_piece (by simp [closedPieces])
    rw [if_pos rfl, String.toList_append]
    exact sign.append (.of_neutral (neutral rfl))
  | false =>
    have quoted := balanced_literal name
    rw [if_neg Bool.false_ne_true, balanced_iff_inside]
    simp only [String.toList_append, after_append, pieces, after_inside quoted]

theorem balanced_operands (closed : Balanced node.toList) (test : AttributeTest) (value : String) :
    Balanced (operands node test value).1.toList := by
  unfold operands
  split
  · have large := balanced_literal capitals
    have small := balanced_literal smallLetters
    rw [balanced_iff_inside]
    simp only [String.toList_append, after_append, pieces, after_inside closed, after_inside large,
      after_inside small]
  · exact closed

theorem nests_attributeStep (nests : s.Nests) (closed : Balanced node.toList)
    (test : AttributeTest) : (attributeStep s node test).Nests := by
  unfold attributeStep
  split
  · exact nests.require closed
  · exact nests_compareWith nests (balanced_operands closed test _) _ _

theorem nests_combineSteps {left right : Step} (before : left.Nests) (behind : right.Nests)
    (combinator : Combinator) : (combineSteps left combinator right).Nests := by
  have first : Balanced "position() = 1".toList := balanced_piece (by simp [closedPieces])
  unfold combineSteps
  split
  · split
    · exact before.join (balanced_piece (by simp [closedPieces])) behind
    · exact before.join (balanced_piece (by simp [closedPieces])) behind
  · exact before.join (balanced_piece (by simp [closedPieces])) behind
  · exact (nests_nameTest (before.join (balanced_piece (by simp [closedPieces]))
      behind)).require first
  · exact before.join (balanced_piece (by simp [closedPieces])) behind

theorem balanced_relatedPath (nests : s.Nests) (combinator : Combinator) :
    Balanced (relatedPath combinator s).toList := by
  have behind {front : String} (closed : Balanced front.toList) {step : Step} (nests : step.Nests) :
      Balanced (front ++ step.text).toList := by
    rw [String.toList_append]
    exact closed.append nests.text
  have axis : Neutral "self::".toList := neutral_piece (by simp)
  unfold relatedPath
  split
  · exact behind (balanced_piece (by simp [closedPieces])) nests
  · exact behind (balanced_piece (by simp [closedPieces])) nests
  · refine behind (balanced_piece (by simp [closedPieces])) ?_
    split
    · refine ⟨nests.path, ?_, nests.condition⟩
      rw [String.toList_append]
      exact neutral_append.mpr ⟨axis, nests.element⟩
    · refine ⟨?_, nests.element, nests.condition⟩
      rw [String.toList_append]
      exact (Balanced.of_neutral axis).append nests.path
  · exact behind (balanced_piece (by simp [closedPieces])) nests

end Steps

section Series

variable {s : Step}

theorem balanced_seriesConditions {count : String} (closed : Balanced count.toList) (a b : Int) :
    ∀ condition ∈ seriesConditions count a b, Balanced condition.toList := by
  have bound {sign : String} (balanced : Balanced sign.toList) (n : Int) :
      Balanced (count ++ sign ++ toString n).toList := by
    rw [String.toList_append, String.toList_append]
    exact (closed.append balanced).append (.of_neutral (neutral_int n))
  have shifted (n : Int) : Balanced ("(" ++ count ++ " +" ++ toString n ++ ")").toList := by
    have number := Balanced.of_neutral (neutral_int n)
    rw [balanced_iff_inside]
    simp only [String.toList_append, after_append, pieces, after_inside closed, after_inside number]
  have divided {left : String} (balanced : Balanced left.toList) :
      Balanced (left ++ " mod " ++ toString a ++ " = 0").toList := by
    have number := Balanced.of_neutral (neutral_int a)
    rw [balanced_iff_inside]
    simp only [String.toList_append, after_append, pieces, after_inside balanced,
      after_inside number]
  have bounds : ∀ condition ∈ (if a > 0 then
      if b - 1 > 0 then [count ++ " >= " ++ toString (b - 1)] else []
      else [count ++ " <= " ++ toString (b - 1)]), Balanced condition.toList := by
    split
    · split
      · exact List.forall_mem_singleton.mpr (bound (balanced_piece (by simp [closedPieces])) _)
      · exact fun _ mem => nomatch mem
    · exact List.forall_mem_singleton.mpr (bound (balanced_piece (by simp [closedPieces])) _)
  unfold seriesConditions
  dsimp only
  split
  · exact bounds
  · refine List.forall_mem_append.mpr ⟨bounds, List.forall_mem_singleton.mpr (divided ?_)⟩
    split
    · exact closed
    · exact shifted _

theorem balanced_joinConditions {conditions : List String}
    (closed : ∀ condition ∈ conditions, Balanced condition.toList) :
    Balanced (joinConditions conditions).toList := by
  unfold joinConditions
  split
  · exact closed _ List.mem_cons_self
  · have between : Balanced " and ".toList := balanced_piece (by simp [closedPieces])
    rw [String.toList_intercalate]
    refine between.intercalate (List.forall_mem_map.mpr (List.forall_mem_map.mpr ?_))
    intro condition mem
    have inner := closed condition mem
    rw [balanced_iff_inside]
    simp only [String.toList_append, after_append, pieces, after_inside inner]

theorem balanced_count {axis node : String} (neutral : Neutral axis.toList)
    (neutral' : Neutral node.toList) :
    Balanced ("count(" ++ axis ++ "::" ++ node ++ ")").toList := by
  have before := Balanced.of_neutral neutral
  have behind := Balanced.of_neutral neutral'
  rw [balanced_iff_inside]
  simp only [String.toList_append, after_append, pieces, after_inside before, after_inside behind]

theorem balanced_siblingCount {axis node : String} (neutral : Neutral axis.toList)
    (neutral' : Neutral node.toList) : Balanced (siblingCount axis node).toList := by
  have before := Balanced.of_neutral neutral
  have behind := Balanced.of_neutral neutral'
  rw [siblingCount, balanced_iff_inside]
  simp only [String.toList_append, after_append, pieces, after_inside before, after_inside behind]

end Series

/-- What the translation yields, if it yields anything, has the property. -/
def Yields {α : Type} (t : Translated α) (P : α → Prop) : Prop := ∀ a, t = .ok a → P a

section Closure

variable {α β : Type} {t : Translated α} {P : α → Prop} {Q : β → Prop}

theorem yields_ok {a : α} (holds : P a) : Yields (.ok a) P := by
  rintro _ ⟨⟩
  exact holds

theorem yields_error (refusal : Refusal) : Yields (.error refusal : Translated α) P := by
  rintro _ ⟨⟩

theorem Yields.bind {f : α → Translated β} (first : Yields t P) (rest : ∀ a, P a → Yields (f a) Q) :
    Yields (t >>= f) Q := by
  intro b given
  cases ended : t with
  | error refusal =>
    rw [ended] at given
    cases given
  | ok a =>
    rw [ended] at given
    exact rest a (first a ended) b given

theorem yields_any (t : Translated α) : Yields t fun _ => True := fun _ _ => trivial

theorem yields_mapM {f : α → Translated β} (each : ∀ a, Yields (f a) Q) (items : List α) :
    Yields (items.mapM f) fun results => ∀ b ∈ results, Q b := by
  induction items with
  | nil => exact yields_ok fun _ mem => nomatch mem
  | cons a rest ih =>
    rw [List.mapM_cons]
    exact (each a).bind fun b holds => ih.bind fun _ all =>
      yields_ok (List.forall_mem_cons.mpr ⟨holds, all⟩)

end Closure

section Pseudo

variable {s : Step} {flavour : Flavour} {name : String} {arguments : List Token}
  {apply : Step → Translated Step}

theorem yields_attributeName (flavour : Flavour) (test : AttributeTest) :
    Yields (attributeName flavour test) fun node => Balanced node.toList := by
  unfold attributeName
  split
  · exact yields_error _
  · dsimp only
    split
    · refine yields_ok ?_
      rw [balanced_iff_inside]
      simp only [String.toList_append, after_append, pieces, after_inside (balanced_literal _)]
    · refine yields_ok (balanced_attribute fun safe => ?_)
      split at safe
      · obtain ⟨safe, space⟩ := Bool.and_eq_true_iff.mp safe
        exact neutral_prefixed space (neutral_of_isSafeName safe)
      · exact neutral_of_isSafeName safe

theorem neutral_written {n : Int} {shown : String} (written : Numeral.write? n = some shown) :
    Neutral shown.toList := by
  rw [Numeral.eq_toString_of_write? written]
  exact neutral_int n

theorem yields_nthStep (nests : s.Nests) (arguments : List Token) (last byName : Bool) :
    Yields (nthStep s arguments last byName) Step.Nests := by
  have star : Neutral "*".toList := neutral_piece (by simp)
  have node : Neutral (if byName then s.element else "*").toList := by
    cases byName with
    | true => exact nests.element
    | false => exact star
  have axis : Neutral (if last then "following-sibling" else "preceding-sibling").toList := by
    cases last <;> exact neutral_piece (by simp)
  have count := balanced_count axis node
  unfold nthStep
  split
  · exact yields_error _
  dsimp only
  split
  · exact yields_ok nests
  split
  · exact yields_ok (nests.require (balanced_piece (by simp [closedPieces])))
  split
  · split
    · rename_i shown written
      have equals : Balanced " = ".toList := balanced_piece (by simp [closedPieces])
      refine yields_ok (nests.require ?_)
      rw [String.toList_append, String.toList_append]
      exact (count.append equals).append (.of_neutral (neutral_written written))
    · exact yields_error _
  · exact yields_ok (nests.require (balanced_joinConditions (balanced_seriesConditions count _ _)))

theorem balanced_html : Balanced linkTest.toList ∧ Balanced checkedTest.toList ∧
    Balanced enabledTest.toList ∧ Balanced disabledTest.toList := by
  delta linkTest checkedTest enabledTest disabledTest fieldsetDisables
  refine ⟨?_, ?_, ?_, ?_⟩
  all_goals
    apply balanced_spelled
    · repeat' with_reducible apply spelled_append
      all_goals exact spelled_fixed rfl
    · decide +kernel

theorem balanced_languageTest (value : String) : Balanced (languageTest value).toList := by
  have inner := balanced_literal (LetterCase.lower value ++ "-")
  delta languageTest capitals smallLetters
  apply balanced_spelled
  · apply spelled_append
    · apply spelled_append
      · repeat' with_reducible apply spelled_append
        all_goals exact spelled_fixed rfl
      · exact Eq.refl (literal _).toList
    · exact spelled_fixed rfl
  · exact Balanced.surrounded (by decide +kernel) (by decide +kernel) inner

theorem yields_checked {condition : String} (nests : s.Nests) (pseudo : String)
    (closed : Balanced condition.toList) :
    Yields (do checkNamed s pseudo; return s.require condition) Step.Nests :=
  (yields_any _).bind fun _ _ => yields_ok (nests.require closed)

theorem yields_html (nests : s.Nests) {condition : String} (closed : Balanced condition.toList) :
    Yields (.ok (s.require (if flavour = .html then condition else "0"))) Step.Nests := by
  refine yields_ok (nests.require ?_)
  split
  · exact closed
  · exact balanced_piece (by simp [closedPieces])

theorem yields_pseudo (known : pseudoStep? flavour name = some apply) (nests : s.Nests) :
    Yields (apply s) Step.Nests := by
  have star : Neutral "*".toList := neutral_piece (by simp)
  have preceding {node : String} (neutral : Neutral node.toList) :=
    balanced_siblingCount (neutral_piece (by simp) : Neutral "preceding".toList) neutral
  have following {node : String} (neutral : Neutral node.toList) :=
    balanced_siblingCount (neutral_piece (by simp) : Neutral "following".toList) neutral
  have only {node : String} (neutral : Neutral node.toList) : Balanced
      (siblingCount "preceding" node ++ " and " ++ siblingCount "following" node).toList := by
    have between : Balanced " and ".toList := balanced_piece (by simp [closedPieces])
    rw [String.toList_append, String.toList_append]
    exact ((preceding neutral).append between).append (following neutral)
  have never : (s.require "0").Nests := nests.require (balanced_piece (by simp [closedPieces]))
  obtain ⟨link, checked, enabled, disabled⟩ := balanced_html
  unfold pseudoStep? at known
  dsimp only at known
  split at known <;> cases known
  · exact yields_ok (nests.require (balanced_piece (by simp [closedPieces])))
  · exact yields_ok ((nests_nameTest nests).require (balanced_piece (by simp [closedPieces])))
  · exact yields_ok (nests.require (preceding star))
  · exact yields_ok (nests.require (following star))
  · exact yields_checked nests _ (preceding nests.element)
  · exact yields_checked nests _ (following nests.element)
  · exact yields_ok (nests.require (only star))
  · exact yields_checked nests _ (only nests.element)
  · exact yields_ok (nests.require (balanced_piece (by simp [closedPieces])))
  · exact yields_html nests link
  · exact yields_html nests checked
  · exact yields_html nests enabled
  · exact yields_html nests disabled
  all_goals exact yields_ok never

theorem yields_function (known : functionStep? flavour name arguments = some apply)
    (nests : s.Nests) : Yields (apply s) Step.Nests := by
  have contained (value : String) : (s.require ("contains(., " ++ literal value ++ ")")).Nests := by
    refine nests.require (balanced_iff_inside.mpr ?_)
    simp only [String.toList_append, after_append, pieces, after_inside (balanced_literal value)]
  have spoken (value : String) : (s.require ("lang(" ++ literal value ++ ")")).Nests := by
    refine nests.require (balanced_iff_inside.mpr ?_)
    simp only [String.toList_append, after_append, pieces, after_inside (balanced_literal value)]
  unfold functionStep? at known
  split at known <;> cases known
  · exact yields_nthStep nests arguments false false
  · exact yields_nthStep nests arguments true false
  · exact (yields_any _).bind fun _ _ => yields_nthStep nests arguments false true
  · exact (yields_any _).bind fun _ _ => yields_nthStep nests arguments true true
  · exact (yields_any _).bind fun value _ => yields_ok (contained value)
  · refine (yields_any _).bind fun value _ => ?_
    split
    · exact yields_ok (spoken value)
    split
    · exact yields_error _
    · exact yields_ok (nests.require (balanced_languageTest value))

end Pseudo

structure Meaning.Nests (m : Meaning) : Prop where
  step : m.step.Nests
  test : ∀ condition, m.test = some condition → Balanced condition.toList

section Meanings

variable {s : Step} {left right inner : Meaning} {flavour : Flavour}

theorem balanced_test {condition : String} (nests : s.Nests) (given : s.test = some condition) :
    Balanced condition.toList := by
  unfold Step.test at given
  dsimp only at given
  split at given
  · cases given
  · cases given
    exact (nests_nameTest nests).condition

theorem nests_ofStep (nests : s.Nests) : (Meaning.ofStep s).Nests :=
  ⟨nests, fun _ => balanced_test nests⟩

theorem balanced_reverseAxis (combinator : Combinator) :
    Balanced (reverseAxis combinator).toList := by
  cases combinator <;> exact balanced_piece (by simp [reverseAxis, closedPieces])

theorem nests_combine (before : left.Nests) (behind : right.Nests) (combinator : Combinator) :
    (left.combine combinator right).Nests := by
  have back := balanced_reverseAxis combinator
  have tested (condition : String) (given : left.test = some condition) :
      Balanced (reverseAxis combinator ++ "[" ++ condition ++ "]").toList := by
    have inner := before.test condition given
    rw [balanced_iff_inside]
    simp only [String.toList_append, after_append, pieces, after_inside back, after_inside inner]
  refine ⟨nests_combineSteps before.step behind.step combinator, ?_⟩
  rintro _ ⟨⟩
  cases given : right.test with
  | none =>
    cases front : left.test with
    | none => exact back
    | some outer => exact tested outer front
  | some condition =>
    have between : Balanced " and ".toList := balanced_piece (by simp [closedPieces])
    dsimp only
    rw [String.toList_append, String.toList_append]
    refine ((behind.test condition given).append between).append ?_
    cases front : left.test with
    | none => exact back
    | some outer => exact tested outer front

theorem balanced_denied (nests : inner.Nests) : Balanced inner.denied.toList := by
  unfold Meaning.denied
  split
  · exact balanced_piece (by simp [closedPieces])
  · rename_i condition given
    have closed := nests.test condition given
    rw [balanced_iff_inside]
    simp only [String.toList_append, after_append, pieces, after_inside closed]

theorem balanced_alternative {condition further : String} (first : Balanced condition.toList)
    (second : Balanced further.toList) : Balanced (alternative condition further).toList := by
  unfold alternative
  split
  · exact second
  · rw [balanced_iff_inside]
    simp only [String.toList_append, after_append, pieces, after_inside first, after_inside second]

end Meanings

mutual

theorem yields_meaning (flavour : Flavour) :
    (selector : Selector) → Yields (meaning flavour selector) Meaning.Nests
  | .element space name => by
    rw [meaning]
    exact yields_ok (nests_ofStep (nests_elementStep space name))
  | .hash base id | .cls base id => by
    rw [meaning]
    exact (yields_meaning flavour base).bind fun b nests => yields_ok (nests_ofStep
      (nests_compareWith nests.step (balanced_piece (by simp [closedPieces])) _ id))
  | .attrib base test => by
    rw [meaning]
    exact (yields_attributeName flavour test).bind fun node closed =>
      (yields_meaning flavour base).bind fun b nests =>
        yields_ok (nests_ofStep (nests_attributeStep nests.step closed test))
  | .pseudo base name => by
    rw [meaning]
    split
    · exact yields_error _
    · rename_i apply known
      exact (yields_meaning flavour base).bind fun b nests =>
        (yields_pseudo known nests.step).bind fun s nests => yields_ok (nests_ofStep nests)
  | .function base name arguments => by
    rw [meaning]
    split
    · exact yields_error _
    · rename_i apply known
      exact (yields_meaning flavour base).bind fun b nests =>
        (yields_function known nests.step).bind fun s nests => yields_ok (nests_ofStep nests)
  | .negation base inner => by
    rw [meaning]
    exact (yields_meaning flavour base).bind fun b nests =>
      (yields_meaning flavour inner).bind fun i other =>
        yields_ok (nests_ofStep (nests.step.require (balanced_denied other)))
  | .relation base inner => by
    rw [meaning]
    have nothing : Balanced "".toList := balanced_nil
    exact (yields_relatedCondition flavour nothing inner).bind fun condition closed =>
      (yields_meaning flavour base).bind fun b nests =>
        yields_ok (nests_ofStep (nests.step.require closed))
  | .matching base inner => by
    rw [meaning]
    have nothing : Balanced "".toList := balanced_nil
    exact (yields_meaning flavour base).bind fun b nests =>
      (yields_optionStep flavour nests.step nothing inner).bind fun s nests =>
        yields_ok (nests_ofStep nests)
  | .combined left combinator right => by
    rw [meaning]
    exact (yields_meaning flavour left).bind fun l before =>
      (yields_meaning flavour right).bind fun r behind =>
        yields_ok (nests_combine before behind combinator)

theorem yields_relatedCondition (flavour : Flavour) {condition : String}
    (closed : Balanced condition.toList) : (inner : List (Combinator × Selector)) →
    Yields (relatedCondition flavour condition inner) fun c => Balanced c.toList
  | [] => by
    rw [relatedCondition]
    exact yields_ok closed
  | (combinator, selector) :: rest => by
    rw [relatedCondition]
    exact (yields_meaning flavour selector).bind fun m nests =>
      yields_relatedCondition flavour
        (balanced_alternative closed (balanced_relatedPath nests.step combinator)) rest

theorem yields_optionStep (flavour : Flavour) {s : Step} (nests : s.Nests) {condition : String}
    (closed : Balanced condition.toList) : (inner : List Selector) →
    Yields (optionStep flavour s condition inner) Step.Nests
  | [] => by
    rw [optionStep]
    exact yields_ok (nests.require closed)
  | option :: rest => by
    rw [optionStep]
    refine (yields_meaning flavour option).bind fun m other => ?_
    split
    · split
      · exact yields_ok nests
      · rename_i test given
        exact yields_optionStep flavour nests
          (balanced_alternative closed (balanced_test other.step given)) rest
    · exact yields_error _

end

theorem balanced_toPath {flavour : Flavour} {text path : String}
    (translated : toPath flavour text = .ok path) : Balanced path.toList := by
  have chosen (c : Chosen) : Yields (chosenPath flavour c) fun p => Balanced p.toList := by
    unfold chosenPath
    refine (yields_meaning flavour c.selector).bind fun m nests => ?_
    split
    · exact yields_error _
    · refine yields_ok ?_
      have below : Balanced ".//".toList := balanced_piece (by simp [closedPieces])
      rw [String.toList_append]
      exact below.append nests.step.text
  have whole : Yields (toPath flavour text) fun p => Balanced p.toList := by
    unfold toPath
    split
    · exact yields_error _
    · refine (yields_mapM chosen _).bind fun paths all => yields_ok ?_
      have between : Balanced " | ".toList := balanced_piece (by simp [closedPieces])
      rw [union, String.toList_intercalate]
      exact between.intercalate (List.forall_mem_map.mpr all)
  exact whole path translated

end ElementSearch.Css
