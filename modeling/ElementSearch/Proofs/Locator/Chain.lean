import ElementSearch.Proofs.Decimal.Neutral
import ElementSearch.Proofs.Locator.Narrowing
import Mathlib.Data.List.TakeWhile

/-! Chains of steps.
A step that is refused leaves a chain where it was.  When the start and the locators given to the
steps have balanced XPath forms, so has every locator that the chain reaches, whatever texts, values
and positions the steps are given. -/

namespace ElementSearch

open XPath XPath.Nesting

namespace Refinement

def arguments : Refinement → List Value
  | alternative v | find v | withChild v | withDescendant v | inside v | after v | before v => [v]
  | position _ | first | last | withText _ | withAttributes _ | named _ => []

def attributeNames : Refinement → List Value
  | withAttributes (.dict entries) => entries.map Prod.fst
  | _ => []

def position? : Refinement → Option Value
  | position n => some n
  | first => some (.int 1)
  | last => some (.int (-1))
  | _ => none

end Refinement

namespace LocatorOf

variable {filters : List Filter} {l next : Locator} {step : Refinement}

/-- The XPath form, if there is one, is balanced. -/
def Nests (l : Locator) : Prop := ∀ path, l.pathText = .ok path → XPath.Balanced path.toList

end LocatorOf

namespace Refinement

open LocatorOf

/-- The locators given to the step have balanced XPath forms, and the names of attributes have no
quotes and no brackets. -/
structure Clean (filters : List Filter) (step : Refinement) : Prop where
  arguments : ∀ v ∈ step.arguments, ∀ l, classified filters v = .ok l → Nests l
  names : ∀ name ∈ step.attributeNames, ∀ shown, name.display = .ok shown → Neutral shown.toList

end Refinement

namespace LocatorOf

variable {filters : List Filter} {l next : Locator} {step : Refinement} {path : String}

/-- A step that is refused leaves the chain where it was. -/
def advance (filters : List Filter) (l : Locator) (step : Refinement) : Locator :=
  match l.refine filters step with
  | .ok next => next
  | .error _ => l

/-- Where the chain ends. -/
def chain (filters : List Filter) (start : Locator) (steps : List Refinement) : Locator :=
  steps.foldl (advance filters) start

theorem nests_ofPath (balanced : XPath.Balanced path.toList) : Nests (ofPath path) := by
  intro form same
  rw [pathText_ofPath] at same
  cases same
  exact balanced

theorem pathText_eq_of_toPath (form : l.toPath = .ok (.text path)) : l.pathText = .ok path := by
  rw [pathText, form]
  exact Value.display_text path

theorem neutral_lead (cs : List Char) :
    Neutral (cs.takeWhile fun c => c == '.' || c == '/') := by
  intro c mem
  have mark := List.mem_takeWhile_imp mem
  rcases Bool.or_eq_true _ _ ▸ mark with dot | slash
  · rw [beq_iff_eq.mp dot]
    decide
  · rw [beq_iff_eq.mp slash]
    decide

theorem subSelector_cases {v : Value} {sub : String} (found : subSelector filters v = .ok sub) :
    ∃ l path, classified filters v = .ok l ∧ l.pathText = .ok path ∧
      isBracketed path.toList = false ∧ sub.toList = stripLead path.toList := by
  obtain ⟨l, isLocator, asked⟩ := Outcome.bind_eq_ok found
  obtain ⟨form, isForm, stripped⟩ := Outcome.bind_eq_ok asked
  cases form with
  | text path =>
    simp only [subPath] at stripped
    split at stripped
    · cases stripped
    · rename_i accepted
      cases stripped
      exact ⟨l, path, isLocator, pathText_eq_of_toPath isForm, by simpa using accepted,
        String.toList_ofList⟩
  | _ => cases stripped

theorem balanced_subSelector {v : Value} {sub : String}
    (nests : ∀ l, classified filters v = .ok l → Nests l)
    (found : subSelector filters v = .ok sub) :
    XPath.Balanced sub.toList := by
  obtain ⟨l, path, isLocator, form, _, stripped⟩ := subSelector_cases found
  -- dots and slashes neither open nor close anything
  refine XPath.Balanced.of_neutral_append (neutral_lead path.toList) ?_
  rw [stripped, stripLead, List.takeWhile_append_dropWhile]
  exact nests l isLocator path form

theorem balanced_attributeTests {entries : List (Value × Value)} {tests : List String}
    (neutral : ∀ name ∈ entries.map Prod.fst, ∀ shown, name.display = .ok shown →
      Neutral shown.toList)
    (written : attributeTests entries = .ok tests) :
    ∀ test ∈ tests, XPath.Balanced test.toList := by
  induction entries generalizing tests with
  | nil =>
    cases written
    exact fun _ mem => nomatch mem
  | cons entry rest ih =>
    obtain ⟨name, value⟩ := entry
    obtain ⟨shown, isName, written⟩ := Outcome.bind_eq_ok written
    obtain ⟨literal, isLiteral, written⟩ := Outcome.bind_eq_ok written
    obtain ⟨others, areOthers, written⟩ := Outcome.bind_eq_ok written
    cases written
    refine List.forall_mem_cons.mpr ⟨?_, ih (fun n mem => neutral n (List.mem_cons_of_mem _ mem))
      areOthers⟩
    have plain : Neutral shown.toList := neutral name List.mem_cons_self shown isName
    have front : XPath.Balanced ("@" ++ shown ++ " = ").toList := by
      apply XPath.Balanced.of_neutral
      simp only [String.toList_append, neutral_append, plain, and_true]
      decide
    rw [String.toList_append]
    exact front.append (balanced_quoteValue isLiteral)

theorem balanced_fromEnd {distance : String} (neutral : Neutral distance.toList) :
    XPath.Balanced (fromEnd distance).toList := by
  have call : XPath.Balanced "last()-".toList := by rw [XPath.Balanced]; decide
  rw [fromEnd, String.toList_append]
  exact call.append (XPath.Balanced.of_neutral neutral)

theorem neutral_written {n : Int} {shown : String} (written : Value.written n = .ok shown) :
    Neutral shown.toList := by
  rw [Value.eq_toString_of_written written]
  exact neutral_int n

theorem intPosition_cases {n : Int} {written : Outcome String} {test : String}
    (neutral : ∀ shown, written = .ok shown → Neutral shown.toList)
    (accepted : intPosition n written = .ok test) :
    Neutral test.toList ∨ ∃ distance, Neutral distance.toList ∧ test = fromEnd distance := by
  unfold intPosition at accepted
  split at accepted
  · cases accepted
  split at accepted
  · exact .inl (neutral test accepted)
  · obtain ⟨distance, shown, same⟩ := Outcome.bind_eq_ok accepted
    cases same
    exact .inr ⟨distance, neutral_written shown, rfl⟩

/-- The number in the test on a position: the position itself, or how far it is from the last. -/
def countOf (p : Int) : Nat := if 0 < p then p.natAbs else (p + 1).natAbs

theorem positionTest_int {p : Int} (nonzero : p ≠ 0) :
    positionTest (.int p) =
      (Value.written (countOf p)).map fun s => if 0 < p then s else fromEnd s := by
  rw [positionTest, intPosition, if_neg nonzero, countOf]
  by_cases positive : 0 < p
  · have same : (p.natAbs : Int) = p := by omega
    simp only [gt_iff_lt, if_pos positive, same]
    cases Value.written p <;> rfl
  · simp only [gt_iff_lt, if_neg positive]
    cases Value.written (p + 1).natAbs <;> rfl

theorem positionTest_of_few {p : Int} (nonzero : p ≠ 0)
    (fits : Numeral.fits (countOf p) = true) :
    positionTest (.int p) =
      .ok (if 0 < p then toString (countOf p) else fromEnd (toString (countOf p))) := by
  rw [positionTest_int nonzero, Value.written, Numeral.write?_of_fits fits]
  rfl

theorem positionTest_of_many {p : Int} (nonzero : p ≠ 0)
    (long : Numeral.fits (countOf p) = false) :
    positionTest (.int p) = .error .longNumber := by
  rw [positionTest_int nonzero, Value.written, Numeral.write?_of_not_fits long]
  rfl

theorem floatPosition_cases {x : Binary64} {test : String}
    (accepted : floatPosition x = .ok test) :
    Neutral test.toList ∨ ∃ distance, Neutral distance.toList ∧ test = fromEnd distance := by
  unfold floatPosition at accepted
  split at accepted
  · cases accepted
    exact .inr ⟨_, Binary64.neutral_text _, rfl⟩
  · cases accepted
    exact .inr ⟨_, Binary64.neutral_text _, rfl⟩
  · cases accepted
    exact .inl (Binary64.neutral_text _)
  · split at accepted
    · cases accepted
    split at accepted
    · cases accepted
      exact .inr ⟨_, Binary64.neutral_text _, rfl⟩
    · cases accepted
      exact .inl (Binary64.neutral_text _)

theorem positionTest_cases {n : Value} {test : String} (accepted : positionTest n = .ok test) :
    Neutral test.toList ∨ ∃ distance, Neutral distance.toList ∧ test = fromEnd distance := by
  cases n with
  | int n => exact intPosition_cases (fun _ shown => neutral_written shown) accepted
  | bool b =>
    refine intPosition_cases (fun shown named => ?_) accepted
    cases named
    cases b <;> decide
  | float x => exact floatPosition_cases accepted
  | _ => cases accepted

theorem balanced_positionTest {n : Value} {test : String} (accepted : positionTest n = .ok test) :
    XPath.Balanced test.toList := by
  rcases positionTest_cases accepted with neutral | ⟨distance, neutral, rfl⟩
  · exact XPath.Balanced.of_neutral neutral
  · exact balanced_fromEnd neutral

theorem balanced_framed {opening content closing : String}
    (opened : (outside.after opening.toList).quote = none)
    (closed : outside.after (opening.toList ++ closing.toList) = outside)
    (inner : XPath.Balanced content.toList) :
    XPath.Balanced (opening ++ content ++ closing).toList := by
  rw [String.toList_append, String.toList_append]
  exact XPath.Balanced.surrounded opened closed inner

def picked (path test : String) : String := "(" ++ path ++ ")[position()=" ++ test ++ "]"

/-- What a step makes of the XPath form that was there. -/
inductive Writes (filters : List Filter) : Refinement → String → String → Prop
  | behind {step : Refinement} {path : String} {suffix : Suffix} {s : String}
      (narrows : step.suffix? filters = some suffix) (accepted : suffix.text = .ok s) :
      Writes filters step path (path ++ s)
  | beside {other : Value} {path second : String} {alt : Locator}
      (isAlt : classified filters other = .ok alt) (isSecond : alt.pathText = .ok second) :
      Writes filters (.alternative other) path (union [path, second])
  | around {step : Refinement} {path test : String} {n : Value} (picks : step.position? = some n)
      (accepted : positionTest n = .ok test) : Writes filters step path (picked path test)

theorem pick_cases {n : Value} (done : l.pick n = .ok next) :
    ∃ path test, l.pathText = .ok path ∧ positionTest n = .ok test ∧
      next = ofPath (picked path test) := by
  obtain ⟨test, accepted, done⟩ := Outcome.bind_eq_ok done
  obtain ⟨path, form, done⟩ := Outcome.bind_eq_ok done
  cases done
  exact ⟨path, test, form, accepted, rfl⟩

theorem balanced_picked {test : String} (whole : XPath.Balanced path.toList)
    (choice : XPath.Balanced test.toList) : XPath.Balanced (picked path test).toList := by
  have pieces : picked path test = "(" ++ path ++ ")" ++ ("[position()=" ++ test ++ "]") := by
    rw [picked, show ")[position()=" = ")" ++ "[position()=" from rfl]
    simp only [String.append_assoc]
  rw [pieces, String.toList_append]
  exact (balanced_framed (by decide) (by decide) whole).append
    (balanced_framed (by decide) (by decide) choice)

theorem frames_close : ∀ frame ∈ Suffix.frames, (outside.after frame.1.toList).quote = none ∧
    outside.after (frame.1.toList ++ frame.2.toList) = outside := by
  decide

theorem balanced_content {suffix : Suffix} {content : String} (clean : step.Clean filters)
    (narrows : step.suffix? filters = some suffix) (accepted : suffix.content = .ok content) :
    XPath.Balanced content.toList := by
  cases step with
  | find inner | withChild inner | withDescendant inner | inside inner | after inner
  | before inner =>
    cases narrows
    exact balanced_subSelector (clean.arguments inner (List.mem_singleton_self inner)) accepted
  | withText text =>
    cases narrows
    exact balanced_quoteValue accepted
  | withAttributes attributes =>
    cases attributes with
    | dict entries =>
      cases narrows
      obtain ⟨tests, written, rfl⟩ := Outcome.map_eq_ok accepted
      have between : XPath.Balanced " and ".toList := by rw [XPath.Balanced]; decide
      rw [String.toList_intercalate]
      refine between.intercalate (List.forall_mem_map.mpr ?_)
      exact balanced_attributeTests clean.names written
    | _ =>
      cases narrows
      cases accepted
  | _ => cases narrows

theorem balanced_suffix {suffix : Suffix} {s : String} (clean : step.Clean filters)
    (narrows : step.suffix? filters = some suffix) (accepted : suffix.text = .ok s) :
    XPath.Balanced s.toList := by
  obtain ⟨content, isContent, rfl⟩ := Outcome.map_eq_ok accepted
  obtain ⟨opened, closed⟩ := frames_close _ (frame_mem narrows)
  exact balanced_framed opened closed (balanced_content clean narrows isContent)

theorem text_of_textOnly {v : Value} {s : String} (accepted : textOnly v = .ok s) :
    v = .text s := by
  cases v with
  | text t =>
    cases accepted
    rfl
  | _ => cases accepted

theorem alternative_cases {other : Value}
    (done : l.refine filters (.alternative other) = .ok next) :
    ∃ first second alt, l.pathText = .ok first ∧ classified filters other = .ok alt ∧
      alt.pathText = .ok second ∧ next = ofPath (union [first, second]) := by
  obtain ⟨alt, isAlt, done⟩ := Outcome.bind_eq_ok done
  obtain ⟨form, isForm, done⟩ := Outcome.bind_eq_ok done
  obtain ⟨otherForm, isOther, done⟩ := Outcome.bind_eq_ok done
  obtain ⟨first, isFirst, done⟩ := Outcome.bind_eq_ok done
  obtain ⟨second, isSecond, done⟩ := Outcome.bind_eq_ok done
  cases done
  rw [text_of_textOnly isFirst] at isForm
  rw [text_of_textOnly isSecond] at isOther
  exact ⟨first, second, alt, pathText_eq_of_toPath isForm, isAlt, pathText_eq_of_toPath isOther,
    rfl⟩

theorem balanced_union {first second : String} (before : XPath.Balanced first.toList)
    (behind : XPath.Balanced second.toList) : XPath.Balanced (union [first, second]).toList := by
  have between : XPath.Balanced " | ".toList := by rw [XPath.Balanced]; decide
  have sides : ∀ side ∈ [first, second], XPath.Balanced side.toList := by simp [before, behind]
  rw [union, String.toList_intercalate]
  exact between.intercalate (List.forall_mem_map.mpr sides)

theorem noPath_ne_ok {α : Type} {reason : String} {a : α} : l.noPath reason ≠ .ok a := by
  intro given
  obtain ⟨_, _, given⟩ := Outcome.bind_eq_ok given
  cases given

theorem pathOfSelector_eq_ok {selector form : Value} :
    l.pathOfSelector selector = .ok form ↔
      ∃ text path, selector = .text text ∧ Css.toPath .generic text = .ok path ∧
        form = .text path := by
  constructor
  · intro given
    unfold pathOfSelector at given
    split at given
    · split at given
      · rename_i text _ path translated
        cases given
        exact ⟨text, path, rfl, translated, rfl⟩
      · exact absurd given noPath_ne_ok
      all_goals cases given
    · cases given
  · rintro ⟨text, path, rfl, translated, rfl⟩
    simp only [pathOfSelector, translated]

theorem toPath_named (output : Value) {form : Value} (given : l.toPath = .ok form) :
    ({ l with output := output } : Locator).toPath = .ok form := by
  unfold toPath at given ⊢
  split at given
  · rename_i isPath
    rwa [if_pos isPath]
  rename_i notPath
  rw [if_neg notPath]
  split at given
  · rename_i isSelector
    obtain ⟨selector, simple, given⟩ := Outcome.bind_eq_ok given
    have same : ({ l with output := output } : Locator).simplify = .ok selector := simple
    rw [if_pos isSelector, same]
    exact pathOfSelector_eq_ok.mpr (pathOfSelector_eq_ok.mp given)
  · exact absurd given noPath_ne_ok

theorem pathText_named (output : Value) (form : l.pathText = .ok path) :
    ({ l with output := output } : Locator).pathText = .ok path := by
  obtain ⟨value, isForm, shown⟩ := Outcome.bind_eq_ok form
  rw [pathText, toPath_named output isForm]
  exact shown

theorem pathText_of_named {output : Value}
    (form : ({ l with output := output } : Locator).pathText = .ok path) :
    l.pathText = .ok path :=
  @pathText_named { l with output := output } path l.output form

theorem form_of_narrowing {suffix : Suffix} (narrows : step.suffix? filters = some suffix)
    (done : l.refine filters step = .ok next) : ∃ path, l.pathText = .ok path := by
  cases step with
  | find inner | withChild inner | withDescendant inner | inside inner | after inner
  | before inner | withText text =>
    obtain ⟨path, form, _⟩ := Outcome.bind_eq_ok done
    exact ⟨path, form⟩
  | withAttributes attributes =>
    cases attributes with
    | dict entries =>
      obtain ⟨_, _, done⟩ := Outcome.bind_eq_ok done
      obtain ⟨path, form, _⟩ := Outcome.bind_eq_ok done
      exact ⟨path, form⟩
    | _ => cases done
  | _ => cases narrows

theorem refine_cases (done : l.refine filters step = .ok next) :
    (∃ output, next = { l with output := output }) ∨
      ∃ path written, l.pathText = .ok path ∧ next = ofPath written ∧
        Writes filters step path written := by
  cases narrows : step.suffix? filters with
  | some suffix =>
    obtain ⟨path, form⟩ := form_of_narrowing narrows done
    rw [refine_eq form narrows] at done
    obtain ⟨s, accepted, rfl⟩ := Outcome.map_eq_ok done
    exact .inr ⟨path, path ++ s, form, rfl, .behind narrows accepted⟩
  | none =>
    cases step with
    | alternative other =>
      obtain ⟨path, second, alt, form, isAlt, isSecond, rfl⟩ := alternative_cases done
      exact .inr ⟨path, union [path, second], form, rfl, .beside isAlt isSecond⟩
    | position _ | first | last =>
      obtain ⟨path, test, form, accepted, rfl⟩ := pick_cases done
      exact .inr ⟨path, picked path test, form, rfl, .around rfl accepted⟩
    | named output => exact .inl ⟨output, (Except.ok.inj done).symm⟩
    | withAttributes attributes => cases attributes <;> cases narrows
    | _ => cases narrows

theorem balanced_of_writes {written : String} (writes : Writes filters step path written)
    (clean : step.Clean filters) (balanced : XPath.Balanced path.toList) :
    XPath.Balanced written.toList := by
  cases writes with
  | behind narrows accepted =>
    rw [String.toList_append]
    exact balanced.append (balanced_suffix clean narrows accepted)
  | beside isAlt isSecond =>
    exact balanced_union balanced (clean.arguments _ (List.mem_singleton_self _) _ isAlt _ isSecond)
  | around _ accepted => exact balanced_picked balanced (balanced_positionTest accepted)

theorem nests_advance (nests : Nests l) (clean : step.Clean filters) :
    Nests (advance filters l step) := by
  unfold advance
  split
  · rename_i next done
    rcases refine_cases done with ⟨output, rfl⟩ | ⟨path, written, form, rfl, writes⟩
    · exact fun path form => nests path (pathText_of_named form)
    · exact nests_ofPath (balanced_of_writes writes clean (nests path form))
  · exact nests

theorem form_advance (filters : List Filter) (l : Locator) (step : Refinement) :
    (∃ path, (advance filters l step).pathText = .ok path) ↔ ∃ path, l.pathText = .ok path := by
  unfold advance
  split
  · rename_i next done
    rcases refine_cases done with ⟨output, rfl⟩ | ⟨path, written, form, rfl, _⟩
    · exact ⟨fun ⟨path, form⟩ => ⟨path, pathText_of_named form⟩,
        fun ⟨path, form⟩ => ⟨path, pathText_named output form⟩⟩
    · exact ⟨fun _ => ⟨path, form⟩, fun _ => ⟨written, pathText_ofPath written⟩⟩
  · rfl

theorem nests_chain {steps : List Refinement} (nests : Nests l)
    (clean : ∀ step ∈ steps, step.Clean filters) : Nests (chain filters l steps) := by
  induction steps generalizing l with
  | nil => exact nests
  | cons step rest ih =>
    exact ih (nests_advance nests (clean step List.mem_cons_self))
      fun later mem => clean later (List.mem_cons_of_mem step mem)

theorem form_chain (filters : List Filter) (l : Locator) (steps : List Refinement) :
    (∃ path, (chain filters l steps).pathText = .ok path) ↔ ∃ path, l.pathText = .ok path := by
  induction steps generalizing l with
  | nil => rfl
  | cons step rest ih => exact (ih (advance filters l step)).trans (form_advance filters l step)

/-- A chain has an XPath form as long as its start has one, and the form is balanced at every point
of it.  A text or value put into the form closes no bracket around it and leaves no literal open. -/
theorem chain_balanced {start : Locator} {steps : List Refinement} (nests : Nests start)
    (clean : ∀ step ∈ steps, step.Clean filters) :
    (∀ front, front <+: steps →
      ((∃ path, (chain filters start front).pathText = .ok path) ↔
        ∃ path, start.pathText = .ok path) ∧
      ∀ path, (chain filters start front).pathText = .ok path → XPath.Balanced path.toList) ∧
    ∀ v expression, quoteValue v = .ok expression → KeepsToItself expression.toList := by
  constructor
  · intro front before
    exact ⟨form_chain filters start front,
      nests_chain nests fun step mem => clean step (before.subset mem)⟩
  · intro v expression quoted
    exact (balanced_quoteValue quoted).keepsToItself

/-- Texts and values that would leave their literals if they were put in as they are, and a position
that is refused. -/
def hostileSteps : List Refinement :=
  [.find (pathObject ".//tr[@title = ']']"), .withText (.text "it's \")] | //*[(\""),
    .withAttributes (.dict [(.text "title", .text "' or '1'='1")]), .position (.int 0), .last]

theorem clean_hostileSteps : ∀ step ∈ hostileSteps, step.Clean [] := by
  have row : Nests (ofPath ".//tr[@title = ']']") :=
    nests_ofPath (by rw [XPath.Balanced]; decide)
  have given : ∀ l, classified [] (pathObject ".//tr[@title = ']']") = .ok l → Nests l := by
    intro l found
    rw [classified_pathObject] at found
    cases found
    exact row
  have name : ∀ shown, (Value.text "title").display = .ok shown → Neutral shown.toList := by
    intro shown displayed
    rw [Value.display_text] at displayed
    cases displayed
    decide
  have nothing {p : Value → Prop} : ∀ v ∈ [], p v := List.forall_mem_nil p
  simp only [hostileSteps, List.forall_mem_cons]
  exact ⟨⟨by simpa [Refinement.arguments] using given, nothing⟩, ⟨nothing, nothing⟩,
    ⟨nothing, by simpa [Refinement.attributeNames] using name⟩, ⟨nothing, nothing⟩,
    ⟨nothing, nothing⟩, List.forall_mem_nil _⟩

theorem nests_linkOrButton : Nests linkOrButton :=
  nests_ofPath (by rw [XPath.Balanced]; decide)

theorem chain_balanced_hostileSteps :
    ∃ path, (chain [] linkOrButton hostileSteps).pathText = .ok path ∧
      XPath.Balanced path.toList := by
  obtain ⟨form, balanced⟩ :=
    (chain_balanced nests_linkOrButton clean_hostileSteps).1 _ List.prefix_rfl
  obtain ⟨path, isForm⟩ := form.mpr ⟨_, pathText_ofPath _⟩
  exact ⟨path, isForm, balanced path isForm⟩

end LocatorOf

end ElementSearch
