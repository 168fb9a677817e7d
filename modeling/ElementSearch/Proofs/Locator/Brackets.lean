import ElementSearch.Proofs.Locator.Chain
import ElementSearch.Proofs.XPath.Axis

/-! Picked elements as sub-locators.
The step that picks a position puts its query in round brackets, and a bracket cannot follow an
axis.  A sub-locator of that form is refused when the query in the brackets begins like one that was
written by an author, with a double slash or with a dot and a slash; any other is let through and
the bracket gets behind the axis.  Chains whose sub-locators do not bring a bracket along have none
there. -/

namespace ElementSearch

open XPath XPath.Nesting

/-- A step that puts a sub-locator behind an axis: what it writes before the sign of the axis, the
sign, and what it writes behind the sub-locator. -/
structure Axis where
  step : Value → Refinement
  front : String
  sign : String
  closing : String

def axes : List Axis :=
  [⟨.find, "", "//", ""⟩, ⟨.withChild, "[./child", "::", "]"⟩,
    ⟨.withDescendant, "[./descendant", "::", "]"⟩, ⟨.inside, "[ancestor", "::", "]"⟩,
    ⟨.after, "[preceding-sibling", "::", "]"⟩, ⟨.before, "[following-sibling", "::", "]"⟩]

namespace Axis

variable {axis : Axis}

theorem suffix?_step (known : axis ∈ axes) (filters : List Filter) (v : Value) :
    (axis.step v).suffix? filters =
      some ⟨axis.front ++ axis.sign, LocatorOf.subSelector filters v, axis.closing⟩ := by
  simp only [axes, List.mem_cons, List.not_mem_nil, or_false] at known
  rcases known with rfl | rfl | rfl | rfl | rfl | rfl <;> rfl

theorem mem_arguments (known : axis ∈ axes) (v : Value) : v ∈ (axis.step v).arguments := by
  simp only [axes, List.mem_cons, List.not_mem_nil, or_false] at known
  rcases known with rfl | rfl | rfl | rfl | rfl | rfl <;> exact List.mem_singleton_self v

theorem sign_mem : ∀ axis ∈ axes, axis.sign.toList ∈ signs := by decide

theorem surroundings : ∀ axis ∈ axes,
    Closed axis.front.toList ∧ Continues axis.front.toList ∧ Closed axis.sign.toList ∧
      Continues axis.closing.toList ∧
      bare (axis.front ++ axis.sign).toList = axis.front.toList ++ axis.sign.toList := by
  decide +kernel

end Axis

namespace LocatorOf

variable {filters : List Filter} {l receiver : Locator} {step : Refinement} {v : Value}
  {x y s path : String}

def picks (p : Int) : List Refinement := [.position (.int p), .first, .last]

section Guard

theorem looksLikePath_closed (cs tail : List Char) :
    Css.looksLikePath (cs ++ ')' :: tail) = Css.looksLikePath cs := by
  rw [Css.looksLikePath, Css.looksLikePath, List.dropWhile_append]
  rcases cs.dropWhile (· == '(') with _ | ⟨c, _ | ⟨d, rest⟩⟩
  · rfl
  · -- with one character left the bracket behind it comes second, where a slash would have to be
    simp
  · simp only [List.isEmpty_cons, Bool.false_eq_true, if_false, List.cons_append]
    split <;> simp_all

theorem isBracketed_picked (x test : String) :
    isBracketed (picked x test).toList = Css.looksLikePath x.toList := by
  have spelled : (picked x test).toList =
      '(' :: (x.toList ++ ')' :: "[position()=".toList ++ test.toList ++ [']']) := by
    simp [picked]
  have inner := looksLikePath_closed x.toList ("[position()=".toList ++ test.toList ++ [']'])
  rw [spelled, isBracketed, List.head?_cons]
  simp only [List.append_assoc, List.cons_append] at inner ⊢
  rw [← inner]
  simp [Css.looksLikePath]

theorem head?_stripLead (cs : List Char) : ∀ c ∈ (stripLead cs).head?, c ≠ '.' ∧ c ≠ '/' := by
  intro c first
  have kept := List.head?_dropWhile_not (fun c => c == '.' || c == '/') cs
  rw [stripLead] at first
  rw [first] at kept
  simpa using kept

def bareOf (path : String) : String := String.ofList (stripLead path.toList)

theorem subSelector_of_form (isLocator : classified filters v = .ok l)
    (isForm : l.toPath = .ok (.text s)) : subSelector filters v = subPath s := by
  rw [subSelector, isLocator, Outcome.bind_of_ok rfl, isForm]
  rfl

theorem refine_of_form {axis : Axis} (known : axis ∈ axes) (form : receiver.pathText = .ok y)
    (isLocator : classified filters v = .ok l) (isForm : l.toPath = .ok (.text s)) :
    receiver.refine filters (axis.step v) =
      if isBracketed s.toList = true then .error (.badValue bracketMessage)
      else .ok (ofPath (y ++ (axis.front ++ axis.sign ++ bareOf s ++ axis.closing))) := by
  rw [refine_eq form (axis.suffix?_step known filters v), Suffix.text,
    subSelector_of_form isLocator isForm, subPath]
  split <;> rfl

theorem refine_of_pick (form : l.pathText = .ok x) {p : Int} (nonzero : p ≠ 0) :
    ∀ pick ∈ picks p, (∃ test, l.refine filters pick = .ok (ofPath (picked x test))) ∨
      (Numeral.fits (countOf p) = false ∧ l.refine filters pick = .error .longNumber) := by
  have one {n : Int} (other : n ≠ 0) (few : Numeral.fits (countOf n) = true) :
      ∃ test, l.pick (.int n) = .ok (ofPath (picked x test)) :=
    ⟨_, by rw [pick, positionTest_of_few other few, Outcome.bind_of_ok rfl, form]; rfl⟩
  have end_ (n : Int) (digit : countOf n < 10) : Numeral.fits (countOf n) = true :=
    Numeral.fits_of_digit digit
  simp only [picks, List.forall_mem_cons]
  refine ⟨?_, .inl (one (by decide) (end_ 1 (by decide))),
    .inl (one (by decide) (end_ (-1) (by decide))), List.forall_mem_nil _⟩
  cases fits : Numeral.fits (countOf p) with
  | true => exact .inl (one nonzero fits)
  | false =>
    refine .inr ⟨rfl, ?_⟩
    rw [refine, pick, positionTest_of_many nonzero fits]
    rfl

theorem refine_of_picked {axis : Axis} (known : axis ∈ axes) (form : receiver.pathText = .ok y)
    (x test : String) :
    receiver.refine filters (axis.step (.locator (ofPath (picked x test)))) =
      if Css.looksLikePath x.toList = true then .error (.badValue bracketMessage)
      else .ok (ofPath (y ++ (axis.front ++ axis.sign ++ picked x test ++ axis.closing))) := by
  have kept : bareOf (picked x test) = picked x test := by
    rw [bareOf, ← String.toList_inj, String.toList_ofList]
    simp [picked, stripLead]
  have isLocator : classified filters (.locator (ofPath (picked x test))) =
      .ok (ofPath (picked x test)) := classify_locator ..
  rw [refine_of_form known form isLocator (toPath_ofPath _), isBracketed_picked, kept]

theorem enters_of_picked {axis : Axis} (known : axis ∈ axes) (closed : Closed y.toList)
    (x test : String) :
    EntersBracket (y ++ (axis.front ++ axis.sign ++ picked x test ++ axis.closing)).toList := by
  obtain ⟨front, _, sign, _, shown⟩ := Axis.surroundings axis known
  have spelled : (y ++ (axis.front ++ axis.sign ++ picked x test ++ axis.closing)).toList =
      y.toList ++ (axis.front ++ axis.sign).toList ++
        '(' :: (x ++ ")[position()=" ++ test ++ "]" ++ axis.closing).toList := by
    simp [picked]
  have opening : Closed (axis.front ++ axis.sign).toList := by
    rw [String.toList_append]
    exact front.append sign
  have whole : bare (y.toList ++ (axis.front ++ axis.sign).toList) =
      bare y.toList ++ axis.front.toList ++ axis.sign.toList := by
    rw [bare_append closed, shown, List.append_assoc]
  rw [spelled]
  exact enters_of_sign (Axis.sign_mem axis known) (closed.append opening) whole _

end Guard

/-- The XPath form, if there is one, has no bracket behind an axis. -/
def IsFree (l : Locator) : Prop := ∀ path, l.pathText = .ok path → ¬EntersBracket path.toList

/-- The text goes on neither with a bracket nor with an axis that has no name. -/
def BeginsStep (cs : List Char) : Prop := ∀ c ∈ cs.head?, c ≠ '(' ∧ c ≠ ':'

end LocatorOf

namespace Refinement

open LocatorOf

/-- The locators given to the step bring no bracket behind an axis: there is none in them, and one
that goes behind an axis begins a step there or is refused. -/
structure Shelters (filters : List Filter) (step : Refinement) : Prop where
  clean : step.Clean filters
  free : ∀ v ∈ step.arguments, ∀ l, classified filters v = .ok l → l.IsFree
  begins : ∀ axis ∈ axes, ∀ v, step = axis.step v → ∀ l, classified filters v = .ok l →
    ∀ path, l.pathText = .ok path →
      isBracketed path.toList = true ∨ BeginsStep (stripLead path.toList)

end Refinement

namespace LocatorOf

variable {filters : List Filter} {l : Locator} {step : Refinement} {path : String}

section Chain

theorem isFree_ofPath (free : ¬EntersBracket path.toList) : IsFree (ofPath path) := by
  intro form same
  rw [pathText_ofPath] at same
  cases same
  exact free

theorem free_stripLead {cs : List Char} (free : ¬EntersBracket cs) :
    ¬EntersBracket (stripLead cs) := by
  rintro ⟨sign, known, inside⟩
  have lead := neutral_lead cs
  have spelled : cs.takeWhile (fun c => c == '.' || c == '/') ++ stripLead cs = cs :=
    List.takeWhile_append_dropWhile
  have whole := bare_append (Balanced.of_neutral lead).closed (stripLead cs)
  rw [spelled] at whole
  exact free ⟨sign, known, whole ▸ inside.trans (List.suffix_append _ _).isInfix⟩

theorem continues_axis {axis : Axis} (known : axis ∈ axes) {v : Value}
    (shelters : (axis.step v).Shelters filters) {suffix : Suffix} {s : String}
    (narrows : (axis.step v).suffix? filters = some suffix) (accepted : suffix.text = .ok s) :
    Continues s.toList := by
  obtain ⟨front, first, sign, closing, _⟩ := Axis.surroundings axis known
  rw [axis.suffix?_step known] at narrows
  cases narrows
  obtain ⟨sub, found, rfl⟩ := Outcome.map_eq_ok accepted
  obtain ⟨l, path, isLocator, form, accepted, stripped⟩ := subSelector_cases found
  have mem := axis.mem_arguments known v
  have begins : BeginsStep sub.toList := by
    rw [stripped]
    refine (shelters.begins axis known v rfl l isLocator path form).resolve_left ?_
    simp [accepted]
  have free : ¬EntersBracket sub.toList := by
    rw [stripped]
    exact free_stripLead (shelters.free v mem l isLocator path form)
  have lead := head?_stripLead path.toList
  rw [← stripped] at lead
  have signed : Continues (axis.sign.toList ++ sub.toList) :=
    continues_signed (Axis.sign_mem axis known)
      (fun c head => ⟨(begins c head).1, (lead c head).2, (begins c head).2⟩) free
  have balanced := balanced_subSelector (shelters.clean.arguments v mem) found
  have inner := sign.append balanced.closed
  simp only [String.toList_append, List.append_assoc]
  rw [← List.append_assoc axis.sign.toList]
  exact first.append front (signed.append inner closing)

def joints : List String := [" and ", "[", "]", ")]", "last()-", ")[position()="]

theorem continues_joints : ∀ joint ∈ joints, Closed joint.toList ∧ Continues joint.toList := by
  decide +kernel

def valueFronts : List String := [" = ", "[contains(., "]

theorem level_valueFronts : ∀ front ∈ valueFronts, Closed front.toList ∧ Level front.toList ∧
    2 ≤ (bare front.toList).length ∧ '(' ∉ (bare front.toList).take 2 := by
  decide +kernel

theorem continues_value {front : String} (known : front ∈ valueFronts) {v : Value}
    {literal : String} (quoted : quoteValue v = .ok literal) :
    Continues (front.toList ++ literal.toList) := by
  obtain ⟨closed, level, two, start⟩ := level_valueFronts front known
  exact continues_of_level closed level two start (level_quoteValue quoted)

theorem continues_attributeTests {entries : List (Value × Value)} {tests : List String}
    (neutral : ∀ name ∈ entries.map Prod.fst, ∀ shown, name.display = .ok shown →
      Neutral shown.toList)
    (written : attributeTests entries = .ok tests) : ∀ test ∈ tests, Continues test.toList := by
  induction entries generalizing tests with
  | nil =>
    cases written
    exact fun _ mem => nomatch mem
  | cons entry rest ih =>
    obtain ⟨name, value⟩ := entry
    obtain ⟨shown, isName, written⟩ := Outcome.bind_eq_ok written
    obtain ⟨literal, isLiteral, written⟩ := Outcome.bind_eq_ok written
    obtain ⟨others, areOthers, written⟩ := Outcome.bind_eq_ok written
    cases written
    refine List.forall_mem_cons.mpr
      ⟨?_, ih (fun n mem => neutral n (List.mem_cons_of_mem _ mem)) areOthers⟩
    have plain : Neutral ("@" ++ shown).toList := by
      rw [String.toList_append, neutral_append]
      exact ⟨by decide, neutral name List.mem_cons_self shown isName⟩
    have sides : Continues (" = ".toList ++ literal.toList) :=
      continues_value List.mem_cons_self isLiteral
    have spelled : ("@" ++ shown ++ " = " ++ literal).toList =
        ("@" ++ shown).toList ++ (" = ".toList ++ literal.toList) := by simp
    rw [spelled]
    exact (continues_of_neutral plain).append (Balanced.of_neutral plain).closed sides

theorem continues_suffix (shelters : step.Shelters filters) {suffix : Suffix} {s : String}
    (narrows : step.suffix? filters = some suffix) (accepted : suffix.text = .ok s) :
    Continues s.toList := by
  have known (i : Nat) (small : i < axes.length) : axes[i] ∈ axes := List.getElem_mem small
  cases step with
  | find _ => exact continues_axis (known 0 (by decide)) shelters narrows accepted
  | withChild _ => exact continues_axis (known 1 (by decide)) shelters narrows accepted
  | withDescendant _ => exact continues_axis (known 2 (by decide)) shelters narrows accepted
  | inside _ => exact continues_axis (known 3 (by decide)) shelters narrows accepted
  | after _ => exact continues_axis (known 4 (by decide)) shelters narrows accepted
  | before _ => exact continues_axis (known 5 (by decide)) shelters narrows accepted
  | withText text =>
    cases narrows
    obtain ⟨expression, quoted, rfl⟩ := Outcome.map_eq_ok accepted
    have known : "[contains(., " ∈ valueFronts := by decide
    have opening := (level_valueFronts _ known).1
    have closing := continues_joints ")]" (by decide)
    rw [String.toList_append, String.toList_append]
    exact (continues_value known quoted).append
      (opening.append (balanced_quoteValue quoted).closed) closing.2
  | withAttributes attributes =>
    cases attributes with
    | dict entries =>
      obtain ⟨content, isContent, rfl⟩ := Outcome.map_eq_ok accepted
      have balanced := balanced_content shelters.clean narrows isContent
      cases narrows
      obtain ⟨tests, written, rfl⟩ := Outcome.map_eq_ok isContent
      have each : ∀ part ∈ tests.map String.toList, Closed part ∧ Continues part := by
        refine List.forall_mem_map.mpr fun test mem => ?_
        exact ⟨(balanced_attributeTests shelters.clean.names written test mem).closed,
          continues_attributeTests shelters.clean.names written test mem⟩
      have between := continues_joints " and " (by decide)
      have row := Continues.intercalate between.1 between.2 each
      have opening := continues_joints "[" (by decide)
      have closing := continues_joints "]" (by decide)
      rw [← String.toList_intercalate] at row
      rw [String.toList_append, String.toList_append]
      exact (opening.2.append opening.1 row).append (opening.1.append balanced.closed) closing.2
    | _ =>
      cases narrows
      cases accepted
  | _ => cases narrows

theorem continues_positionTest {n : Value} {test : String} (accepted : positionTest n = .ok test) :
    Continues test.toList := by
  rcases positionTest_cases accepted with neutral | ⟨distance, neutral, rfl⟩
  · exact continues_of_neutral neutral
  · have call := continues_joints "last()-" (by decide)
    rw [fromEnd, String.toList_append]
    exact call.2.append call.1 (continues_of_neutral neutral)

theorem free_picked {test : String} (closed : Closed path.toList)
    (free : ¬EntersBracket path.toList) (choice : Closed test.toList ∧ Continues test.toList) :
    ¬EntersBracket (picked path test).toList := by
  have spelled : (picked path test).toList =
      '(' :: (path.toList ++ (")[position()=".toList ++ test.toList ++ "]".toList)) := by
    simp [picked]
  have opening := continues_joints ")[position()=" (by decide)
  have closing := continues_joints "]" (by decide)
  have behind := (opening.2.append opening.1 choice.2).append (opening.1.append choice.1) closing.2
  rw [spelled]
  exact free_cons rfl (by decide) (free_append closed free behind)

theorem free_union {second : String} (closed : Closed path.toList)
    (free : ¬EntersBracket path.toList) (other : ¬EntersBracket second.toList) :
    ¬EntersBracket (union [path, second]).toList := by
  have spelled : (union [path, second]).toList =
      path.toList ++ ' ' :: '|' :: ' ' :: second.toList := by
    simp [union]
  have free' : ¬EntersBracket (' ' :: '|' :: ' ' :: second.toList) :=
    free_cons rfl (by decide) (free_cons rfl (by decide) (free_cons rfl (by decide) other))
  have start : '(' ∉ (bare (' ' :: '|' :: ' ' :: second.toList)).take 2 := by
    rw [bare_cons rfl, bare_cons rfl]
    simp
  rw [spelled]
  exact free_append closed free ⟨start, free'⟩

theorem free_of_writes {written : String} (writes : Writes filters step path written)
    (shelters : step.Shelters filters) (closed : Closed path.toList)
    (free : ¬EntersBracket path.toList) : ¬EntersBracket written.toList := by
  cases writes with
  | behind narrows accepted =>
    rw [String.toList_append]
    exact free_append closed free (continues_suffix shelters narrows accepted)
  | beside isAlt isSecond =>
    exact free_union closed free (shelters.free _ (List.mem_singleton_self _) _ isAlt _ isSecond)
  | around _ accepted =>
    exact free_picked closed free
      ⟨(balanced_positionTest accepted).closed, continues_positionTest accepted⟩

theorem free_advance (nests : Nests l) (free : l.IsFree) (shelters : step.Shelters filters) :
    (advance filters l step).IsFree := by
  unfold advance
  split
  · rename_i next done
    rcases refine_cases done with ⟨output, rfl⟩ | ⟨path, written, form, rfl, writes⟩
    · exact fun path form => free path (pathText_of_named form)
    · exact isFree_ofPath (free_of_writes writes shelters (nests path form).closed (free path form))
  · exact free

theorem free_chain {steps : List Refinement} (nests : Nests l) (free : l.IsFree)
    (shelters : ∀ step ∈ steps, step.Shelters filters) : (chain filters l steps).IsFree := by
  induction steps generalizing l with
  | nil => exact free
  | cons step rest ih =>
    have first := shelters step List.mem_cons_self
    exact ih (nests_advance nests first.clean) (free_advance nests free first)
      fun later mem => shelters later (List.mem_cons_of_mem step mem)

end Chain

/-- A picked element is refused behind an axis just when the query it is picked from begins like a
path; any other goes there with its bracket.  A chain has no bracket behind an axis as long as its
start has none and its sub-locators bring none along. -/
theorem nested_pick_refused_iff (filters : List Filter) :
    (∀ (l receiver : Locator) (x y : String) (p : Int),
      l.pathText = .ok x → receiver.pathText = .ok y → p ≠ 0 →
      ∀ pick ∈ picks p,
        (∀ fault, l.refine filters pick = .error fault →
          fault = .longNumber ∧ Numeral.fits (countOf p) = false) ∧
        ∀ one, l.refine filters pick = .ok one → ∀ axis ∈ axes,
          (receiver.refine filters (axis.step (.locator one)) =
              .error (.badValue bracketMessage) ↔ Css.looksLikePath x.toList = true) ∧
          (Css.looksLikePath x.toList = false →
            ∃ path, receiver.refine filters (axis.step (.locator one)) = .ok (ofPath path) ∧
              (Closed y.toList → EntersBracket path.toList))) ∧
    ∀ (start : Locator) (steps : List Refinement), Nests start → start.IsFree →
      (∀ step ∈ steps, step.Shelters filters) →
      ∀ front, front <+: steps → (chain filters start front).IsFree := by
  constructor
  · intro l receiver x y p form form' nonzero pick known
    rcases refine_of_pick form nonzero pick known with ⟨test, accepted⟩ | ⟨many, refused⟩
    · rw [accepted]
      refine ⟨nofun, fun one same axis isAxis => ?_⟩
      cases same
      rw [refine_of_picked isAxis form']
      cases begins : Css.looksLikePath x.toList with
      | true => simp
      | false =>
        refine ⟨by simp, fun _ => ⟨_, rfl, fun closed => ?_⟩⟩
        exact enters_of_picked isAxis closed x test
    · rw [refused]
      refine ⟨fun fault same => ⟨(Except.error.inj same).symm, many⟩, nofun⟩
  · intro start steps nests free shelters front before
    exact free_chain nests free fun step mem => shelters step (before.subset mem)

/-- A sub-locator that is refused, and a text that would enter a bracket if it were no literal. -/
def bracketSteps : List Refinement :=
  [.before (.locator (ofPath "(.//a)[position()=1]")), .withText (.text "//(")]

theorem shelters_bracketSteps : ∀ step ∈ bracketSteps, step.Shelters [] := by
  have nests : Nests (ofPath "(.//a)[position()=1]") :=
    nests_ofPath (by rw [XPath.Balanced]; decide)
  have free : IsFree (ofPath "(.//a)[position()=1]") := isFree_ofPath (by decide +kernel)
  have given {q : Locator → Prop} (holds : q (ofPath "(.//a)[position()=1]")) :
      ∀ v ∈ [Value.locator (ofPath "(.//a)[position()=1]")],
        ∀ l, classified [] v = .ok l → q l := by
    intro v mem l found
    rw [List.mem_singleton.mp mem, classified, classify_locator] at found
    cases found
    exact holds
  have bracketed : ∀ path, (ofPath "(.//a)[position()=1]").pathText = .ok path →
      isBracketed path.toList = true ∨ BeginsStep (stripLead path.toList) := by
    intro path form
    rw [pathText_ofPath] at form
    cases form
    exact .inl rfl
  have nothing {p : Value → Prop} : ∀ v ∈ [], p v := List.forall_mem_nil p
  simp only [bracketSteps, List.forall_mem_cons]
  refine ⟨⟨⟨given nests, nothing⟩, given free, ?_⟩, ⟨⟨nothing, nothing⟩, nothing, ?_⟩,
    List.forall_mem_nil _⟩
  · intro axis known v same
    refine given (q := fun l => ∀ path, l.pathText = .ok path → _) bracketed v ?_
    have mem := axis.mem_arguments known v
    rwa [← same] at mem
  · intro axis known v same
    have mem := axis.mem_arguments known v
    rw [← same] at mem
    cases mem

def secondLast : Locator := ofPath "(.//a | .//button)[position()=last()-1]"

theorem nested_pick_refused_linkOrButton :
    linkOrButton.pathText = .ok ".//a | .//button" ∧
      linkOrButton.refine [] (.position (.int (-2))) = .ok secondLast ∧
      linkOrButton.refine [] (.after (.locator secondLast)) =
        .error (.badValue bracketMessage) ∧
      Nests linkOrButton ∧ linkOrButton.IsFree ∧ (chain [] linkOrButton bracketSteps).IsFree := by
  have form : linkOrButton.pathText = .ok ".//a | .//button" := rfl
  have free : linkOrButton.IsFree := isFree_ofPath (by decide +kernel)
  have rules := nested_pick_refused_iff []
  obtain ⟨_, nested⟩ :=
    rules.1 _ _ _ _ (-2) form form (by decide) (.position (.int (-2))) List.mem_cons_self
  have isAxis : axes[4] ∈ axes := List.getElem_mem (by decide)
  exact ⟨form, rfl, (nested secondLast rfl _ isAxis).1.mpr rfl, nests_linkOrButton,
    free, rules.2 _ _ nests_linkOrButton free shelters_bracketSteps _ List.prefix_rfl⟩

/-- The first element of an absolute path is let through, since the path begins with one slash. -/
theorem absolute_path_entered :
    (ofPath "/html/body").refine [] .first = .ok (ofPath "(/html/body)[position()=1]") ∧
      (ofPath ".//a").refine [] (.find (.locator (ofPath "(/html/body)[position()=1]"))) =
        .ok (ofPath ".//a//(/html/body)[position()=1]") ∧
      EntersBracket ".//a//(/html/body)[position()=1]".toList := by
  refine ⟨rfl, rfl, ?_⟩
  have isAxis : axes[0] ∈ axes := List.mem_cons_self
  have closed : Closed ".//a".toList := by decide
  exact enters_of_picked isAxis closed "/html/body" "1"

end LocatorOf

end ElementSearch
