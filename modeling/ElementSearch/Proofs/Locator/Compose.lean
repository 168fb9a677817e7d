import ElementSearch.Proofs.Css.Refusal
import ElementSearch.Proofs.Locator.Nested
import ElementSearch.Proofs.Locator.PathForm
import ElementSearch.Proofs.Value.Named

/-! Going on from one sub-locator to the next.
It makes no difference whether a chain goes to one sub-locator and from there to another, or to a
sub-locator that itself goes on to the other.  What is not possible one way is not possible the
other way, though the complaints may differ. -/

namespace ElementSearch

/-- The failure is about a value that cannot be used. -/
def Fault.IsBadValue (fault : Fault) : Prop := ∃ message, fault = .badValue message

namespace LocatorOf

variable {filters : List Filter} {a b l : Locator} {c v form : Value} {s x y z : String}
  {fault : Fault}

def findTwice (filters : List Filter) (a b : Locator) (c : Value) : Outcome Locator := do
  let ab ← a.refine filters (.find (.locator b))
  ab.refine filters (.find c)

def findNested (filters : List Filter) (a b : Locator) (c : Value) : Outcome Locator := do
  let bc ← b.refine filters (.find c)
  a.refine filters (.find (.locator bc))

def IsWorded (l : Locator) : Prop := l.kind = .css ∨ l.kind = .xpath → ∃ s, l.value = .text s

/-- The path has more than opening brackets, dots and slashes. -/
def HasBody (path : String) : Prop := ∃ c ∈ path.toList, c ≠ '(' ∧ c ≠ '.' ∧ c ≠ '/'

/-- All three have an XPath form, and those that go behind an axis are not bracketed. -/
structure Composes (filters : List Filter) (a b : Locator) (c : Value) : Prop where
  outer : ∃ x, a.pathText = .ok x
  inner : ∃ y, b.pathText = .ok y ∧ isBracketed y.toList = false
  innermost : ∃ l z, classified filters c = .ok l ∧ l.pathText = .ok z ∧
    isBracketed z.toList = false

def IsFormless (l : Locator) : Prop := ∀ x, l.pathText ≠ .ok x

/-- A missing XPath form can be complained about: the complaint can name the locator and its value,
and the selector has no attribute test without a name. -/
structure CanComplain (l : Locator) : Prop where
  named : (Value.locator l).Named
  valueNamed : l.kind = .id ∨ l.kind = .name → l.value.Named
  testsNamed : ∀ s, l.simplify = .ok (.text s) →
    Css.toPath .generic s ≠ .error .namelessGeneric

section Forms

theorem text_of_toPath (worded : l.IsWorded) (isForm : l.toPath = .ok form) :
    ∃ s, form = .text s := by
  unfold toPath at isForm
  split at isForm
  · rename_i isPath
    obtain ⟨s, given⟩ := worded (.inr isPath)
    cases isForm
    exact ⟨s, given⟩
  split at isForm
  · obtain ⟨_, _, translated⟩ := Outcome.bind_eq_ok isForm
    obtain ⟨_, path, _, _, same⟩ := pathOfSelector_eq_ok.mp translated
    exact ⟨path, same⟩
  · exact absurd isForm noPath_ne_ok

theorem toPath_of_pathText (worded : l.IsWorded) (form : l.pathText = .ok x) :
    l.toPath = .ok (.text x) := by
  obtain ⟨value, isForm, shown⟩ := Outcome.bind_eq_ok form
  obtain ⟨s, rfl⟩ := text_of_toPath worded isForm
  cases shown
  exact isForm

theorem toPath_error_of_pathText (worded : l.IsWorded) (failed : l.pathText = .error fault) :
    l.toPath = .error fault := by
  rcases Outcome.bind_eq_error failed with refused | ⟨value, isForm, unnamed⟩
  · exact refused
  · obtain ⟨s, rfl⟩ := text_of_toPath worded isForm
    cases unnamed

theorem subSelector_eq (worded : l.IsWorded) (isLocator : classified filters v = .ok l) :
    subSelector filters v = l.pathText >>= subPath := by
  cases form : l.pathText with
  | ok path =>
    exact subSelector_of_form isLocator (toPath_of_pathText worded form)
  | error fault =>
    rw [subSelector, isLocator, Outcome.bind_of_ok rfl, toPath_error_of_pathText worded form]
    rfl

end Forms

section Complaints

theorem badValue_of_noPath {α : Type} (named : (Value.locator l).Named) {reason : String}
    (failed : (l.noPath reason : Outcome α) = .error fault) : fault.IsBadValue := by
  obtain ⟨shown, isShown⟩ := named
  rw [noPath, isShown] at failed
  cases failed
  exact ⟨_, rfl⟩

theorem badValue_of_pathOfSelector (can : l.CanComplain) (isSelector : l.simplify = .ok (.text s))
    (failed : l.pathOfSelector (.text s) = .error fault) : fault.IsBadValue := by
  cases translated : Css.toPath .generic s with
  | ok path =>
    simp only [pathOfSelector, translated] at failed
    cases failed
  | error refusal =>
    have excused := Css.excused_toPath s refusal translated
    simp only [pathOfSelector, translated] at failed
    cases refusal with
    | unsupported message => exact badValue_of_noPath can.named failed
    | longNumber =>
      cases failed
      exact ⟨_, rfl⟩
    | namelessGeneric => exact absurd translated (can.testsNamed s isSelector)
    | noLanguage | namelessHtml => exact excused.elim

theorem simplify_cases (worded : l.IsWorded) (can : l.CanComplain)
    (isSelector : hasSelectorForm l.kind = true) : ∃ s, l.simplify = .ok (.text s) := by
  have kinds : l.kind = .css ∨ l.kind = .id ∨ l.kind = .name := by
    simpa [hasSelectorForm, or_assoc] using isSelector
  rcases kinds with css | id | name
  · obtain ⟨s, given⟩ := worded (.inl css)
    exact ⟨s, by rw [simplify_of_css css, given]⟩
  · obtain ⟨shown, isShown⟩ := can.valueNamed (.inl id)
    simp only [simplify, id, isShown]
    exact ⟨_, rfl⟩
  · obtain ⟨shown, isShown⟩ := can.valueNamed (.inr name)
    simp only [simplify, name, isShown]
    exact ⟨_, rfl⟩

theorem badValue_of_pathText (worded : l.IsWorded) (complains : l.IsFormless → l.CanComplain)
    (failed : l.pathText = .error fault) : fault.IsBadValue := by
  have can : l.CanComplain := complains fun x form => by cases form.symm.trans failed
  have refused := toPath_error_of_pathText worded failed
  unfold toPath at refused
  split at refused
  · cases refused
  split at refused
  · rename_i isSelector
    obtain ⟨s, selector⟩ := simplify_cases worded can isSelector
    rw [Outcome.bind_of_ok selector] at refused
    exact badValue_of_pathOfSelector can selector refused
  · exact badValue_of_noPath can.named refused

theorem badValue_of_subPath (failed : subPath y = .error fault) : fault.IsBadValue := by
  rw [subPath] at failed
  split at failed
  · cases failed
    exact ⟨_, rfl⟩
  · cases failed

end Complaints

section Guard

theorem looksLikePath_append {cs : List Char} (body : ∃ c ∈ cs, c ≠ '(' ∧ c ≠ '.' ∧ c ≠ '/')
    (tail : List Char) : Css.looksLikePath (cs ++ tail) = Css.looksLikePath cs := by
  obtain ⟨c, mem, notBracket, notDot, notSlash⟩ := body
  have kept : c ∈ cs.dropWhile (· == '(') := by
    rw [← List.takeWhile_append_dropWhile (p := (· == '(')) (l := cs)] at mem
    rcases List.mem_append.mp mem with before | behind
    · exact absurd (by simpa using List.mem_takeWhile_imp before) notBracket
    · exact behind
  rw [Css.looksLikePath, Css.looksLikePath, List.dropWhile_append]
  revert kept
  rcases cs.dropWhile (· == '(') with _ | ⟨d, _ | ⟨e, rest⟩⟩ <;> intro kept
  · cases kept
  · -- a single character is neither a dot nor a slash
    obtain rfl := List.mem_singleton.mp kept
    simp [notDot, notSlash]
  · simp only [List.isEmpty_cons, Bool.false_eq_true, if_false, List.cons_append]
    split <;> simp_all

theorem isBracketed_append (body : HasBody y) (tail : List Char) :
    isBracketed (y.toList ++ tail) = isBracketed y.toList := by
  obtain ⟨c, mem, other⟩ := body
  obtain ⟨d, rest, spelled⟩ := List.exists_cons_of_ne_nil (List.ne_nil_of_mem mem)
  rw [isBracketed, isBracketed, looksLikePath_append ⟨c, mem, other⟩, spelled]
  rfl

theorem stripLead_append (body : HasBody y) (tail : List Char) :
    stripLead (y.toList ++ tail) = stripLead y.toList ++ tail := by
  obtain ⟨c, mem, _, notDot, notSlash⟩ := body
  have left : (y.toList.dropWhile fun c => c == '.' || c == '/') ≠ [] := by
    intro nothing
    have lead := List.dropWhile_eq_nil_iff.mp nothing c mem
    simp [notDot, notSlash] at lead
  rw [stripLead, stripLead, List.dropWhile_append, if_neg (by simpa using left)]

theorem subPath_append (body : HasBody y) (tail : String) :
    subPath (y ++ tail) = (subPath y).map (· ++ tail) := by
  rw [subPath, subPath, String.toList_append, isBracketed_append body, stripLead_append body]
  split
  · rfl
  · simp [Except.map, String.ofList_append]

end Guard

section Orders

theorem refine_find (form : l.pathText = .ok x) (filters : List Filter) (v : Value) :
    l.refine filters (.find v) =
      (subSelector filters v).map fun sub => ofPath (x ++ "//" ++ sub) := by
  simp only [refine, extend_eq form, String.append_empty]

theorem refine_find_error (failed : l.pathText = .error fault) (filters : List Filter) (v : Value) :
    l.refine filters (.find v) = .error fault := by
  rw [refine, extend, failed]
  rfl

theorem findTwice_eq (filters : List Filter) (a : Locator) (wordedB : b.IsWorded) (c : Value) :
    findTwice filters a b c = (do
      let x ← a.pathText
      let sub ← b.pathText >>= subPath
      let z ← subSelector filters c
      return ofPath (x ++ "//" ++ sub ++ "//" ++ z)) := by
  have isLocator : classified filters (.locator b) = .ok b := classify_locator ..
  rw [findTwice]
  cases outer : a.pathText with
  | error fault =>
    rw [refine_find_error outer]
    rfl
  | ok x =>
    rw [refine_find outer, subSelector_eq wordedB isLocator]
    cases b.pathText >>= subPath with
    | error fault => rfl
    | ok sub =>
      refine (refine_find (pathText_ofPath _) filters c).trans ?_
      cases subSelector filters c <;> rfl

theorem findNested_eq (filters : List Filter) (a : Locator) (c : Value)
    (body : ∀ y, b.pathText = .ok y → HasBody y) :
    findNested filters a b c = (do
      let y ← b.pathText
      let z ← subSelector filters c
      let x ← a.pathText
      let sub ← subPath y
      return ofPath (x ++ "//" ++ sub ++ "//" ++ z)) := by
  rw [findNested]
  cases inner : b.pathText with
  | error fault =>
    rw [refine_find_error inner]
    rfl
  | ok y =>
    rw [refine_find inner, Outcome.bind_of_ok rfl]
    cases subSelector filters c with
    | error fault => rfl
    | ok z =>
      have isLocator : classified filters (.locator (ofPath (y ++ "//" ++ z))) =
          .ok (ofPath (y ++ "//" ++ z)) := classify_locator ..
      have stripped : subSelector filters (.locator (ofPath (y ++ "//" ++ z))) =
          (subPath y).map (· ++ ("//" ++ z)) := by
        rw [subSelector_of_form isLocator (toPath_ofPath _), String.append_assoc,
          subPath_append (body y inner)]
      cases outer : a.pathText with
      | error fault => exact refine_find_error outer ..
      | ok x =>
        refine (refine_find outer filters _).trans ?_
        rw [stripped, Outcome.bind_of_ok rfl, Outcome.bind_of_ok rfl]
        cases subPath y with
        | error fault => rfl
        | ok sub => simp [Except.map, pure, Except.pure, bind, Except.bind, String.append_assoc]

end Orders

section Composition

/-- The value can be complained about, whether it is no locator or one without an XPath form. -/
structure CanComplainOf (filters : List Filter) (c : Value) : Prop where
  refused : ∀ fault, classified filters c = .error fault → fault.IsBadValue
  formless : ∀ l, classified filters c = .ok l → l.IsFormless → l.CanComplain

structure HasParts (filters : List Filter) (a b : Locator) (c : Value) (x sub z : String) :
    Prop where
  outer : a.pathText = .ok x
  inner : b.pathText >>= subPath = .ok sub
  innermost : subSelector filters c = .ok z

/-- One of the three parts fails with the fault. -/
def LacksPart (filters : List Filter) (a b : Locator) (c : Value) (fault : Fault) : Prop :=
  a.pathText = .error fault ∨ b.pathText >>= subPath = .error fault ∨
    subSelector filters c = .error fault

theorem exists_subPath_iff : (∃ sub, subPath y = .ok sub) ↔ isBracketed y.toList = false := by
  rw [subPath]
  split <;> simp_all

theorem composes_iff (wordedC : ∀ l, classified filters c = .ok l → l.IsWorded) :
    Composes filters a b c ↔ ∃ x sub z, HasParts filters a b c x sub z := by
  constructor
  · rintro ⟨⟨x, outer⟩, ⟨y, form, accepted⟩, l, z, isLocator, form', accepted'⟩
    obtain ⟨sub, stripped⟩ := exists_subPath_iff.mpr accepted
    obtain ⟨sub', stripped'⟩ := exists_subPath_iff.mpr accepted'
    refine ⟨x, sub, sub', outer, ?_, ?_⟩
    · rw [form, Outcome.bind_of_ok rfl, stripped]
    · rw [subSelector_eq (wordedC l isLocator) isLocator, form', Outcome.bind_of_ok rfl, stripped']
  · rintro ⟨x, sub, z, outer, inner, innermost⟩
    obtain ⟨y, form, stripped⟩ := Outcome.bind_eq_ok inner
    obtain ⟨l, isLocator, _⟩ := Outcome.bind_eq_ok innermost
    rw [subSelector_eq (wordedC l isLocator) isLocator] at innermost
    obtain ⟨z', form', stripped'⟩ := Outcome.bind_eq_ok innermost
    exact ⟨⟨x, outer⟩, ⟨y, form, exists_subPath_iff.mp ⟨sub, stripped⟩⟩, l, z', isLocator, form',
      exists_subPath_iff.mp ⟨z, stripped'⟩⟩

theorem findTwice_cases (filters : List Filter) (a : Locator) (wordedB : b.IsWorded) (c : Value) :
    (∃ x sub z, HasParts filters a b c x sub z ∧
      findTwice filters a b c = .ok (ofPath (x ++ "//" ++ sub ++ "//" ++ z))) ∨
    ∃ fault, LacksPart filters a b c fault ∧ findTwice filters a b c = .error fault := by
  rw [findTwice_eq filters a wordedB c]
  cases outer : a.pathText with
  | error fault => exact .inr ⟨fault, .inl outer, rfl⟩
  | ok x =>
    cases inner : b.pathText >>= subPath with
    | error fault => exact .inr ⟨fault, .inr (.inl inner), rfl⟩
    | ok sub =>
      cases innermost : subSelector filters c with
      | error fault => exact .inr ⟨fault, .inr (.inr innermost), rfl⟩
      | ok z => exact .inl ⟨x, sub, z, ⟨outer, inner, innermost⟩, rfl⟩

theorem findNested_cases (filters : List Filter) (a : Locator) (c : Value)
    (body : ∀ y, b.pathText = .ok y → HasBody y) :
    (∃ x sub z, HasParts filters a b c x sub z ∧
      findNested filters a b c = .ok (ofPath (x ++ "//" ++ sub ++ "//" ++ z))) ∨
    ∃ fault, LacksPart filters a b c fault ∧ findNested filters a b c = .error fault := by
  rw [findNested_eq filters a c body]
  cases form : b.pathText with
  | error fault => exact .inr ⟨fault, .inr (.inl (Outcome.bind_of_error form _)), rfl⟩
  | ok y =>
    have inner := Outcome.bind_of_ok form subPath
    rw [Outcome.bind_of_ok rfl]
    cases innermost : subSelector filters c with
    | error fault => exact .inr ⟨fault, .inr (.inr innermost), rfl⟩
    | ok z =>
      cases outer : a.pathText with
      | error fault => exact .inr ⟨fault, .inl outer, rfl⟩
      | ok x =>
        rw [Outcome.bind_of_ok rfl, Outcome.bind_of_ok rfl]
        cases stripped : subPath y with
        | error fault => exact .inr ⟨fault, .inr (.inl (inner.trans stripped)), rfl⟩
        | ok sub => exact .inl ⟨x, sub, z, ⟨outer, inner.trans stripped, innermost⟩, rfl⟩

theorem HasParts.unique {sub x' sub' z' : String}
    (parts : HasParts filters a b c x sub z) (parts' : HasParts filters a b c x' sub' z') :
    x = x' ∧ sub = sub' ∧ z = z' :=
  ⟨Except.ok.inj (parts.outer.symm.trans parts'.outer),
    Except.ok.inj (parts.inner.symm.trans parts'.inner),
    Except.ok.inj (parts.innermost.symm.trans parts'.innermost)⟩

theorem LacksPart.not_hasParts {sub : String} (lacks : LacksPart filters a b c fault) :
    ¬HasParts filters a b c x sub z := by
  rintro ⟨outer, inner, innermost⟩
  rcases lacks with failed | failed | failed
  · cases outer.symm.trans failed
  · cases inner.symm.trans failed
  · cases innermost.symm.trans failed

theorem LacksPart.badValue (wordedA : a.IsWorded) (wordedB : b.IsWorded)
    (wordedC : ∀ l, classified filters c = .ok l → l.IsWorded)
    (lacks : LacksPart filters a b c fault) (canA : a.IsFormless → a.CanComplain)
    (canB : b.IsFormless → b.CanComplain) (canC : CanComplainOf filters c) :
    fault.IsBadValue := by
  rcases lacks with failed | failed | failed
  · exact badValue_of_pathText wordedA canA failed
  · rcases Outcome.bind_eq_error failed with formless | ⟨_, _, bracketed⟩
    · exact badValue_of_pathText wordedB canB formless
    · exact badValue_of_subPath bracketed
  · rcases Outcome.bind_eq_error failed with refused | ⟨l, isLocator, _⟩
    · exact canC.refused _ refused
    rw [subSelector_eq (wordedC l isLocator) isLocator] at failed
    rcases Outcome.bind_eq_error failed with formless | ⟨_, _, bracketed⟩
    · exact badValue_of_pathText (wordedC l isLocator) (canC.formless l isLocator) formless
    · exact badValue_of_subPath bracketed

end Composition

/-- To go to a sub-locator and on to another is to go to the sub-locator that has gone on: one query
comes out both ways, or both ways are refused.  They are refused when a form is missing or a bracket
would get behind an axis, and the complaints are about values if they can be made. -/
theorem find_assoc (filters : List Filter) {a b : Locator} {c : Value} (wordedA : a.IsWorded)
    (wordedB : b.IsWorded) (wordedC : ∀ l, classified filters c = .ok l → l.IsWorded)
    (body : ∀ y, b.pathText = .ok y → HasBody y) :
    (Composes filters a b c ∧ ∃ path, findTwice filters a b c = .ok (ofPath path) ∧
        findNested filters a b c = .ok (ofPath path)) ∨
      (¬Composes filters a b c ∧ ∃ fault fault', findTwice filters a b c = .error fault ∧
        findNested filters a b c = .error fault' ∧
        ((a.IsFormless → a.CanComplain) → (b.IsFormless → b.CanComplain) →
          CanComplainOf filters c → fault.IsBadValue ∧ fault'.IsBadValue)) := by
  rw [composes_iff wordedC]
  rcases findTwice_cases filters a wordedB c with ⟨x, sub, z, parts, twice⟩ | ⟨fault, lacks, twice⟩
  · rcases findNested_cases filters a c body with ⟨x', sub', z', parts', nested⟩ | ⟨_, lacks', _⟩
    · obtain ⟨rfl, rfl, rfl⟩ := parts.unique parts'
      exact .inl ⟨⟨x, sub, z, parts⟩, _, twice, nested⟩
    · exact absurd parts lacks'.not_hasParts
  · rcases findNested_cases filters a c body with ⟨_, _, _, parts', _⟩ | ⟨fault', lacks', nested⟩
    · exact absurd parts' lacks.not_hasParts
    · refine .inr ⟨fun ⟨_, _, _, parts⟩ => lacks.not_hasParts parts, fault, fault', twice, nested,
        fun canA canB canC => ?_⟩
      exact ⟨lacks.badValue wordedA wordedB wordedC canA canB canC,
        lacks'.badValue wordedA wordedB wordedC canA canB canC⟩

theorem isWorded_ofPath (path : String) : (ofPath path).IsWorded := fun _ => ⟨path, rfl⟩

theorem worded_pathObject (path : String) :
    ∀ l, classified [] (pathObject path) = .ok l → l.IsWorded := by
  intro l isLocator
  rw [classified_pathObject] at isLocator
  cases isLocator
  exact isWorded_ofPath path

theorem hasBody_item : ∀ y, (ofPath ".//li").pathText = .ok y → HasBody y := by
  intro y form
  rw [pathText_ofPath] at form
  cases form
  exact ⟨'l', by decide, by decide⟩

theorem find_assoc_listItem :
    (ofPath ".//ul").IsWorded ∧ (ofPath ".//li").IsWorded ∧
      (∀ l, classified [] (pathObject "./a") = .ok l → l.IsWorded) ∧
      (∀ y, (ofPath ".//li").pathText = .ok y → HasBody y) ∧
      findTwice [] (ofPath ".//ul") (ofPath ".//li") (pathObject "./a") =
        .ok (ofPath ".//ul//li//a") ∧
      findNested [] (ofPath ".//ul") (ofPath ".//li") (pathObject "./a") =
        .ok (ofPath ".//ul//li//a") := by
  have list := isWorded_ofPath ".//ul"
  have item := isWorded_ofPath ".//li"
  have link := worded_pathObject "./a"
  have twice : findTwice [] (ofPath ".//ul") (ofPath ".//li") (pathObject "./a") =
      .ok (ofPath ".//ul//li//a") := rfl
  refine ⟨list, item, link, hasBody_item, twice, ?_⟩
  rcases find_assoc [] list item link hasBody_item with
    ⟨_, path, twice', nested⟩ | ⟨_, _, _, refused, _⟩
  · rw [twice] at twice'
    exact nested.trans twice'.symm
  · rw [twice] at refused
    cases refused

section Astray

theorem lex_unnamedTest : Css.lex "[*|=x]" =
    [.token ⟨.delim, "[", 0⟩, .token ⟨.delim, "*", 1⟩, .token ⟨.delim, "|", 2⟩,
      .token ⟨.delim, "=", 3⟩, .token ⟨.ident, "x", 4⟩, .token ⟨.delim, "]", 5⟩,
      .token ⟨.finish, "", 6⟩] := by
  change Css.lexFrom 0 ['[', '*', '|', '=', 'x', ']'] = _
  iterate 6 rw [Css.lexFrom_char rfl]
  rw [Css.lexFrom_nil]
  rfl

theorem toPath_unnamedTest : Css.toPath .generic "[*|=x]" = .error .namelessGeneric := by
  rw [Css.toPath, Css.parse, lex_unnamedTest]
  rfl

def numbered : Locator := { make .fuzzy (.text "li") (.text "li") with output := .int 5 }

/-- The test has a place for the name of an attribute and no name in it; and a locator that cannot
be named cannot be complained about. -/
theorem unnamed_not_composed :
    (ofKeyed .css "[*|=x]").IsWorded ∧
      findTwice [] (ofKeyed .css "[*|=x]") (ofPath ".//li") (pathObject "./a") =
        .error .wrongType ∧
      findNested [] (ofKeyed .css "[*|=x]") (ofPath ".//li") (pathObject "./a") =
        .error .wrongType ∧
      numbered.IsWorded ∧ (∀ y, numbered.pathText ≠ .ok y) ∧
      findTwice [] (ofPath ".//ul") numbered (pathObject "./a") = .error .wrongType ∧
      findNested [] (ofPath ".//ul") numbered (pathObject "./a") = .error .wrongType ∧
      ¬Fault.wrongType.IsBadValue := by
  have formless : (ofKeyed .css "[*|=x]").pathText = .error .wrongType := by
    have selector : (ofKeyed .css "[*|=x]").toPath =
        (ofKeyed .css "[*|=x]").pathOfSelector (.text "[*|=x]") := rfl
    rw [pathText, selector]
    simp only [pathOfSelector, toPath_unnamedTest]
    rfl
  have nested : (ofPath ".//li").refine [] (.find (pathObject "./a")) =
      .ok (ofPath ".//li//a") := rfl
  refine ⟨fun _ => ⟨_, rfl⟩, ?_, ?_, ?_, ?_, rfl, rfl, ?_⟩
  · rw [findTwice, refine_find_error formless]
    rfl
  · rw [findNested, nested, Outcome.bind_of_ok rfl, refine_find_error formless]
  · rintro (css | path) <;> contradiction
  · intro y form
    cases form
  · rintro ⟨_, impossible⟩
    cases impossible

end Astray

end LocatorOf

end ElementSearch
