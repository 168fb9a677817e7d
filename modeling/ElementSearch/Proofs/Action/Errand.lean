import ElementSearch.Proofs.Lookup.Place

/-! Errands.
All but three of the actions are errands: under a title they narrow the search, look for a locator,
complain if nothing was found and else go on with what was found.  They differ in their words, in
the family of elements they look for and in how they go on.  `Course` lists all that an errand can
come to under its title. -/

namespace ElementSearch

namespace Action

def target : Action → Value
  | click locator _ | doubleClick locator _ | rightClick locator _ | fillField locator _
  | clearField locator | checkOption locator _ | uncheckOption locator _ | selectOption locator _
  | seeElement locator | dontSeeElement locator | countVisible locator => locator

def narrowing : Action → Value
  | click _ narrowing | doubleClick _ narrowing | rightClick _ narrowing
  | checkOption _ narrowing | uncheckOption _ narrowing => narrowing
  | _ => .null

def family : Action → Family
  | click .. | doubleClick .. | rightClick .. => .clickable
  | checkOption .. | uncheckOption .. => .checkable
  | fillField .. | clearField .. | selectOption .. => .field
  | seeElement .. | dontSeeElement .. | countVisible .. => .element

end Action

structure Errand where
  title : Outcome String
  target : Value
  family : Family
  role : String
  narrowing : Value
  clause : Outcome String
  follow : Handle → List Handle → Job Unit

namespace Errand

def body (e : Errand) (actor : Actor) (c : Context) : Job Unit := do
  let clause ← (e.clause : Outcome String)
  let (first, others) ← actor.findOrFail c e.target e.family e.role e.narrowing clause
  e.follow first others

def run (e : Errand) (actor : Actor) (c : Context) : Job Value := do
  let title ← (e.title : Outcome String)
  Job.titled title (e.body actor c)
  return .null

end Errand

namespace Actor

def clickableClauseText (actor : Actor) (narrowing : Value) : Outcome String :=
  if narrowing.isNull then .ok defaultClause
  else do
    let l ← Scope.classify actor.filters narrowing
    return "was not found inside element " ++ (← (Value.locator l).display)

theorem clickableClause_eq (actor : Actor) (narrowing : Value) :
    actor.clickableClause narrowing = liftM (actor.clickableClauseText narrowing) := by
  unfold clickableClause clickableClauseText Lookup.displayed
  split
  · rfl
  cases Scope.classify actor.filters narrowing with
  | error fault => rfl
  | ok l =>
    rw [Job.run_lift_bind_ok rfl]
    change _ = liftM ((Value.locator l).display >>= _)
    cases (Value.locator l).display <;> rfl

def clicking (actor : Actor) (words : String) (locator narrowing : Value)
    (gesture : Handle → Gesture) : Errand where
  title := locator.display.map (words ++ ·)
  target := locator
  family := .clickable
  role := "Clickable element"
  narrowing := narrowing
  clause := actor.clickableClauseText narrowing
  follow first others := do
    let element ← firstVisible first others
    Job.gesture (gesture element)

def ticking (actor : Actor) (words : String) (field narrowing : Value) (verb : Verb) : Errand where
  title := field.display.map (words ++ ·)
  target := field
  family := .checkable
  role := "Checkbox or radio"
  narrowing := narrowing
  clause := .ok defaultClause
  follow first _ := actor.touch first verb

def editing (title : Outcome String) (field : Value) (role : String)
    (follow : Handle → Job Unit) : Errand where
  title := title
  target := field
  family := .field
  role := role
  narrowing := .null
  clause := .ok defaultClause
  follow first _ := follow first

def masked (fieldShown text : String) : String :=
  if isSecret fieldShown then String.ofList (List.replicate text.length '*') else text

theorem titleValue_eq (fieldShown : String) (v : Value) :
    titleValue fieldShown v = liftM (v.display.map (masked fieldShown)) := by
  unfold titleValue shown
  cases v.display with
  | error fault => rfl
  | ok text =>
    rw [Job.run_lift_bind_ok rfl, Except.map, masked]
    split <;> rfl

def fillTitle (field value : Value) : Outcome String := do
  let name ← field.display
  let text ← value.display.map (masked name)
  return "Fill " ++ name ++ ": " ++ text

def selectTitle (select option : Value) : Outcome String := do
  let options ← option.display
  let name ← select.display
  return "Select " ++ options ++ " in " ++ name

def fillIn (actor : Actor) (value : Value) (element : Handle) : Job Unit := do
  let text ← shown value
  Job.gesture ⟨element, .fill, [.text text], [actor.timeoutOption]⟩

def choose (actor : Actor) (select option : Value) (element : Handle) : Job Unit := do
  let found ← Lookup.resolveOptions actor.driver element option
  if found.found then
    let values ← found.elements.mapM Job.optionValue
    let written ← ((Value.list values).inspect : Outcome String)
    let name ← shown select
    Job.log .debug ("Selecting values " ++ written ++ " in " ++ name)
    Job.gesture ⟨element, .selectOption, [], [actor.timeoutOption, ("value", .list values)]⟩
  else missingOption select option

def errand? (actor : Actor) : Action → Option Errand
  | .click locator narrowing =>
    some (actor.clicking "Click: " locator narrowing fun element =>
      ⟨element, .click, [], [actor.timeoutOption]⟩)
  | .doubleClick locator narrowing =>
    some (actor.clicking "Double click: " locator narrowing fun element =>
      ⟨element, .doubleClick, [], [actor.timeoutOption]⟩)
  | .rightClick locator narrowing =>
    some (actor.clicking "Right click: " locator narrowing fun element =>
      ⟨element, .click, [], [("button", .text "right"), actor.timeoutOption]⟩)
  | .checkOption field narrowing => some (actor.ticking "Check option: " field narrowing .check)
  | .uncheckOption field narrowing =>
    some (actor.ticking "Uncheck option: " field narrowing .uncheck)
  | .fillField field value =>
    some (editing (fillTitle field value) field "Field" (actor.fillIn value))
  | .clearField field =>
    some (editing (field.display.map ("Clear field: " ++ ·)) field "Field to clear" fun element =>
      actor.touch element .clear)
  | .selectOption select option =>
    some (editing (selectTitle select option) select "Selectable field"
      (actor.choose select option))
  | .seeElement _ | .dontSeeElement _ | .countVisible _ => none

theorem titledBy_eq {words : String} {locator : Value} {t : Job Unit} {e : Errand} {actor : Actor}
    {c : Context} (title : e.title = locator.display.map (words ++ ·)) (same : t = e.body actor c) :
    titledBy words locator t = e.run actor c := by
  rw [titledBy, Errand.run, title, same, shown]
  cases locator.display <;> rfl

theorem perform_eq {actor : Actor} {c : Context} {a : Action} {e : Errand}
    (given : actor.errand? a = some e) : actor.perform c a = e.run actor c := by
  cases a with
  | click locator narrowing | doubleClick locator narrowing | rightClick locator narrowing =>
    cases given
    apply titledBy_eq rfl
    simp only [clickable, clickableClause_eq, touch, Errand.body, clicking, bind_assoc]
  | checkOption field narrowing | uncheckOption field narrowing =>
    cases given
    apply titledBy_eq rfl
    simp only [checkable, Errand.body, ticking, bind_assoc]
    rfl
  | fillField locator value =>
    cases given
    -- the title shows two values, and the second is not looked at when the first has no name
    simp only [perform, fillField, Actor.field, titleValue_eq, shown, Errand.run, Errand.body,
      editing, fillTitle, fillIn, bind_assoc]
    cases locator.display with
    | error fault => rfl
    | ok name => cases value.display <;> rfl
  | clearField locator =>
    cases given
    apply titledBy_eq rfl
    simp only [Actor.field, Errand.body, editing, bind_assoc]
    rfl
  | selectOption select option =>
    cases given
    simp only [perform, chooseOptions, Actor.field, shown, Errand.run, Errand.body, editing,
      selectTitle, choose, bind_assoc]
    cases option.display with
    | error fault => rfl
    | ok options => cases select.display <;> rfl
  | seeElement _ | dontSeeElement _ | countVisible _ => cases given

section Parts

variable {actor : Actor} {c : Context} {a : Action} {e : Errand}

theorem errand_parts (given : actor.errand? a = some e) :
    e.target = a.target ∧ e.family = a.family ∧ e.narrowing = a.narrowing := by
  cases a with
  | seeElement _ | dontSeeElement _ | countVisible _ => cases given
  | _ =>
    cases given
    exact ⟨rfl, rfl, rfl⟩

theorem quiet_touch (actor : Actor) (element : Handle) (verb : Verb) :
    Job.Asks Request.Quiet (actor.touch element verb) := quiet_gesture _

theorem quiet_missingOption {α : Type} (select option : Value) :
    Job.Asks Request.Quiet (missingOption select option : Job α) :=
  (Job.asks_lift _).bind fun _ => Job.asks_throw _

theorem follow_cases (given : actor.errand? a = some e) :
    (∀ select option, a ≠ .selectOption select option) ∧
        (∀ first others, Job.Asks Request.Quiet (e.follow first others)) ∨
      ∃ select option, a = .selectOption select option ∧
        ∀ first others, e.follow first others = actor.choose select option first := by
  cases a with
  | click _ _ | doubleClick _ _ | rightClick _ _ =>
    cases given
    refine .inl ⟨by simp, fun first others => ?_⟩
    exact (quiet_firstVisible first others).bind fun _ => quiet_gesture _
  | checkOption _ _ | uncheckOption _ _ | clearField _ =>
    cases given
    exact .inl ⟨by simp, fun first _ => quiet_touch actor first _⟩
  | fillField _ value =>
    cases given
    exact .inl ⟨by simp, fun _ _ => (Job.asks_lift _).bind fun _ => quiet_gesture _⟩
  | selectOption select option =>
    cases given
    exact .inr ⟨select, option, rfl, fun _ _ => rfl⟩
  | seeElement _ | dontSeeElement _ | countVisible _ => cases given

theorem run_choose {select option : Value} {first : Handle} {t : List Exchange} {o : Outcome Unit}
    (run : Job.Run (actor.choose select option first) t o) :
    ∃ t₁ t₂ o', t = t₁ ++ t₂ ∧ Job.Run (Lookup.resolveOptions actor.driver first option) t₁ o' ∧
      ∀ e ∈ t₂, e.request.Quiet := by
  rcases Job.run_bind_iff.mp run with ⟨fault, chose, rfl⟩ | ⟨t₁, t₂, found, rfl, chose, rest⟩
  · exact ⟨t, [], _, (List.append_nil t).symm, chose, by simp⟩
  · refine ⟨t₁, t₂, _, rfl, chose, Job.Asks.of_run ?_ rest⟩
    split
    · refine (Job.asks_mapM ?_ _).bind fun _ => (Job.asks_lift _).bind fun _ =>
        (Job.asks_lift _).bind fun _ => (quiet_log ..).bind fun _ => quiet_gesture _
      exact fun _ => Job.asks_asking (Script.asks_request ⟨rfl, rfl⟩)
    · exact quiet_missingOption select option

end Parts

/-- What a complaint puts into the report: all that was asked for the target. -/
def attempts (actor : Actor) (target : Value) (family : Family) : Outcome Attachment := do
  let l ← LocatorOf.classify actor.filters .fuzzy false target
  let name ← (Value.locator l).display
  let tiers ← Tier.tiersOf l family
  Attachment.ofAttempts name family.label tiers

/-- A complaint that can be put into the report: two notes and the attachment. -/
def Complains (actor : Actor) (target : Value) (family : Family) (t : List Exchange) : Prop :=
  ∃ warning count attachment, actor.attempts target family = .ok attachment ∧
    t = [⟨.log warning, ()⟩, ⟨.log count, ()⟩, ⟨.attach attachment, ()⟩]

theorem complain_cases {α : Type} {actor : Actor} {target : Value} {family : Family}
    {role clause : String} {t : List Exchange} {o : Outcome α}
    (run : Job.Run (actor.complain target family role clause) t o) :
    ∃ fault, o = .error fault ∧
      ((∀ e ∈ t, e.request.Quiet) ∧ actor.attempts target family = .error fault ∨
        actor.Complains target family t ∧
          fault = (Cause.elementNotFound target (.text role) (.text clause)).fault) := by
  have quiet (note : Note) : (Request.log note).Quiet := ⟨rfl, rfl⟩
  -- the stages of the complaint are those of the attachment with notes between them, so a stage
  -- that fails has the fault of the attachment
  unfold complain classified Lookup.displayed at run
  rcases Job.run_lift_bind_cases run with ⟨fault, failed, rfl, rfl⟩ | ⟨l, found, run⟩
  · exact ⟨fault, rfl, .inl ⟨by simp, Outcome.bind_of_error failed _⟩⟩
  have afterFound := Outcome.bind_of_ok found fun l => do
    let name ← (Value.locator l).display
    let tiers ← Tier.tiersOf l family
    Attachment.ofAttempts name family.label tiers
  rcases Job.run_lift_bind_cases run with ⟨fault, failed, rfl, rfl⟩ | ⟨name, named, run⟩
  · exact ⟨fault, rfl, .inl ⟨by simp, afterFound.trans (Outcome.bind_of_error failed _)⟩⟩
  obtain ⟨_, t₁, rfl, noted⟩ := Job.run_report_bind.mp run
  have afterNamed := afterFound.trans (Outcome.bind_of_ok named _)
  rcases Job.run_lift_bind_cases noted with ⟨fault, failed, rfl, rfl⟩ | ⟨tiers, built, noted⟩
  · exact ⟨fault, rfl, .inl ⟨by simp [quiet], afterNamed.trans (Outcome.bind_of_error failed _)⟩⟩
  obtain ⟨_, t₂, rfl, counted⟩ := Job.run_report_bind.mp noted
  have afterBuilt := afterNamed.trans (Outcome.bind_of_ok built _)
  rcases Job.run_lift_bind_cases counted with
    ⟨fault, failed, rfl, rfl⟩ | ⟨attachment, done, counted⟩
  · exact ⟨fault, rfl, .inl ⟨by simp [quiet], afterBuilt.trans failed⟩⟩
  obtain ⟨_, t₃, rfl, thrown⟩ := Job.run_report_bind.mp counted
  obtain ⟨rfl, rfl⟩ := Job.run_throw_iff.mp thrown
  exact ⟨_, rfl, .inr ⟨⟨_, _, attachment, afterBuilt.trans done, rfl⟩, rfl⟩⟩

section Finding

variable {actor : Actor} {c : Context} {target narrowing : Value} {family : Family}
  {role clause : String}

/-- All that can happen while the elements of a target are looked for. -/
inductive Finds (actor : Actor) (c : Context) (target : Value) (family : Family) (role : String)
    (narrowing : Value) (clause : String) :
    List Exchange → Outcome (Handle × List Handle) → Prop
  /-- there is no place to search in -/
  | astray {t : List Exchange} {fault : Fault}
      (narrowed : Job.Run (actor.searchRoot c narrowing) t (.error fault)) :
      Finds actor c target family role narrowing clause t (.error fault)
  | failed {t t' : List Exchange} {root : Handle} {fault : Fault}
      (narrowed : Job.Run (actor.searchRoot c narrowing) t (.ok root))
      (looked : Job.Run (Lookup.resolve actor.filters actor.driver target family root) t'
        (.error fault)) : Finds actor c target family role narrowing clause (t ++ t') (.error fault)
  /-- nothing was found, and the complaint about it is made -/
  | missed {t t' t'' : List Exchange} {root : Handle} {fault : Fault}
      (narrowed : Job.Run (actor.searchRoot c narrowing) t (.ok root))
      (looked : Job.Run (Lookup.resolve actor.filters actor.driver target family root) t' (.ok []))
      (complained : Job.Run
        (actor.complain target family role clause : Job (Handle × List Handle)) t''
        (.error fault)) :
      Finds actor c target family role narrowing clause (t ++ (t' ++ t'')) (.error fault)
  | found {t t' : List Exchange} {root first : Handle} {others : List Handle}
      (narrowed : Job.Run (actor.searchRoot c narrowing) t (.ok root))
      (looked : Job.Run (Lookup.resolve actor.filters actor.driver target family root) t'
        (.ok (first :: others))) :
      Finds actor c target family role narrowing clause (t ++ t') (.ok (first, others))

theorem finds_of_run {t : List Exchange} {o : Outcome (Handle × List Handle)}
    (run : Job.Run (actor.findOrFail c target family role narrowing clause) t o) :
    Finds actor c target family role narrowing clause t o := by
  rcases Job.run_bind_iff.mp run with ⟨fault, narrowed, rfl⟩ | ⟨t₁, t₂, root, rfl, narrowed, rest⟩
  · exact .astray narrowed
  rcases Job.run_bind_iff.mp rest with ⟨fault, looked, rfl⟩ | ⟨t₂, t₃, elements, rfl, looked, rest⟩
  · exact .failed narrowed looked
  cases elements with
  | nil =>
    obtain ⟨fault, rfl, _⟩ := complain_cases rest
    exact .missed narrowed looked rest
  | cons first others =>
    obtain ⟨rfl, rfl⟩ := Job.run_pure_iff.mp rest
    rw [List.append_nil]
    exact .found narrowed looked

end Finding

end Actor

namespace Errand

variable {actor : Actor} {c : Context} {e : Errand} {t : List Exchange}

def Narrows (actor : Actor) (c : Context) (e : Errand) (t : List Exchange) (o : Outcome Handle) :
    Prop :=
  Job.Run (actor.searchRoot c e.narrowing) t o

def Looks (actor : Actor) (e : Errand) (root : Handle) (t : List Exchange)
    (o : Outcome (List Handle)) : Prop :=
  Job.Run (Lookup.resolve actor.filters actor.driver e.target e.family root) t o

/-- All that can happen under the title of an errand. -/
inductive Course (actor : Actor) (c : Context) (e : Errand) : List Exchange → Outcome Unit → Prop
  /-- what would be said if nothing is found cannot be worded -/
  | speechless {fault : Fault} (unworded : e.clause = .error fault) :
    Course actor c e [] (.error fault)
  /-- there is no place to search in -/
  | astray {clause : String} {t : List Exchange} {fault : Fault} (worded : e.clause = .ok clause)
      (narrowed : Narrows actor c e t (.error fault)) : Course actor c e t (.error fault)
  | failed {clause : String} {t t' : List Exchange} {root : Handle} {fault : Fault}
      (worded : e.clause = .ok clause) (narrowed : Narrows actor c e t (.ok root))
      (looked : Looks actor e root t' (.error fault)) : Course actor c e (t ++ t') (.error fault)
  /-- nothing was found, and the complaint about it is made -/
  | missed {clause : String} {t t' t'' : List Exchange} {root : Handle} {fault : Fault}
      (worded : e.clause = .ok clause) (narrowed : Narrows actor c e t (.ok root))
      (looked : Looks actor e root t' (.ok []))
      (complained :
        (∀ x ∈ t'', x.request.Quiet) ∧ actor.attempts e.target e.family = .error fault ∨
        actor.Complains e.target e.family t'' ∧
          fault = (Cause.elementNotFound e.target (.text e.role) (.text clause)).fault) :
      Course actor c e (t ++ (t' ++ t'')) (.error fault)
  | found {clause : String} {t t' t'' : List Exchange} {root first : Handle}
      {others : List Handle} {o : Outcome Unit} (worded : e.clause = .ok clause)
      (narrowed : Narrows actor c e t (.ok root))
      (looked : Looks actor e root t' (.ok (first :: others)))
      (followed : Job.Run (e.follow first others) t'' o) : Course actor c e (t ++ (t' ++ t'')) o

theorem course_of_body {o : Outcome Unit} (run : Job.Run (e.body actor c) t o) :
    Course actor c e t o := by
  rcases Job.run_lift_bind_cases run with ⟨fault, unworded, rfl, rfl⟩ | ⟨clause, worded, run⟩
  · exact .speechless unworded
  rcases Job.run_bind_iff.mp run with ⟨fault, sought, rfl⟩ | ⟨t₁, t₂, found, rfl, sought, followed⟩
  · cases Actor.finds_of_run sought with
    | astray narrowed => exact .astray worded narrowed
    | failed narrowed looked => exact .failed worded narrowed looked
    | missed narrowed looked complained =>
      obtain ⟨_, same, said⟩ := Actor.complain_cases complained
      cases same
      exact .missed worded narrowed looked said
  · cases Actor.finds_of_run sought with
    | found narrowed looked =>
      rw [List.append_assoc]
      exact .found worded narrowed looked followed

theorem run_step_cases {o : Outcome Value} (run : Job.Run (e.run actor c) t o) :
    (∃ fault, e.title = .error fault ∧ t = [] ∧ o = .error fault) ∨
      ∃ title inner ended, e.title = .ok title ∧
        t = ⟨.stepStarts title, ()⟩ :: (inner ++ [⟨.stepEnds (Job.faultOf ended), ()⟩]) ∧
        Job.Run (e.body actor c) inner ended ∧ o = ended.map fun _ => .null := by
  unfold Errand.run at run
  rcases Job.run_lift_bind_cases run with untitled | ⟨title, titled, run⟩
  · exact .inl untitled
  refine .inr ?_
  rcases Job.run_bind_iff.mp run with ⟨fault, step, rfl⟩ | ⟨t, _, _, rfl, step, rest⟩
  · obtain ⟨inner, rfl, held⟩ := Job.run_titled step
    exact ⟨title, inner, _, titled, rfl, held, rfl⟩
  · obtain ⟨rfl, rfl⟩ := Job.run_pure_iff.mp rest
    obtain ⟨inner, rfl, held⟩ := Job.run_titled step
    exact ⟨title, inner, _, titled, by simp, held, rfl⟩

theorem run_cases {o : Outcome Value} (run : Job.Run (e.run actor c) t o) :
    (∃ fault, e.title = .error fault ∧ t = [] ∧ o = .error fault) ∨
      ∃ title inner ended, e.title = .ok title ∧
        t = ⟨.stepStarts title, ()⟩ :: (inner ++ [⟨.stepEnds (Job.faultOf ended), ()⟩]) ∧
        Course actor c e inner ended ∧ o = ended.map fun _ => .null := by
  rcases run_step_cases run with untitled | ⟨title, inner, ended, titled, step, held, ends⟩
  · exact .inl untitled
  · exact .inr ⟨title, inner, ended, titled, step, course_of_body held, ends⟩

theorem against_run {world : Responder} {past : List Exchange} {o : Outcome Unit} {title : String}
    (titled : e.title = .ok title)
    (inner : (e.body actor c).run.against world (past ++ [⟨.stepStarts title, ()⟩]) = (t, o)) :
    (e.run actor c).run.against world past =
      (⟨.stepStarts title, ()⟩ :: (t ++ [⟨.stepEnds (Job.faultOf o), ()⟩]),
        o.map fun _ => .null) := by
  rw [run, Job.run_lift_bind_ok titled]
  have step := Job.against_titled inner
  cases o with
  | error fault => exact Job.against_bind_error step _
  | ok _ =>
    rw [← List.append_nil (_ :: _)]
    exact Job.against_bind_ok step rfl

end Errand

end ElementSearch
