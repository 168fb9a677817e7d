import ElementSearch.Proofs.Action.Confinement
import ElementSearch.Proofs.Action.Secrecy

/-! What is done to elements.
Eight of the actions change an element.  Such an action narrows the search, looks for its target and
settles what to do to which of the elements it found; then comes its one deed, and after that
nothing but the end of its step of the report.  A stage that fails ends the action, and there is no
deed. -/

namespace ElementSearch

/-- Neither searching nor entering frames touches an element. -/
structure Driver.OnlyLooks (d : Driver) : Prop where
  searching : d.HandsOff
  entering : ∀ root frames, Job.Asks Request.HandsOff (d.enter root frames)

theorem Driver.onlyLooks_direct : direct.OnlyLooks where
  searching := handsOff_direct
  entering _ _ := Job.asks_asking (Script.asks_request rfl)

theorem Driver.handsOff_browserEnterAll (frames : List Value) (root : Handle) :
    Job.Asks Request.HandsOff (browserEnterAll root frames) := by
  induction frames generalizing root with
  | nil => exact Job.asks_pure root
  | cons frame rest ih =>
    have asks (selector : String) : Job.Asks Request.HandsOff (Job.frameAt root selector) :=
      Job.asks_report rfl
    exact (Job.asks_lift _).bind fun selector => (asks selector).bind ih

theorem Driver.onlyLooks_browser : browser.OnlyLooks where
  searching := handsOff_browser
  entering root frames :=
    (handsOff_browserEnterAll frames root).bind fun _ => (Job.asks_lift _).bind fun _ =>
      (asks_log (fun _ => rfl) ..).bind fun _ => Job.asks_pure _

section Untouched

variable {actor : Actor} {c : Context} {t : List Exchange}

theorem touched_started (title : String) (t : List Exchange) :
    touched (⟨.stepStarts title, ()⟩ :: t) = touched t := rfl

theorem Job.Asks.untouched {α : Type} {j : Job α} {o : Outcome α}
    (handsOff : Job.Asks Request.HandsOff j) (run : Job.Run j t o) : touched t = [] :=
  touched_eq_nil (handsOff.of_run run)

theorem Scope.handsOff_narrowTo {d : Driver} (looks : d.OnlyLooks) (l : Locator) (root : Handle) :
    Job.Asks Request.HandsOff (narrowTo d l root) := by
  unfold narrowTo
  split
  · exact looks.entering root (frameChain l)
  · refine (Lookup.asks_resolveLocator (looks.searching root) (fun _ => rfl) l .element).bind
      fun found => ?_
    split
    · exact Job.asks_throw _
    · exact Job.asks_pure _

theorem Actor.handsOff_searchRoot (looks : actor.driver.OnlyLooks) (c : Context)
    (narrowing : Value) : Job.Asks Request.HandsOff (actor.searchRoot c narrowing) := by
  unfold searchRoot
  split
  · exact Job.asks_pure c.root
  · exact (Job.asks_lift _).bind fun l => Scope.handsOff_narrowTo looks l c.root

theorem Actor.Finds.untouched {target narrowing : Value} {family : Family} {role clause : String}
    {o : Outcome (Handle × List Handle)} (looks : actor.driver.OnlyLooks)
    (finds : actor.Finds c target family role narrowing clause t o) : touched t = [] := by
  have places {t : List Exchange} {o : Outcome Handle}
      (narrowed : Job.Run (actor.searchRoot c narrowing) t o) : touched t = [] :=
    (handsOff_searchRoot looks c narrowing).untouched narrowed
  have searches {t : List Exchange} {root : Handle} {o : Outcome (List Handle)}
      (looked : Job.Run (Lookup.resolve actor.filters actor.driver target family root) t o) :
      touched t = [] :=
    (Lookup.asks_resolve (looks.searching root) (fun _ => rfl) ..).untouched looked
  cases finds with
  | astray narrowed => exact places narrowed
  | failed narrowed looked | found narrowed looked => simp [places narrowed, searches looked]
  | missed narrowed looked complained =>
    have told := (handsOff_complain actor target family role clause).untouched complained
    simp [places narrowed, searches looked, told]

section Asked

variable {β : Type} {put : Handle → Outcome β → Exchange}
  (still : ∀ element o, (put element o).request.HandsOff)

include still

theorem touched_answered (elements : List Handle) (bs : List β) :
    touched (Job.answered put elements bs) = [] := by
  refine touched_eq_nil fun e mem => ?_
  obtain ⟨_, _, rfl⟩ := List.mem_map.mp mem
  exact still ..

theorem touched_of_breaksOff {elements : List Handle} {fault : Fault}
    (broken : Job.BreaksOff put elements t fault) : touched t = [] := by
  obtain ⟨before, element, _, bs, _, _, rfl⟩ := broken
  have last : touched [put element (.error fault)] = [] :=
    touched_eq_nil (List.forall_mem_singleton.mpr (still ..))
  rw [touched_append, touched_answered still, last, List.append_nil]

end Asked

end Untouched

namespace Actor

def view (element : Handle) (o : Outcome Bool) : Exchange := ⟨.isVisible element, o⟩

def reading (option : Handle) (o : Outcome Value) : Exchange := ⟨.optionValue option, o⟩

theorem filterAuxM_eq (elements kept : List Handle) :
    List.filterAuxM Job.isVisible elements kept = do
      let seen ← elements.mapM Job.isVisible
      return (((elements.zip seen).filter Prod.snd).map Prod.fst).reverse ++ kept := by
  induction elements generalizing kept with
  | nil => rfl
  | cons element rest ih =>
    rw [List.filterAuxM, List.mapM_cons]
    simp only [ih, bind_assoc, pure_bind]
    congr 1
    funext visible
    congr 1
    funext seen
    cases visible <;> simp

theorem visible_eq (elements : List Handle) :
    visible elements = do
      let seen ← elements.mapM Job.isVisible
      return ((elements.zip seen).filter Prod.snd).map Prod.fst := by
  rw [visible, List.filterM, filterAuxM_eq]
  simp

def firstSeen (first : Handle) (others : List Handle) (seen : List Bool) : Handle :=
  (((first :: others).zip seen).find? Prod.snd).elim first Prod.fst

theorem headD_visible (first : Handle) (others : List Handle) (seen : List Bool) :
    ((((first :: others).zip seen).filter Prod.snd).map Prod.fst).headD first =
      firstSeen first others seen := by
  rw [firstSeen, List.headD_eq_head?_getD, List.head?_map, List.head?_filter]
  cases ((first :: others).zip seen).find? Prod.snd <;> rfl

/-- The element that a click is for: the only one, or of several the first visible one. -/
inductive Picks (first : Handle) : List Handle → List Exchange → Handle → Prop
  | only : Picks first [] [] first
  | among {others : List Handle} {seen : List Bool} (several : others ≠ [])
      (all : seen.length = (first :: others).length) :
      Picks first others (Job.answered view (first :: others) seen) (firstSeen first others seen)

theorem run_firstVisible {first : Handle} {others : List Handle} {t : List Exchange}
    {o : Outcome Handle} (run : Job.Run (firstVisible first others) t o) :
    (∃ element, Picks first others t element ∧ o = .ok element) ∨
      ∃ fault, others ≠ [] ∧ Job.BreaksOff view (first :: others) t fault ∧ o = .error fault := by
  cases others with
  | nil =>
    obtain ⟨rfl, rfl⟩ := Job.run_pure_iff.mp run
    exact .inl ⟨first, .only, rfl⟩
  | cons second rest =>
    have single (element : Handle) (t : List Exchange) (o : Outcome Bool) :
        Job.Run (Job.isVisible element) t o ↔ t = [view element o] := Job.run_isVisible_iff
    have run : Job.Run (do
        let shown ← visible (first :: second :: rest)
        return shown.headD first) t o := run
    rw [visible_eq, bind_assoc] at run
    rcases Job.run_bind_iff.mp run with ⟨fault, looked, rfl⟩ | ⟨t₁, _, seen, rfl, looked, chosen⟩
    · obtain ⟨_, broken, same⟩ := (Job.run_mapM_cases single looked).resolve_left (by simp)
      cases same
      exact .inr ⟨fault, by simp, broken, rfl⟩
    · obtain ⟨_, all, rfl, same⟩ := (Job.run_mapM_cases single looked).resolve_right (by simp)
      cases same
      obtain ⟨rfl, rfl⟩ := Job.run_pure_iff.mp chosen
      rw [List.append_nil, headD_visible]
      exact .inl ⟨_, .among (by simp) all, rfl⟩

section Settling

variable (actor : Actor) (first : Handle) (others : List Handle)

def clickOf? (element : Handle) : Action → Option Gesture
  | .click .. => some ⟨element, .click, [], [actor.timeoutOption]⟩
  | .doubleClick .. => some ⟨element, .doubleClick, [], [actor.timeoutOption]⟩
  | .rightClick .. => some ⟨element, .click, [], [("button", .text "right"), actor.timeoutOption]⟩
  | _ => none

def plainVerb? : Action → Option Verb
  | .clearField _ => some .clear
  | .checkOption .. => some .check
  | .uncheckOption .. => some .uncheck
  | _ => none

def valuesNote (values name : String) : Note :=
  ⟨.debug, "Selecting values " ++ values ++ " in " ++ name⟩

/-- What is asked between the search, which found these elements, and the deed, and the deed. -/
inductive Settles : Action → List Exchange → Gesture → Prop
  | clicks {a : Action} {t : List Exchange} {element : Handle} {g : Gesture}
      (picked : Picks first others t element) (click : actor.clickOf? element a = some g) :
      Settles a t g
  | plainly {a : Action} {verb : Verb} (plain : plainVerb? a = some verb) :
      Settles a [] ⟨first, verb, [], [actor.timeoutOption]⟩
  | fills {field value : Value} {text : String} (shows : value.display = .ok text) :
      Settles (.fillField field value) [] ⟨first, .fill, [.text text], [actor.timeoutOption]⟩
  /-- the values of the matched options, in the order of the matches -/
  | selects {select option : Value} {t : List Exchange} {found : Lookup.OptionMatch}
      {values : List Value} {written name : String}
      (chose : Job.Run (Lookup.resolveOptions actor.driver first option) t (.ok found))
      (matched : found.elements ≠ []) (all : values.length = found.elements.length)
      (spelled : (Value.list values).inspect = .ok written) (shows : select.display = .ok name) :
      Settles (.selectOption select option)
        (t ++
          (Job.answered reading found.elements values ++ [⟨.log (valuesNote written name), ()⟩]))
        ⟨first, .selectOption, [], [actor.timeoutOption, ("value", .list values)]⟩

/-- What is asked after the search when no deed comes of it, and the fault that this ends with. -/
inductive Unsettled : Action → List Exchange → Fault → Prop
  | unseen {a : Action} {t : List Exchange} {fault : Fault} (isClick : a.family = .clickable)
      (several : others ≠ []) (broken : Job.BreaksOff view (first :: others) t fault) :
      Unsettled a t fault
  | unchosen {select option : Value} {t : List Exchange} {fault : Fault}
      (chose : Job.Run (Lookup.resolveOptions actor.driver first option) t (.error fault)) :
      Unsettled (.selectOption select option) t fault
  | unmatched {select option : Value} {t : List Exchange} {found : Lookup.OptionMatch}
      {fault : Fault}
      (chose : Job.Run (Lookup.resolveOptions actor.driver first option) t (.ok found))
      (none : found.elements = [])
      (complained : Job.Run (missingOption select option : Job Unit) [] (.error fault)) :
      Unsettled (.selectOption select option) t fault
  | unread {select option : Value} {t t' : List Exchange} {found : Lookup.OptionMatch}
      {fault : Fault}
      (chose : Job.Run (Lookup.resolveOptions actor.driver first option) t (.ok found))
      (broken : Job.BreaksOff reading found.elements t' fault) :
      Unsettled (.selectOption select option) (t ++ t') fault
  /-- the values are noted before they are selected -/
  | unnoted {select option : Value} {t : List Exchange} {found : Lookup.OptionMatch}
      {values : List Value} {fault : Fault}
      (chose : Job.Run (Lookup.resolveOptions actor.driver first option) t (.ok found))
      (all : values.length = found.elements.length)
      (unspelled : (Value.list values).inspect = .error fault) :
      Unsettled (.selectOption select option)
        (t ++ Job.answered reading found.elements values) fault

/-- What follows the search: the deed at its end, or a fault before it. -/
inductive Follows (a : Action) : List Exchange → Outcome Unit → Prop
  | settled {t : List Exchange} {g : Gesture} {answer : Outcome Unit}
      (settles : Settles actor first others a t g) :
      Follows a (t ++ [⟨.gesture g, answer⟩]) answer
  | unsettled {t : List Exchange} {fault : Fault}
      (unsettled : Unsettled actor first others a t fault) : Follows a t (.error fault)

variable {actor first others} {a : Action} {t : List Exchange} {o : Outcome Unit}

theorem follows_of_clicking {gesture : Handle → Gesture} (isClick : a.family = .clickable)
    (click : ∀ element, actor.clickOf? element a = some (gesture element))
    (run : Job.Run (do
      let element ← firstVisible first others
      Job.gesture (gesture element)) t o) : Follows actor first others a t o := by
  rcases Job.run_bind_iff.mp run with ⟨fault, looked, rfl⟩ | ⟨t₁, _, element, rfl, looked, done⟩
  · obtain ⟨_, several, broken, same⟩ := (run_firstVisible looked).resolve_left (by simp)
    cases same
    exact .unsettled (.unseen isClick several broken)
  · obtain ⟨_, picked, same⟩ := (run_firstVisible looked).resolve_right (by simp)
    cases same
    obtain rfl := Job.run_gesture_iff.mp done
    exact .settled (.clicks picked (click element))

theorem follows_of_touch {verb : Verb} (plain : plainVerb? a = some verb)
    (run : Job.Run (actor.touch first verb) t o) : Follows actor first others a t o := by
  obtain rfl := Job.run_gesture_iff.mp run
  exact .settled (.plainly plain)

theorem follows_of_fillIn {field value : Value} {text : String} (shows : value.display = .ok text)
    (run : Job.Run (actor.fillIn value first) t o) :
    Follows actor first others (.fillField field value) t o := by
  rw [fillIn, shown, Job.run_lift_bind_ok shows] at run
  obtain rfl := Job.run_gesture_iff.mp run
  exact .settled (.fills shows)

theorem run_missingOption {select option : Value}
    (run : Job.Run (missingOption select option : Job Unit) t o) :
    t = [] ∧ ∃ fault, o = .error fault := by
  rcases Job.run_lift_bind_cases run with ⟨fault, _, rfl, rfl⟩ | ⟨_, _, thrown⟩
  · exact ⟨rfl, fault, rfl⟩
  · obtain ⟨rfl, rfl⟩ := Job.run_throw_iff.mp thrown
    exact ⟨rfl, _, rfl⟩

theorem follows_of_choose {select option : Value} {name : String}
    (shows : select.display = .ok name) (run : Job.Run (actor.choose select option first) t o) :
    Follows actor first others (.selectOption select option) t o := by
  rcases Job.run_bind_iff.mp run with ⟨fault, chose, rfl⟩ | ⟨t₁, t₂, found, rfl, chose, goesOn⟩
  · exact .unsettled (.unchosen chose)
  split at goesOn
  · rename_i matched
    have some : found.elements ≠ [] := by simpa [Lookup.OptionMatch.found] using matched
    have single (element : Handle) (t : List Exchange) (o : Outcome Value) :
        Job.Run (Job.optionValue element) t o ↔ t = [reading element o] := Job.run_optionValue_iff
    rcases Job.run_bind_iff.mp goesOn with ⟨fault, read, rfl⟩ | ⟨t₂, t₃, values, rfl, read, rest⟩
    · obtain ⟨_, broken, same⟩ := (Job.run_mapM_cases single read).resolve_left (by simp)
      cases same
      exact .unsettled (.unread chose broken)
    · obtain ⟨_, all, rfl, same⟩ := (Job.run_mapM_cases single read).resolve_right (by simp)
      cases same
      rcases Job.run_lift_bind_cases rest with ⟨fault, unspelled, rfl, rfl⟩ | ⟨_, spelled, rest⟩
      · rw [List.append_nil]
        exact .unsettled (.unnoted chose all unspelled)
      rw [shown, Job.run_lift_bind_ok shows] at rest
      obtain ⟨_, _, rfl, done⟩ := Job.run_report_bind.mp rest
      obtain rfl := Job.run_gesture_iff.mp done
      have settles : Settles actor first others (.selectOption select option) _ _ :=
        .selects chose some all spelled shows
      have follows : Follows actor first others (.selectOption select option) _ o :=
        .settled settles
      rwa [List.append_assoc, List.append_assoc] at follows
  · rename_i unmatched
    have none : found.elements = [] := by simpa [Lookup.OptionMatch.found] using unmatched
    obtain ⟨rfl, fault, rfl⟩ := run_missingOption goesOn
    rw [List.append_nil]
    exact .unsettled (.unmatched chose none goesOn)

theorem follows_of_errand {e : Errand} {title : String} (given : actor.errand? a = some e)
    (titled : e.title = .ok title) (run : Job.Run (e.follow first others) t o) :
    Follows actor first others a t o := by
  cases a with
  | click _ _ | doubleClick _ _ | rightClick _ _ =>
    cases given
    exact follows_of_clicking rfl (fun _ => rfl) run
  | checkOption _ _ | uncheckOption _ _ | clearField _ =>
    cases given
    exact follows_of_touch rfl run
  | fillField field value =>
    cases given
    -- the title has shown the value already
    obtain ⟨_, _, titled⟩ := Outcome.bind_eq_ok titled
    obtain ⟨_, shown, _⟩ := Outcome.bind_eq_ok titled
    obtain ⟨text, shows, _⟩ := Outcome.map_eq_ok shown
    exact follows_of_fillIn shows run
  | selectOption select option =>
    cases given
    obtain ⟨_, _, titled⟩ := Outcome.bind_eq_ok titled
    obtain ⟨_, shows, _⟩ := Outcome.bind_eq_ok titled
    exact follows_of_choose shows run
  | seeElement _ | dontSeeElement _ | countVisible _ => cases given

section Untouched

variable (looks : actor.driver.OnlyLooks)

theorem handsOff_view (element : Handle) (o : Outcome Bool) :
    (view element o).request.HandsOff := rfl

theorem handsOff_reading (option : Handle) (o : Outcome Value) :
    (reading option o).request.HandsOff := rfl

include looks

theorem untouched_of_choosing {option : Value} {o : Outcome Lookup.OptionMatch}
    (chose : Job.Run (Lookup.resolveOptions actor.driver first option) t o) : touched t = [] :=
  (Lookup.asks_resolveOptions (looks.searching first) (fun _ => rfl) option).untouched chose

theorem Settles.untouched {g : Gesture} (settles : Settles actor first others a t g) :
    touched t = [] := by
  cases settles with
  | clicks picked _ =>
    cases picked with
    | only => rfl
    | among _ _ => exact touched_answered handsOff_view ..
  | plainly _ | fills _ => rfl
  | selects chose _ _ _ _ =>
    have noted (note : Note) : touched [⟨.log note, ()⟩] = [] := rfl
    simp [untouched_of_choosing looks chose, touched_answered handsOff_reading, noted]

theorem Unsettled.untouched {fault : Fault} (unsettled : Unsettled actor first others a t fault) :
    touched t = [] := by
  cases unsettled with
  | unseen _ _ broken => exact touched_of_breaksOff handsOff_view broken
  | unchosen chose | unmatched chose _ _ => exact untouched_of_choosing looks chose
  | unread chose broken =>
    simp [untouched_of_choosing looks chose, touched_of_breaksOff handsOff_reading broken]
  | unnoted chose _ _ =>
    simp [untouched_of_choosing looks chose, touched_answered handsOff_reading]

end Untouched

end Settling

/-- What comes before the deed of an action, under its title. -/
inductive Prepares (actor : Actor) (c : Context) (a : Action) : List Exchange → Gesture → Prop
  | intro {t t' t'' : List Exchange} {root first : Handle} {others : List Handle} {g : Gesture}
      (narrowed : Job.Run (actor.searchRoot c a.narrowing) t (.ok root))
      (looked : a.Looks actor root t' (.ok (first :: others)))
      (settles : Settles actor first others a t'' g) : Prepares actor c a (t ++ t' ++ t'') g

/-- How an action ends under its title when there is no deed, and with what fault. -/
inductive Stops (actor : Actor) (c : Context) (a : Action) : List Exchange → Fault → Prop
  /-- what would be said if nothing is found cannot be worded -/
  | unworded {e : Errand} {fault : Fault} (given : actor.errand? a = some e)
      (unworded : e.clause = .error fault) : Stops actor c a [] fault
  | unfound {role clause : String} {t : List Exchange} {fault : Fault}
      (finds : actor.Finds c a.target a.family role a.narrowing clause t (.error fault)) :
      Stops actor c a t fault
  | unsettled {t t' t'' : List Exchange} {root first : Handle} {others : List Handle}
      {fault : Fault} (narrowed : Job.Run (actor.searchRoot c a.narrowing) t (.ok root))
      (looked : a.Looks actor root t' (.ok (first :: others)))
      (unsettled : Unsettled actor first others a t'' fault) :
      Stops actor c a (t ++ t' ++ t'') fault

section Course

variable {actor : Actor} {c : Context} {a : Action} {e : Errand} {t : List Exchange}

theorem Stops.untouched {fault : Fault} (looks : actor.driver.OnlyLooks)
    (stops : Stops actor c a t fault) : touched t = [] := by
  cases stops with
  | unworded _ _ => rfl
  | unfound finds => exact finds.untouched looks
  | unsettled narrowed looked unsettled =>
    have finds : actor.Finds c a.target a.family "" a.narrowing "" _ _ := .found narrowed looked
    rw [touched_append, finds.untouched looks, unsettled.untouched looks, List.append_nil]

theorem Prepares.untouched {g : Gesture} (looks : actor.driver.OnlyLooks)
    (prepares : Prepares actor c a t g) : touched t = [] := by
  obtain ⟨narrowed, looked, settles⟩ := prepares
  have finds : actor.Finds c a.target a.family "" a.narrowing "" _ _ := .found narrowed looked
  rw [touched_append, finds.untouched looks, settles.untouched looks, List.append_nil]

theorem course_of_errand {title : String} {o : Outcome Unit} (given : actor.errand? a = some e)
    (titled : e.title = .ok title) (run : Job.Run (e.body actor c) t o) :
    (∃ fault, Stops actor c a t fault ∧ o = .error fault) ∨
      ∃ before g, Prepares actor c a before g ∧ t = before ++ [⟨.gesture g, o⟩] := by
  rcases Job.run_lift_bind_cases run with ⟨fault, unworded, rfl, rfl⟩ | ⟨clause, _, run⟩
  · exact .inl ⟨fault, .unworded given unworded, rfl⟩
  -- the errand looks for what the action looks for, so its stages are told in terms of the action
  obtain ⟨target, family, narrowing⟩ := errand_parts given
  rw [target, family, narrowing] at run
  rcases Job.run_bind_iff.mp run with ⟨fault, sought, rfl⟩ | ⟨t₁, t₂, _, rfl, sought, followed⟩
  · exact .inl ⟨fault, .unfound (finds_of_run sought), rfl⟩
  cases finds_of_run sought with | found narrowed looked
  cases follows_of_errand given titled followed with
  | settled settles =>
    rw [← List.append_assoc]
    exact .inr ⟨_, _, ⟨narrowed, looked, settles⟩, rfl⟩
  | unsettled unsettled => exact .inl ⟨_, .unsettled narrowed looked unsettled, rfl⟩

end Course

end Actor

def Action.changes : Action → Bool
  | .seeElement _ | .dontSeeElement _ | .countVisible _ => false
  | _ => true

namespace Actor

variable {actor : Actor} {c : Context} {a : Action} {t : List Exchange} {o : Outcome Value}

theorem errand_of_changes (changes : a.changes = true) : ∃ e, actor.errand? a = some e := by
  cases a with
  | seeElement _ | dontSeeElement _ | countVisible _ => cases changes
  | _ => exact ⟨_, rfl⟩

/-- Whatever the world does: an action that changes an element either touches none and ends in the
fault of the stage that failed, or it does one thing to one element when all stages before have gone
well, and ends as that is answered; nothing but the end of its step comes after it. -/
theorem deed_comes_last (changes : a.changes = true) (looks : actor.driver.OnlyLooks)
    (run : Job.Run (actor.perform c a) t o) :
    (∃ fault, o = .error fault ∧ touched t = [] ∧
        ((∃ e, actor.errand? a = some e ∧ e.title = .error fault) ∧ t = [] ∨
          ∃ title inner, Stops actor c a inner fault ∧
            t = ⟨.stepStarts title, ()⟩ :: (inner ++ [⟨.stepEnds (some fault), ()⟩]))) ∨
      ∃ title before g answer, Prepares actor c a before g ∧ touched before = [] ∧
        t = ⟨.stepStarts title, ()⟩ :: (before ++
          [⟨.gesture g, answer⟩, ⟨.stepEnds (Job.faultOf answer), ()⟩]) ∧
        o = answer.map fun _ => .null := by
  obtain ⟨e, given⟩ := errand_of_changes changes
  rw [perform_eq given] at run
  rcases Errand.run_step_cases run with
    ⟨fault, untitled, rfl, rfl⟩ | ⟨title, inner, ended, titled, rfl, held, rfl⟩
  · exact .inl ⟨fault, rfl, rfl, .inl ⟨⟨e, given, untitled⟩, rfl⟩⟩
  rcases course_of_errand given titled held with ⟨fault, stops, rfl⟩ | ⟨before, g, prepares, rfl⟩
  · refine .inl ⟨fault, rfl, ?_, .inr ⟨title, inner, stops, rfl⟩⟩
    rw [touched_started, touched_append, stops.untouched looks]
    rfl
  · refine .inr ⟨title, before, g, ended, prepares, prepares.untouched looks, ?_, rfl⟩
    rw [List.append_assoc]
    rfl

def secondVisible : Responder := fun past r =>
  match r with
  | .query .. => .ok (some [.element "hidden", .element "shown", .element "covered"])
  | .isVisible element => .ok (decide (element = .element "shown"))
  | r => Context.obliging past r

theorem deed_comes_last_secondVisible :
    let actor : Actor := ⟨[], .direct, 5000⟩
    let save := Action.doubleClick (.locator (LocatorOf.make .css "button" .null)) .null
    let play := (actor.perform (.ofBase (.place "page")) save).run.against secondVisible []
    let deed : Gesture := ⟨.element "shown", .doubleClick, [], [actor.timeoutOption]⟩
    save.changes = true ∧ actor.driver.OnlyLooks ∧ play.2 = .ok .null ∧
      ∃ title before, Prepares actor (.ofBase (.place "page")) save before deed ∧
        touched before = [] ∧ play.1 = ⟨.stepStarts title, ()⟩ ::
          (before ++ [⟨.gesture deed, .ok ()⟩, ⟨.stepEnds none, ()⟩]) := by
  intro actor save play deed
  have done : play.2 = .ok .null := rfl
  refine ⟨rfl, Driver.onlyLooks_direct, done, ?_⟩
  have run : Job.Run (actor.perform (.ofBase (.place "page")) save) play.1 play.2 :=
    Script.run_against secondVisible [] _
  rcases deed_comes_last rfl Driver.onlyLooks_direct run with
    ⟨fault, failed, _⟩ | ⟨title, before, g, answer, prepares, untouched, course, ends⟩
  · rw [done] at failed
    cases failed
  · have same : touched play.1 = [deed] := rfl
    rw [course, touched_started, touched_append, untouched] at same
    obtain rfl : g = deed := List.head_eq_of_cons_eq same
    rw [done] at ends
    cases answer with
    | error fault => cases ends
    | ok _ => exact ⟨title, before, prepares, untouched, course⟩

end Actor

end ElementSearch
