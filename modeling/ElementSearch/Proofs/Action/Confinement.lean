import ElementSearch.Proofs.Action.Errand
import ElementSearch.Proofs.Scope.Blocks

/-! Where actions call the driver.
An action narrows the search at the context's root, looks for its target at the root that this led
to, and looks for options at the element it found; it calls the driver nowhere else, in no other
order, and it leaves the context as it was.  Narrowing to a frame from inside the scope of an
element is refused before the driver is called. -/

namespace ElementSearch

def calls (t : List Exchange) : List Exchange := t.filter fun e => e.request.place?.isSome

def AllAt (root : Handle) (called : List Exchange) : Prop :=
  ∀ e ∈ called, e.request.place? = some root

@[simp] theorem calls_nil : calls [] = [] := rfl

@[simp] theorem calls_append (t₁ t₂ : List Exchange) : calls (t₁ ++ t₂) = calls t₁ ++ calls t₂ :=
  List.filter_append ..

theorem calls_of_quiet {t : List Exchange} (quiet : ∀ e ∈ t, e.request.Quiet) : calls t = [] := by
  rw [calls, List.filter_eq_nil_iff]
  intro e mem
  rw [(quiet e mem).1]
  decide

theorem allAt_of_searches {root : Handle} {t : List Exchange}
    (searches : ∀ e ∈ t, e.request.Searches root) : AllAt root (calls t) := by
  intro e mem
  obtain ⟨here, called⟩ := List.mem_filter.mp mem
  obtain ⟨place, isPlace⟩ := Option.isSome_iff_exists.mp called
  rw [isPlace, (searches e here).1 place isPlace]

theorem calls_titled (title : String) (fault : Option Fault) (inner : List Exchange) :
    calls (⟨.stepStarts title, ()⟩ :: (inner ++ [⟨.stepEnds fault, ()⟩])) = calls inner := by
  have opening : calls [⟨.stepStarts title, ()⟩] = [] := rfl
  have closing : calls [⟨.stepEnds fault, ()⟩] = [] := rfl
  rw [← List.singleton_append, calls_append, calls_append, opening, closing, List.append_nil,
    List.nil_append]

namespace Action

/-- The run of an action's narrowing from the context's root; there is none if it is not given. -/
def Narrows (actor : Actor) (c : Context) (a : Action) (t : List Exchange) (o : Outcome Handle) :
    Prop :=
  if a.narrowing.isNull then t = [] ∧ o = .ok c.root
  else Job.Run (Scope.narrow actor.filters actor.driver a.narrowing c.root) t o

def Looks (actor : Actor) (a : Action) (root : Handle) (t : List Exchange)
    (o : Outcome (List Handle)) : Prop :=
  Job.Run (Lookup.resolve actor.filters actor.driver a.target a.family root) t o

/-- The calls of the driver in an action, stage by stage, and the fault that the action ends with.
Only an action that fails leaves out the search. -/
inductive Confined (actor : Actor) (c : Context) (a : Action) :
    List Exchange → Option Fault → Prop
  /-- the driver is not called -/
  | idle {fault : Fault} : Confined actor c a [] (some fault)
  /-- narrowing fails -/
  | astray {t : List Exchange} {fault : Fault} (narrowed : Narrows actor c a t (.error fault))
      (here : AllAt c.root (calls t)) : Confined actor c a (calls t) (some fault)
  /-- narrowing leads to a root, and the target is looked for there; that is all, unless it is a
  list of options and found -/
  | searched {t t' : List Exchange} {root : Handle} {o : Outcome (List Handle)}
      {failed : Option Fault}
      (narrowed : Narrows actor c a t (.ok root)) (here : AllAt c.root (calls t))
      (looked : Looks actor a root t' o) (there : AllAt root (calls t'))
      (finished : ∀ select option first others, a = .selectOption select option →
        o ≠ .ok (first :: others)) :
      Confined actor c a (calls t ++ calls t') failed
  /-- a list is found, and its options are looked for below it -/
  | chosen {t t' t'' : List Exchange} {root first : Handle} {others : List Handle}
      {select option : Value} {o : Outcome Lookup.OptionMatch} {failed : Option Fault}
      (isSelect : a = .selectOption select option)
      (narrowed : Narrows actor c a t (.ok root)) (here : AllAt c.root (calls t))
      (looked : Looks actor a root t' (.ok (first :: others))) (there : AllAt root (calls t'))
      (chose : Job.Run (Lookup.resolveOptions actor.driver first option) t'' o)
      (below : AllAt first (calls t'')) :
      Confined actor c a (calls t ++ (calls t' ++ calls t'')) failed

variable {actor : Actor} {c : Context} {a : Action} {t t' t'' : List Exchange} {root : Handle}

theorem narrows_of_searchRoot {o : Outcome Handle}
    (run : Job.Run (actor.searchRoot c a.narrowing) t o) :
    (t = [] ∧ ∃ fault, o = .error fault) ∨ Narrows actor c a t o := by
  unfold Narrows
  unfold Actor.searchRoot at run
  split
  · rename_i absent
    rw [if_pos absent] at run
    exact .inr (Job.run_pure_iff.mp run)
  · rename_i given
    rw [if_neg given] at run
    rcases Job.run_lift_bind_cases run with ⟨fault, _, rfl, rfl⟩ | ⟨l, checked, run⟩
    · exact .inl ⟨rfl, fault, rfl⟩
    · refine .inr ?_
      rw [Scope.narrow, Job.run_lift_bind_ok (Scope.classify_of_checked checked)]
      exact run

end Action

theorem calls_of_complaint {actor : Actor} {target : Value} {family : Family} {t : List Exchange}
    {p q : Prop}
    (complained : (∀ e ∈ t, e.request.Quiet) ∧ p ∨ actor.Complains target family t ∧ q) :
    calls t = [] := by
  rcases complained with ⟨quiet, _⟩ | ⟨⟨_, _, _, _, rfl⟩, _⟩
  · exact calls_of_quiet quiet
  · rfl

namespace Errand

open ElementSearch.Action (Confined)

variable {actor : Actor} {c : Context} {a : Action} {e : Errand} {t : List Exchange}

theorem narrows_iff {o : Outcome Handle} (given : actor.errand? a = some e) :
    Narrows actor c e t o ↔ Job.Run (actor.searchRoot c a.narrowing) t o := by
  rw [Narrows, (Actor.errand_parts given).2.2]

theorem looks_iff {root : Handle} {o : Outcome (List Handle)} (given : actor.errand? a = some e) :
    Looks actor e root t o ↔ Action.Looks actor a root t o := by
  obtain ⟨target, family, _⟩ := Actor.errand_parts given
  rw [Looks, Action.Looks, target, family]

theorem narrows_cases {o : Outcome Handle} (direct : actor.driver = .direct)
    (given : actor.errand? a = some e) (narrowed : Narrows actor c e t o) :
    (t = [] ∧ ∃ fault, o = .error fault) ∨
      Action.Narrows actor c a t o ∧ AllAt c.root (calls t) := by
  have searches := Job.Asks.of_run (Actor.searches_searchRoot direct c e.narrowing) narrowed
  rcases Action.narrows_of_searchRoot ((narrows_iff given).mp narrowed) with refused | narrowed
  · exact .inl refused
  · exact .inr ⟨narrowed, allAt_of_searches searches⟩

theorem looks_action {root : Handle} {o : Outcome (List Handle)} (direct : actor.driver = .direct)
    (given : actor.errand? a = some e) (looked : Looks actor e root t o) :
    Action.Looks actor a root t o ∧ AllAt root (calls t) := by
  have looked := (looks_iff given).mp looked
  refine ⟨looked, allAt_of_searches (Job.Asks.of_run ?_ looked)⟩
  rw [direct]
  exact Lookup.searches_resolve ..

theorem confined_of_course {o : Outcome Unit} (direct : actor.driver = .direct)
    (given : actor.errand? a = some e) (course : Course actor c e t o) :
    Confined actor c a (calls t) (Job.faultOf o) := by
  cases course with
  | speechless => exact .idle
  | astray _ narrowed =>
    rcases narrows_cases direct given narrowed with ⟨rfl, _⟩ | ⟨narrowed, here⟩
    · exact .idle
    · exact .astray narrowed here
  | failed _ narrowed looked =>
    obtain ⟨narrowed, here⟩ := (narrows_cases direct given narrowed).resolve_left (by simp)
    obtain ⟨looked, there⟩ := looks_action direct given looked
    rw [calls_append]
    exact .searched narrowed here looked there (by simp)
  | missed _ narrowed looked complained =>
    obtain ⟨narrowed, here⟩ := (narrows_cases direct given narrowed).resolve_left (by simp)
    obtain ⟨looked, there⟩ := looks_action direct given looked
    rw [calls_append, calls_append, calls_of_complaint complained, List.append_nil]
    exact .searched narrowed here looked there (by simp)
  | found _ narrowed looked followed =>
    obtain ⟨narrowed, here⟩ := (narrows_cases direct given narrowed).resolve_left (by simp)
    obtain ⟨looked, there⟩ := looks_action direct given looked
    rw [calls_append, calls_append]
    rcases Actor.follow_cases given with ⟨other, quiet⟩ | ⟨select, option, isSelect, chooses⟩
    · rw [calls_of_quiet ((quiet _ _).of_run followed), List.append_nil]
      exact .searched narrowed here looked there fun select option _ _ same =>
        absurd same (other select option)
    · rw [chooses] at followed
      obtain ⟨t₁, t₂, found, rfl, chose, quiet⟩ := Actor.run_choose followed
      rw [calls_append, calls_of_quiet quiet, List.append_nil]
      refine .chosen isSelect narrowed here looked there chose ?_
      rw [direct] at chose
      exact allAt_of_searches ((Lookup.searches_resolveOptions _ _).of_run chose)

end Errand

namespace Actor

open ElementSearch.Action (Confined)

variable {actor : Actor} {c : Context} {a : Action} {t : List Exchange}

theorem run_titledBy {words : String} {locator : Value} {j : Job Unit} {o : Outcome Value}
    (run : Job.Run (titledBy words locator j) t o) :
    (t = [] ∧ ∃ fault, o = .error fault) ∨
      ∃ inner ended, calls t = calls inner ∧ Job.Run j inner ended := by
  rcases Job.run_lift_bind_cases run with ⟨fault, _, rfl, rfl⟩ | ⟨name, _, run⟩
  · exact .inl ⟨rfl, fault, rfl⟩
  refine .inr ?_
  rcases Job.run_bind_iff.mp run with ⟨_, step, _⟩ | ⟨_, _, _, rfl, step, rest⟩
  · obtain ⟨inner, rfl, held⟩ := Job.run_titled step
    exact ⟨inner, _, calls_titled .., held⟩
  · obtain ⟨rfl, _⟩ := Job.run_pure_iff.mp rest
    obtain ⟨inner, rfl, held⟩ := Job.run_titled step
    exact ⟨inner, _, by rw [List.append_nil, calls_titled], held⟩

theorem confined_of_counting {α : Type} {k : Nat → Job α} {o : Outcome α} {failed : Option Fault}
    (direct : actor.driver = .direct) (here : a.narrowing.isNull = true)
    (family : a.family = .element) (quiet : ∀ n, Job.Asks Request.Quiet (k n))
    (run : Job.Run (actor.countVisible c a.target >>= k) t o) :
    Confined actor c a (calls t) failed := by
  have narrowed : Action.Narrows actor c a [] (.ok c.root) := by
    rw [Action.Narrows, if_pos here]
    exact ⟨rfl, rfl⟩
  have searched {t' : List Exchange} {o' : Outcome (List Handle)}
      (looked : Job.Run (Lookup.resolve actor.filters actor.driver a.target .element c.root)
        t' o') :
      Confined actor c a (calls t') failed := by
    have there : AllAt c.root (calls t') := by
      rw [direct] at looked
      exact allAt_of_searches ((Lookup.searches_resolve ..).of_run looked)
    rw [← family] at looked
    refine .searched narrowed (fun _ mem => nomatch mem) looked there ?_
    rintro _ _ _ _ rfl
    cases family
  rw [countVisible, bind_assoc] at run
  rcases Job.run_bind_iff.mp run with ⟨_, looked, _⟩ | ⟨t₁, t₂, elements, rfl, looked, rest⟩
  · exact searched looked
  · have silent : Job.Asks Request.Quiet (do
        let shown ← visible elements
        k shown.length) := (quiet_visible elements).bind fun _ => quiet _
    rw [bind_assoc] at rest
    rw [calls_append, calls_of_quiet (silent.of_run rest), List.append_nil]
    exact searched looked

theorem quiet_disappoint (actor : Actor) (locator : Value) (complaint : String) :
    Job.Asks Request.Quiet (actor.disappoint locator complaint) :=
  (Job.asks_lift _).bind fun _ => (Job.asks_lift _).bind fun _ => Job.asks_throw _

theorem confined_of_perform {o : Outcome Value} (direct : actor.driver = .direct)
    (run : Job.Run (actor.perform c a) t o) : Confined actor c a (calls t) (Job.faultOf o) := by
  cases given : actor.errand? a with
  | some e =>
    rw [perform_eq given] at run
    rcases Errand.run_cases run with ⟨_, _, rfl, rfl⟩ | ⟨_, _, _, _, rfl, course, rfl⟩
    · exact .idle
    · rw [calls_titled, Job.faultOf_map]
      exact Errand.confined_of_course direct given course
  | none =>
    cases a with
    | seeElement locator | dontSeeElement locator =>
      rcases run_titledBy run with ⟨rfl, _, rfl⟩ | ⟨inner, _, same, counted⟩
      · exact .idle
      · rw [same]
        refine confined_of_counting direct rfl rfl (fun n => ?_) counted
        split
        · exact quiet_disappoint ..
        · exact Job.asks_pure _
    | countVisible locator =>
      exact confined_of_counting direct rfl rfl (fun n => Job.asks_pure _) run
    | _ => cases given

end Actor

theorem Cause.fault_nestedScope {l active : Locator} (named : (Value.locator active).Named) :
    ((Value.locator l).Named → ∃ message,
      (nestedScope (.locator l) (.locator active)).fault =
        .search (.nestedScope (.locator l) (.locator active)) message) ∧
      ∀ fault, (Value.locator l).display = .error fault →
        (nestedScope (.locator l) (.locator active)).fault = fault := by
  obtain ⟨inner, isInner⟩ := named
  have described : (nestedScope (.locator l) (.locator active)).describe =
      (Value.locator l).display.map fun outer =>
        "Can't switch to frame " ++ outer ++ " inside element scope " ++ inner := by
    change (Value.locator l).display >>= _ = _
    cases (Value.locator l).display with
    | error fault => rfl
    | ok outer =>
      change (Value.locator active).display >>= _ = _
      rw [isInner]
      rfl
  constructor
  · rintro ⟨outer, isOuter⟩
    rw [isOuter] at described
    exact ⟨_, fault_eq described⟩
  · intro fault unnamed
    rw [unnamed] at described
    rw [Cause.fault, described]
    rfl

theorem Errand.Course.refused {actor : Actor} {c : Context} {e : Errand} {t : List Exchange}
    {ended : Outcome Unit} {fault : Fault} (course : Course actor c e t ended)
    (given : e.narrowing.isNull = false)
    (refused : Scope.checkNesting actor.filters c e.narrowing = .error fault) :
    t = [] ∧ ∃ fault', ended = .error fault' ∧ (e.clause = .error fault' ∨ fault' = fault) := by
  have nowhere {t : List Exchange} {o : Outcome Handle} (narrowed : Errand.Narrows actor c e t o) :
      t = [] ∧ o = .error fault := by
    rw [Errand.Narrows, Actor.searchRoot, if_neg (by simp [given]), refused] at narrowed
    exact Job.run_throw_iff.mp narrowed
  cases course with
  | speechless unworded => exact ⟨rfl, _, rfl, .inl unworded⟩
  | astray _ narrowed =>
    obtain ⟨rfl, same⟩ := nowhere narrowed
    exact ⟨rfl, _, rfl, .inr (Except.error.inj same)⟩
  | failed _ narrowed | missed _ narrowed | found _ narrowed => cases (nowhere narrowed).2

namespace Actor

variable {actor : Actor} {c : Context} {a : Action} {t : List Exchange} {l : Locator}

theorem errand_of_narrowed (narrowed : a.narrowing.isNull = false)
    (classified : Scope.classify actor.filters a.narrowing = .ok l) :
    ∃ e, actor.errand? a = some e ∧ (∃ words, e.title = a.target.display.map (words ++ ·)) ∧
      ∀ fault, e.clause = .error fault → (Value.locator l).display = .error fault := by
  have clause (fault : Fault) (failed : actor.clickableClauseText a.narrowing = .error fault) :
      (Value.locator l).display = .error fault := by
    rw [clickableClauseText, if_neg (by simp [narrowed]), classified] at failed
    rcases Outcome.bind_eq_error (o := (Value.locator l).display) failed with unnamed | ⟨_, _, done⟩
    · exact unnamed
    · cases done
  cases a with
  | click _ _ | doubleClick _ _ | rightClick _ _ => exact ⟨_, rfl, ⟨_, rfl⟩, clause⟩
  | checkOption _ _ | uncheckOption _ _ => exact ⟨_, rfl, ⟨_, rfl⟩, by simp [ticking]⟩
  | _ => cases narrowed

/-- How an action on the target ends that was to be narrowed to the frame inside the scope of an
element: with a refusal that names both, or as displaying the target or else the frame does. -/
structure IsRefusal {α : Type} (target : Value) (l active : Locator) (o : Outcome α) : Prop where
  byName : target.Named → (Value.locator l).Named → ∃ message,
    o = .error (.search (.nestedScope (.locator l) (.locator active)) message)
  untitled : ∀ fault, target.display = .error fault → o = .error fault
  unworded : target.Named → ∀ fault, (Value.locator l).display = .error fault → o = .error fault

theorem IsRefusal.map {α β : Type} {target : Value} {active : Locator} {o : Outcome α}
    (refusal : IsRefusal target l active o) (f : α → β) :
    IsRefusal target l active (o.map f) where
  byName named frameNamed := by
    obtain ⟨message, rfl⟩ := refusal.byName named frameNamed
    exact ⟨message, rfl⟩
  untitled fault failed := by rw [refusal.untitled fault failed, Except.map]
  unworded named fault failed := by rw [refusal.unworded named fault failed, Except.map]

theorem refused_of_perform {o : Outcome Value} (reached : Context.Reachable c)
    (narrowed : a.narrowing.isNull = false)
    (classified : Scope.classify actor.filters a.narrowing = .ok l) (frame : l.kind = .frame)
    (inside : c.inElement = true) (run : Job.Run (actor.perform c a) t o) :
    calls t = [] ∧ ∃ active, c.active = some active ∧ IsRefusal a.target l active o := by
  obtain ⟨scope, found, active, named⟩ := reached.named_onTop inside
  have refused := Scope.allow_of_inside frame inside found
  rw [← Scope.checkNesting_of_classify classified] at refused
  obtain ⟨byName, unnamed⟩ := Cause.fault_nestedScope (l := l) named
  obtain ⟨e, given, ⟨words, title⟩, clause⟩ := errand_of_narrowed narrowed classified
  rw [perform_eq given] at run
  -- the title names the target before the guard is asked; the words for a failure, or else the
  -- refusal, name the frame
  rcases Errand.run_cases run with
    ⟨fault, untitled, rfl, rfl⟩ | ⟨_, inner, ended, titled, rfl, course, rfl⟩
  · rw [title] at untitled
    have failed := Outcome.map_eq_error untitled
    refine ⟨rfl, _, active, fun shown => absurd shown (Value.unnamed_of_error failed),
      fun fault' same => ?_, fun shown => absurd shown (Value.unnamed_of_error failed)⟩
    rw [Except.error.inj (failed.symm.trans same)]
  rw [title] at titled
  obtain ⟨name, isName, _⟩ := Outcome.map_eq_ok titled
  have shown (fault : Fault) (failed : a.target.display = .error fault) : False :=
    Value.unnamed_of_error failed ⟨name, isName⟩
  obtain ⟨rfl, fault, rfl, unworded | rfl⟩ := course.refused ((errand_parts given).2.2 ▸ narrowed)
    ((errand_parts given).2.2 ▸ refused)
  · have failed := clause fault unworded
    refine ⟨rfl, _, active, fun _ both => absurd both (Value.unnamed_of_error failed),
      fun fault' untitled => (shown fault' untitled).elim, fun _ fault' same => ?_⟩
    rw [failed] at same
    rw [Except.error.inj same, Except.map]
  · refine ⟨rfl, _, active, fun _ both => ?_,
      fun fault' untitled => (shown fault' untitled).elim, fun _ fault' failed => ?_⟩
    · obtain ⟨message, same⟩ := byName both
      exact ⟨message, by rw [same]; rfl⟩
    · rw [unnamed fault' failed]
      rfl

end Actor

namespace Procedure

variable {actor : Actor} {c c' : Context} {a : Action} {t : List Exchange}

theorem run_act {o : Outcome Result} (run : Scoped.Run (runMove actor (.act a)) c t o c') :
    c' = c ∧ ∃ o', Job.Run (actor.perform c a) t o' ∧ o = o'.map .value := by
  rw [runMove, Scoped.Run, Scoped.run_context_bind] at run
  obtain ⟨o', performed, same⟩ := Scoped.run_map_iff.mp run
  obtain ⟨performed, left⟩ := Scoped.run_ofJob_iff.mp performed
  exact ⟨left, o', performed, same⟩

/-- In every reachable context, whatever the world does: an action leaves the context as it was, it
calls the driver as `Confined` says, and narrowing it to a frame inside the scope of an element is
refused without a call. -/
theorem action_confined {c : Context} (reached : c.Reachable) (filters : List Filter)
    (timeout : Int) (a : Action) (world : Responder) :
    let actor : Actor := ⟨filters, .direct, timeout⟩
    let play := ((runMove actor (.act a)).run c).against world []
    play.2.2 = c ∧ Action.Confined actor c a (calls play.1) (Job.faultOf play.2.1) ∧
      ∀ l, a.narrowing.isNull = false → Scope.classify filters a.narrowing = .ok l →
        l.kind = .frame → c.inElement = true →
        calls play.1 = [] ∧ ∃ active, c.active = some active ∧
          Actor.IsRefusal a.target l active play.2.1 := by
  intro actor play
  have run : Scoped.Run (runMove actor (.act a)) c play.1 play.2.1 play.2.2 :=
    Script.run_against world [] _
  obtain ⟨same, o, performed, ends⟩ := run_act run
  refine ⟨same, ?_, ?_⟩
  · rw [ends, Job.faultOf_map]
    exact Actor.confined_of_perform rfl performed
  intro l narrowed classified frame inside
  obtain ⟨uncalled, active, isActive, refusal⟩ :=
    Actor.refused_of_perform reached narrowed classified frame inside performed
  rw [ends]
  exact ⟨uncalled, active, isActive, refusal.map _⟩

def cardOnPage : Context := ⟨.place "page", [⟨Context.card, .element "card"⟩]⟩

theorem reachable_cardOnPage : cardOnPage.Reachable := by
  have run : Scoped.Run (runMove ⟨[], .direct, 0⟩ (.push (.locator Context.card)))
      (.ofBase (.place "page")) _ _ cardOnPage := Script.run_against Context.obliging [] _
  exact ⟨.place "page", .move (.stay _) run⟩

theorem action_confined_cardOnPage :
    let play := ((runMove ⟨[], .direct, 0⟩
      (.act (.click (.text "a") (.locator Context.innerFrame)))).run cardOnPage).against
        Context.obliging []
    play.2.2 = cardOnPage ∧ calls play.1 = [] ∧ ∃ message,
      play.2.1 = .error (.search
        (.nestedScope (.locator Context.innerFrame) (.locator Context.card)) message) := by
  obtain ⟨same, _, refused⟩ := action_confined reachable_cardOnPage [] 0
    (.click (.text "a") (.locator Context.innerFrame)) Context.obliging
  obtain ⟨uncalled, active, isActive, refusal⟩ := refused Context.innerFrame rfl rfl rfl rfl
  obtain rfl : Context.card = active := Option.some.inj isActive
  exact ⟨same, uncalled, refusal.byName ⟨_, rfl⟩ ⟨_, rfl⟩⟩

/-- A frame that nothing can name is refused with a fault of another sort. -/
theorem nameless_frame_refused :
    cardOnPage.Reachable ∧ cardOnPage.inElement = true ∧ namelessFrame.kind = .frame ∧
      Scope.classify [] (.locator namelessFrame) = .ok namelessFrame ∧
      ∀ world : Responder,
        let play := ((runMove ⟨[], .direct, 0⟩
          (.act (.click (.text "a") (.locator namelessFrame)))).run cardOnPage).against world []
        calls play.1 = [] ∧ play.2.1 = .error .wrongType :=
  ⟨reachable_cardOnPage, rfl, rfl, rfl, fun _ => ⟨rfl, rfl⟩⟩

end Procedure

end ElementSearch
