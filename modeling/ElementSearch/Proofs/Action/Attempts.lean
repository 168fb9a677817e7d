import ElementSearch.Proofs.Action.Confinement
import ElementSearch.Proofs.Lookup.Walk

/-! What the report says was asked.
When an action has found nothing, it classifies its target again and builds its tiers again for the
report, apart from the search.  The two agree: the report lists the queries that the search put to
the driver, each once and in order.  An action that ends in any other way attaches nothing. -/

namespace ElementSearch

def attachments (t : List Exchange) : List Attachment := t.filterMap fun e => e.request.attachment?

@[simp] theorem attachments_append (t₁ t₂ : List Exchange) :
    attachments (t₁ ++ t₂) = attachments t₁ ++ attachments t₂ := List.filterMap_append

theorem attachments_eq_nil {t : List Exchange} (none : ∀ e ∈ t, e.request.attachment? = none) :
    attachments t = [] := List.filterMap_eq_nil_iff.mpr none

theorem attachments_of_quiet {t : List Exchange} (quiet : ∀ e ∈ t, e.request.Quiet) :
    attachments t = [] := attachments_eq_nil fun e mem => (quiet e mem).2

theorem attachments_of_searches {root : Handle} {t : List Exchange}
    (searches : ∀ e ∈ t, e.request.Searches root) : attachments t = [] :=
  attachments_eq_nil fun e mem => (searches e mem).2

theorem attachments_titled (title : String) (fault : Option Fault) (inner : List Exchange) :
    attachments (⟨.stepStarts title, ()⟩ :: (inner ++ [⟨.stepEnds fault, ()⟩])) =
      attachments inner := by
  have opening : attachments [⟨.stepStarts title, ()⟩] = [] := rfl
  have closing : attachments [⟨.stepEnds fault, ()⟩] = [] := rfl
  rw [← List.singleton_append, attachments_append, attachments_append, opening, closing,
    List.append_nil, List.nil_append]

theorem Tier.tiersOf_of_query {l : Locator} {family : Family} {q : Query}
    (known : l.kind ≠ .unknown) (exact : l.kind ≠ .fuzzy) (compiled : l.toQuery = .ok q) :
    tiersOf l family = .ok [⟨1, l.kind.label, q, false⟩] := by
  unfold tiersOf
  split
  · contradiction
  · contradiction
  · rw [compiled]
    rfl

namespace Lookup

variable {l : Locator} {family : Family} {root : Handle} {asked : List Inquiry}

theorem queries_of_passed {tiers : List Tier} (passed : List.Forall₂ (Passed root) tiers asked) :
    tiers.map Tier.query = asked.map Inquiry.query := by
  induction passed with
  | nil => rfl
  | cons head _ ih => rw [List.map_cons, List.map_cons, ih, head.1.1]

theorem queries_of_walked {tiers : List Tier} (walked : Walked tiers root asked (.ok [])) :
    tiers.map Tier.query = asked.map Inquiry.query := by
  obtain ⟨passed, before, all, ⟨t, _, a, _, _, _, settled, found⟩ | ⟨rfl, rfl, _⟩⟩ := walked
  · rw [← found] at settled
    cases settled
  · exact queries_of_passed all

theorem tiersOf_of_nothing (searched : Searched l family root asked (.ok [])) :
    ∃ tiers, Tier.tiersOf l family = .ok tiers ∧
      tiers.map Tier.query = asked.map Inquiry.query := by
  -- a locator of one query is listed as one tier, with that query
  have single (other : l.kind ≠ .unknown ∧ l.kind ≠ .fuzzy)
      (once : AskedOnce l root asked (.ok [])) :
      ∃ tiers, Tier.tiersOf l family = .ok tiers ∧
        tiers.map Tier.query = asked.map Inquiry.query := by
    unfold AskedOnce at once
    split at once
    · cases once.2
    rename_i q compiled
    split at once
    · cases once.2
    obtain ⟨a, rfl, rfl, _⟩ := once
    exact ⟨_, Tier.tiersOf_of_query other.1 other.2 compiled, rfl⟩
  unfold Searched at searched
  cases kind : l.kind with rw [kind] at searched
  | unknown =>
    obtain ⟨rfl, _⟩ := searched
    exact ⟨[], Tier.tiersOf_unknown kind family, rfl⟩
  | frame =>
    obtain ⟨_, refused⟩ := searched
    unfold Refused at refused
    split at refused <;> cases refused
  | fuzzy =>
    simp only [SearchedInTiers] at searched
    split at searched
    · cases searched.2
    rename_i tiers built
    refine ⟨tiers, built, ?_⟩
    split at searched
    · obtain ⟨t, rest, a, _, _, _, ended⟩ := searched
      split at ended <;> cases ended
    · exact queries_of_walked searched
  | css | xpath | id | name | custom | react | vue | shadow =>
    exact single (by rw [kind]; decide) searched

theorem not_silent_log {level : Level} {text : String} {rest : Job (List Handle)}
    {o : Outcome (List Handle)} :
    ¬Job.Run (do
      Job.log level text
      rest) [] o := by
  intro run
  obtain ⟨_, _, impossible, _⟩ := Job.run_report_bind.mp run
  cases impossible

theorem not_silent_searchTiers {tiers : List Tier} {elements : List Handle} :
    ¬Job.Run (searchTiers .direct l family root tiers) [] (.ok elements) := by
  intro run
  unfold searchTiers at run
  cases tiers with
  | nil =>
    obtain ⟨_, _, run⟩ := Job.run_lift_bind_ends run
    exact not_silent_log run
  | cons t rest =>
    rcases Job.run_bind_iff.mp run with ⟨_, _, impossible⟩ | ⟨t₁, t₂, found, split, tried, _⟩
    · cases impossible
    · obtain ⟨rfl, _⟩ := List.append_eq_nil_iff.mp split.symm
      obtain ⟨_, _, impossible, _⟩ := run_runTier tried
      cases impossible

theorem not_silent_resolveDirectly {elements : List Handle} :
    ¬Job.Run (resolveDirectly .direct l root) [] (.ok elements) := by
  intro run
  obtain ⟨_, _, run⟩ := Job.run_lift_bind_ends run
  obtain ⟨_, _, run⟩ := Job.run_lift_bind_ends run
  obtain ⟨_, _, run⟩ := Job.run_lift_bind_ends run
  obtain ⟨_, _, run⟩ := Job.run_lift_bind_ends run
  exact not_silent_log run

theorem not_silent_resolve {filters : List Filter} {v : Value} {elements : List Handle} :
    ¬Job.Run (resolve filters .direct v family root) [] (.ok elements) := by
  intro run
  obtain ⟨l, _, run⟩ := Job.run_lift_bind_ends run
  unfold resolveLocator at run
  cases kind : l.kind with rw [kind] at run
  | frame =>
    obtain ⟨_, _, run⟩ := Job.run_lift_bind_ends run
    cases (Job.run_throw_iff.mp run).2
  | unknown =>
    obtain ⟨_, _, run⟩ := Job.run_lift_bind_ends run
    exact not_silent_log run
  | fuzzy =>
    obtain ⟨_, _, run⟩ := Job.run_lift_bind_ends run
    exact not_silent_searchTiers run
  | css | xpath | id | name | custom | react | vue | shadow => exact not_silent_resolveDirectly run

end Lookup

namespace Actor

variable {actor : Actor} {target : Value} {family : Family}

theorem attempts_ok {attachment : Attachment}
    (made : actor.attempts target family = .ok attachment) :
    ∃ l name tiers, LocatorOf.classify actor.filters .fuzzy false target = .ok l ∧
      (Value.locator l).display = .ok name ∧ Tier.tiersOf l family = .ok tiers ∧
      Attachment.ofAttempts name family.label tiers = .ok attachment := by
  obtain ⟨l, found, made⟩ := Outcome.bind_eq_ok made
  obtain ⟨name, named, made⟩ := Outcome.bind_eq_ok made
  obtain ⟨tiers, built, made⟩ := Outcome.bind_eq_ok made
  exact ⟨l, name, tiers, found, named, built, made⟩

theorem attempts_error {l : Locator} {tiers : List Tier} {fault : Fault}
    (found : LocatorOf.classify actor.filters .fuzzy false target = .ok l)
    (built : Tier.tiersOf l family = .ok tiers)
    (failed : actor.attempts target family = .error fault) : ∃ v : Value, v.Hinders fault := by
  rw [attempts, Outcome.bind_of_ok found] at failed
  rcases Outcome.bind_eq_error failed with unnamed | ⟨name, _, failed⟩
  · exact ⟨_, Value.hinders_of_display unnamed⟩
  rw [Outcome.bind_of_ok built] at failed
  rcases Outcome.bind_eq_error failed with unwritten | ⟨_, _, done⟩
  · exact ⟨_, (Value.ofValue_error _ (Outcome.map_eq_error unwritten)).1⟩
  · cases done

end Actor

theorem Cause.fault_elementNotFound {target : Value} {role clause : String} (named : target.Named)
    (keyed : target.textKeyed = true) :
    (∃ message, (elementNotFound target (.text role) (.text clause)).fault =
      .search (.elementNotFound target (.text role) (.text clause)) message) ∨
      (∃ entries, target = .dict entries) ∧ target.HoldsUnnamed ∧
        (elementNotFound target (.text role) (.text clause)).fault = .wrongType := by
  have described : (elementNotFound target (.text role) (.text clause)).describe =
      target.rendered.map fun shown => role ++ " " ++ shown ++ " " ++ clause := by
    simp only [describe, Value.display_text]
    cases target.rendered <;> rfl
  cases rendered : target.rendered with
  | ok shown =>
    rw [rendered] at described
    exact .inl ⟨_, fault_eq described⟩
  | error fault =>
    rw [rendered] at described
    have same : (elementNotFound target (.text role) (.text clause)).fault = fault := by
      rw [Cause.fault, described]
      rfl
    cases target with
    | dict entries =>
      -- an object is displayed as it is written out, so the numbers in it can be written
      have spelled : (Value.dict entries).Spelled := named
      obtain ⟨hinders, holds⟩ := Value.ofValue_error _ (Outcome.map_eq_error rendered)
      exact .inr ⟨⟨entries, rfl⟩, holds keyed spelled, same.trans (hinders.wrongType spelled)⟩
    | _ => exact absurd named (Value.unnamed_of_error rendered)

namespace Action

/-- The action has narrowed the search, and its own search has found nothing; `later` is what was
asked after the narrowing. -/
def FindsNothing (actor : Actor) (c : Context) (a : Action) (t later : List Exchange) : Prop :=
  ∃ title ended narrowing lookup rest root,
    t = ⟨.stepStarts title, ()⟩ :: (narrowing ++ later ++ [⟨.stepEnds ended, ()⟩]) ∧
      later = lookup ++ rest ∧ Job.Run (actor.searchRoot c a.narrowing) narrowing (.ok root) ∧
      Looks actor a root lookup (.ok [])

/-- The action ends with the complaint that its target was not found. -/
def Complaint (a : Action) (o : Outcome Result) : Prop :=
  ∃ role clause message, o = .error (.search (.elementNotFound a.target role clause) message)

/-- The report lists, in one attachment, what was asked: the tiers of the target, in order. -/
def Lists (actor : Actor) (a : Action) (attached : List Attachment) (asked : List Inquiry) : Prop :=
  ∃ l name tiers attachment, LocatorOf.classify actor.filters .fuzzy false a.target = .ok l ∧
    (Value.locator l).display = .ok name ∧ Tier.tiersOf l a.family = .ok tiers ∧
    Attachment.ofAttempts name a.family.label tiers = .ok attachment ∧ attached = [attachment] ∧
    tiers.map Tier.query = asked.map Inquiry.query

theorem tiers_of_looks {actor : Actor} {a : Action} {root : Handle} {t : List Exchange}
    (direct : actor.driver = .direct) (looked : Looks actor a root t (.ok [])) :
    ∃ l tiers, LocatorOf.classify actor.filters .fuzzy false a.target = .ok l ∧
      Tier.tiersOf l a.family = .ok tiers ∧
      tiers.map Tier.query = (Inquiry.listOf t).map Inquiry.query := by
  rw [Looks, direct] at looked
  obtain ⟨l, found, looked⟩ := Job.run_lift_bind_ends looked
  obtain ⟨tiers, built, agree⟩ := Lookup.tiersOf_of_nothing (Lookup.searched_of_run looked)
  exact ⟨l, tiers, found, built, agree⟩

end Action

namespace Errand

open ElementSearch.Action (Lists)

variable {actor : Actor} {c : Context} {a : Action} {e : Errand} {inner : List Exchange}
  {ended : Outcome Unit}

theorem Course.missed_of_split {narrowing lookup rest : List Exchange} {root : Handle}
    (direct : actor.driver = .direct) (course : Course actor c e inner ended)
    (split : inner = narrowing ++ (lookup ++ rest))
    (narrowed : Narrows actor c e narrowing (.ok root))
    (looked : Looks actor e root lookup (.ok [])) :
    ∃ clause fault, ended = .error fault ∧
      ((∀ x ∈ rest, x.request.Quiet) ∧ actor.attempts e.target e.family = .error fault ∨
        actor.Complains e.target e.family rest ∧
          fault = (Cause.elementNotFound e.target (.text e.role) (.text clause)).fault) := by
  -- the answers fix a run: the stages of the course are the ones given, and any other course ends
  -- one of them in another way
  cases course with
  | speechless =>
    obtain ⟨_, silent⟩ := List.append_eq_nil_iff.mp split.symm
    obtain ⟨rfl, _⟩ := List.append_eq_nil_iff.mp silent
    rw [Looks, direct] at looked
    exact absurd looked Lookup.not_silent_resolve
  | astray _ astray => cases (astray.unique narrowed ((List.append_nil inner).trans split)).2
  | failed _ narrowed' failed =>
    obtain ⟨rfl, same⟩ := narrowed'.unique narrowed split
    cases same
    have rest := List.append_cancel_left split
    cases (failed.unique looked ((List.append_nil _).trans rest)).2
  | missed _ narrowed' missed complained =>
    obtain ⟨rfl, same⟩ := narrowed'.unique narrowed split
    cases same
    have behind := List.append_cancel_left split
    obtain ⟨rfl, _⟩ := missed.unique looked behind
    obtain rfl := List.append_cancel_left behind
    exact ⟨_, _, rfl, complained⟩
  | found _ narrowed' found _ =>
    obtain ⟨rfl, same⟩ := narrowed'.unique narrowed split
    cases same
    cases (found.unique looked (List.append_cancel_left split)).2

theorem attachments_of_narrows {t : List Exchange} {o : Outcome Handle}
    (direct : actor.driver = .direct) (narrowed : Narrows actor c e t o) : attachments t = [] :=
  attachments_of_searches ((Actor.searches_searchRoot direct c e.narrowing).of_run narrowed)

theorem attachments_of_looks {root : Handle} {t : List Exchange} {o : Outcome (List Handle)}
    (direct : actor.driver = .direct) (looked : Looks actor e root t o) : attachments t = [] := by
  rw [Looks, direct] at looked
  exact attachments_of_searches ((Lookup.searches_resolve ..).of_run looked)

theorem attachments_of_follow {first : Handle} {others : List Handle} {t : List Exchange}
    {o : Outcome Unit} (direct : actor.driver = .direct) (given : actor.errand? a = some e)
    (followed : Job.Run (e.follow first others) t o) : attachments t = [] := by
  rcases Actor.follow_cases given with ⟨_, quiet⟩ | ⟨select, option, _, chooses⟩
  · exact attachments_of_quiet ((quiet first others).of_run followed)
  · rw [chooses] at followed
    obtain ⟨t₁, t₂, _, rfl, chose, quiet⟩ := Actor.run_choose followed
    rw [direct] at chose
    rw [attachments_append, attachments_of_quiet quiet, List.append_nil]
    exact attachments_of_searches ((Lookup.searches_resolveOptions _ _).of_run chose)

theorem attachments_of_course (direct : actor.driver = .direct) (given : actor.errand? a = some e)
    (course : Course actor c e inner ended) :
    attachments inner = [] ∨ ∃ narrowing lookup rest root clause,
      inner = narrowing ++ (lookup ++ rest) ∧ Narrows actor c e narrowing (.ok root) ∧
      Looks actor e root lookup (.ok []) ∧ actor.Complains e.target e.family rest ∧
      ended = .error (Cause.elementNotFound e.target (.text e.role) (.text clause)).fault := by
  cases course with
  | speechless => exact .inl rfl
  | astray _ narrowed => exact .inl (attachments_of_narrows direct narrowed)
  | failed _ narrowed looked =>
    refine .inl ?_
    rw [attachments_append, attachments_of_narrows direct narrowed,
      attachments_of_looks direct looked, List.nil_append]
  | missed _ narrowed looked complained =>
    rcases complained with ⟨quiet, _⟩ | ⟨complains, rfl⟩
    · refine .inl ?_
      rw [attachments_append, attachments_append, attachments_of_narrows direct narrowed,
        attachments_of_looks direct looked, attachments_of_quiet quiet, List.nil_append,
        List.nil_append]
    · exact .inr ⟨_, _, _, _, _, rfl, narrowed, looked, complains, rfl⟩
  | found _ narrowed looked followed =>
    refine .inl ?_
    rw [attachments_append, attachments_append, attachments_of_narrows direct narrowed,
      attachments_of_looks direct looked, attachments_of_follow direct given followed,
      List.nil_append, List.nil_append]

theorem lists_of_complained {narrowing lookup rest : List Exchange} {root : Handle}
    (direct : actor.driver = .direct) (given : actor.errand? a = some e)
    (narrowed : Narrows actor c e narrowing (.ok root))
    (looked : Looks actor e root lookup (.ok []))
    (complained : actor.Complains e.target e.family rest) :
    Lists actor a (attachments (narrowing ++ (lookup ++ rest)))
      (Inquiry.listOf (lookup ++ rest)) := by
  obtain ⟨l, tiers, found, built, agree⟩ :=
    Action.tiers_of_looks direct ((looks_iff given).mp looked)
  obtain ⟨target, family, _⟩ := Actor.errand_parts given
  rw [target, family] at complained
  obtain ⟨_, _, attachment, made, rfl⟩ := complained
  obtain ⟨l', name, tiers', found', named, built', made⟩ := Actor.attempts_ok made
  obtain rfl : l = l' := Except.ok.inj (found.symm.trans found')
  obtain rfl : tiers = tiers' := Except.ok.inj (built.symm.trans built')
  refine ⟨l, name, tiers, attachment, found, named, built, made, ?_, ?_⟩
  · rw [attachments_append, attachments_append, attachments_of_narrows direct narrowed,
      attachments_of_looks direct looked]
    rfl
  · rw [Inquiry.listOf_append, agree]
    exact congrArg _ (List.append_nil _).symm

theorem lists_of_missed {narrowing lookup rest : List Exchange} {root : Handle} {cause : Cause}
    {message : String} (direct : actor.driver = .direct) (given : actor.errand? a = some e)
    (course : Course actor c e (narrowing ++ (lookup ++ rest)) (.error (.search cause message)))
    (narrowed : Narrows actor c e narrowing (.ok root))
    (looked : Looks actor e root lookup (.ok [])) :
    Lists actor a (attachments (narrowing ++ (lookup ++ rest)))
      (Inquiry.listOf (lookup ++ rest)) := by
  obtain ⟨clause, fault, same, complained⟩ := course.missed_of_split direct rfl narrowed looked
  cases same
  rcases complained with ⟨_, failed⟩ | ⟨complains, _⟩
  · -- the tiers are known by now, so only a name can be missing, and that is no worded fault
    obtain ⟨l, tiers, found, built, _⟩ :=
      Action.tiers_of_looks direct ((looks_iff given).mp looked)
    obtain ⟨target, family, _⟩ := Actor.errand_parts given
    rw [target, family] at failed
    obtain ⟨_, impossible | ⟨impossible, _⟩⟩ := Actor.attempts_error found built failed <;>
      cases impossible
  · exact lists_of_complained direct given narrowed looked complains

end Errand

namespace Actor

variable {actor : Actor} {c : Context} {a : Action} {e : Errand} {t : List Exchange}

theorem errand_of_lookup (actor : Actor) (lookup : a.family ≠ .element) :
    ∃ e, actor.errand? a = some e := by
  cases a with
  | seeElement _ | dontSeeElement _ | countVisible _ => exact absurd rfl lookup
  | _ => exact ⟨_, rfl⟩

theorem named_of_title {title : String} (given : actor.errand? a = some e)
    (titled : e.title = .ok title) : a.target.Named := by
  cases a with
  | click _ _ | doubleClick _ _ | rightClick _ _ | checkOption _ _ | uncheckOption _ _
  | clearField _ =>
    cases given
    obtain ⟨name, named, _⟩ := Outcome.map_eq_ok titled
    exact ⟨name, named⟩
  | fillField _ _ =>
    cases given
    obtain ⟨name, named, _⟩ := Outcome.bind_eq_ok titled
    exact ⟨name, named⟩
  | selectOption _ _ =>
    cases given
    obtain ⟨_, _, titled⟩ := Outcome.bind_eq_ok titled
    obtain ⟨name, named, _⟩ := Outcome.bind_eq_ok titled
    exact ⟨name, named⟩
  | seeElement _ | dontSeeElement _ | countVisible _ => cases given

end Actor

namespace Errand

variable {actor : Actor} {c : Context} {a : Action} {e : Errand}

theorem listed_of_course {title : String} {inner : List Exchange} {ended : Outcome Unit}
    (direct : actor.driver = .direct) (given : actor.errand? a = some e)
    (titled : e.title = .ok title) (keyed : a.target.textKeyed = true)
    (course : Course actor c e inner ended) :
    attachments inner = [] ∨ ∃ fault later, ended = .error fault ∧
      a.FindsNothing actor c (⟨.stepStarts title, ()⟩ :: (inner ++ [⟨.stepEnds (some fault), ()⟩]))
        later ∧
      a.Lists actor (attachments inner) (Inquiry.listOf later) ∧
      ((∃ role clause message,
          fault = .search (.elementNotFound a.target role clause) message) ∨
        ((∃ entries, a.target = .dict entries) ∧ a.target.HoldsUnnamed) ∧ fault = .wrongType) := by
  rcases attachments_of_course direct given course with
    nothing | ⟨narrowing, found, rest, root, clause, rfl, narrowed, looked, complained, rfl⟩
  · exact .inl nothing
  obtain ⟨target, _⟩ := Actor.errand_parts given
  have worded := @Cause.fault_elementNotFound a.target e.role clause
    (Actor.named_of_title given titled) keyed
  refine .inr ⟨_, found ++ rest, rfl, ⟨title, _, narrowing, found, rest, root, rfl, rfl,
    (narrows_iff given).mp narrowed, (looks_iff given).mp looked⟩,
    lists_of_complained direct given narrowed looked complained, ?_⟩
  rw [target]
  rcases worded with ⟨message, worded⟩ | ⟨object, holds, unworded⟩
  · exact .inl ⟨_, _, message, worded⟩
  · exact .inr ⟨⟨object, holds⟩, unworded⟩

end Errand

namespace Procedure

/-- Whatever the world answers: an action that looks for one element and complains that it found
nothing attaches one list, of exactly the queries that its search asked after the narrowing.  An
action that ends in another way attaches nothing, unless its target is an object with a locator in
it that nothing can name: then the list is attached before the complaint fails for want of words. -/
theorem attempts_agree (filters : List Filter) (timeout : Int) (c : Context) {a : Action}
    (lookup : a.family ≠ .element) (keyed : a.target.textKeyed = true) (world : Responder) :
    let actor : Actor := ⟨filters, .direct, timeout⟩
    let play := ((runMove actor (.act a)).run c).against world []
    (∀ later, a.FindsNothing actor c play.1 later → a.Complaint play.2.1 →
      a.Lists actor (attachments play.1) (Inquiry.listOf later)) ∧
      (¬((∃ later, a.FindsNothing actor c play.1 later) ∧ a.Complaint play.2.1) →
        attachments play.1 = [] ∨
          ((∃ entries, a.target = .dict entries) ∧ a.target.HoldsUnnamed) ∧
            play.2.1 = .error .wrongType ∧ ∃ later, a.FindsNothing actor c play.1 later ∧
              a.Lists actor (attachments play.1) (Inquiry.listOf later)) := by
  intro actor play
  have run : Scoped.Run (runMove actor (.act a)) c play.1 play.2.1 play.2.2 :=
    Script.run_against world [] _
  obtain ⟨_, o, performed, ends⟩ := run_act run
  obtain ⟨e, given⟩ := actor.errand_of_lookup lookup
  rw [Actor.perform_eq given] at performed
  rcases Errand.run_cases performed with
    ⟨_, _, silent, _⟩ | ⟨title, inner, ended, titled, trace, course, rfl⟩
  · rw [silent]
    refine ⟨?_, fun _ => .inl rfl⟩
    rintro later ⟨_, _, _, _, _, _, impossible, _⟩
    cases impossible
  rw [trace, ends, attachments_titled]
  constructor
  · rintro later ⟨_, _, narrowing, found, rest, root, split, rfl, narrowed, looked⟩
      ⟨role, clause, message, same⟩
    obtain ⟨rfl, _⟩ := List.append_inj' (List.cons.inj split).2 rfl
    obtain rfl := Outcome.map_eq_error (Outcome.map_eq_error same)
    exact Errand.lists_of_missed rfl given course ((Errand.narrows_iff given).mpr narrowed)
      ((Errand.looks_iff given).mpr looked)
  · intro spared
    rcases Errand.listed_of_course rfl given titled keyed course with
      nothing | ⟨fault, later, rfl, missed, listed, ⟨role, clause, message, rfl⟩ | ⟨holds, rfl⟩⟩
    · exact .inl nothing
    · exact absurd ⟨⟨later, missed⟩, role, clause, message, rfl⟩ spared
    · exact .inr ⟨holds, rfl, later, missed, listed⟩

def barren : Responder := fun _ r =>
  match r with
  | .query .. => .ok none
  | .enterFrames .. => .ok (.place "inner")
  | .frameAt .. => .place "inner"
  | .isVisible _ => .ok false
  | .optionValue _ => .ok .null
  | .gesture _ => .ok ()
  | .log _ | .attach _ | .stepStarts _ | .stepEnds _ | .report .. => ()

def inVain : Action := .click (.dict [(.text "css", .text "a")]) .null

theorem findsNothing_inVain :
    let play := ((runMove ⟨[], .direct, 0⟩ (.act inVain)).run (.ofBase (.place "page"))).against
      barren []
    ∃ later, inVain.FindsNothing ⟨[], .direct, 0⟩ (.ofBase (.place "page")) play.1 later ∧
      (Inquiry.listOf later).map Inquiry.query = [⟨"css", "a"⟩] := by
  intro play
  have narrowed : Job.Run (Actor.searchRoot ⟨[], .direct, 0⟩ (.ofBase (.place "page"))
      inVain.narrowing) [] (.ok (.place "page")) := Script.run_against barren [] _
  let lookup := (Lookup.resolve [] .direct inVain.target inVain.family (.place "page")).run.against
    barren []
  have looked : Action.Looks ⟨[], .direct, 0⟩ inVain (.place "page") lookup.1 (.ok []) :=
    Script.run_against barren [] _
  let rest := play.1.tail.dropLast.drop lookup.1.length
  exact ⟨lookup.1 ++ rest, ⟨"Click: \x7b'css': 'a'\x7d", Job.faultOf play.2.1, [], lookup.1, rest,
    .place "page", rfl, rfl, narrowed, looked⟩, rfl⟩

theorem attempts_agree_inVain :
    let actor : Actor := ⟨[], .direct, 0⟩
    let play := ((runMove actor (.act inVain)).run (.ofBase (.place "page"))).against barren []
    ∃ later, (Inquiry.listOf later).map Inquiry.query = [⟨"css", "a"⟩] ∧
      inVain.Lists actor (attachments play.1) (Inquiry.listOf later) := by
  intro actor play
  obtain ⟨later, missed, asked⟩ := findsNothing_inVain
  have complained : inVain.Complaint play.2.1 :=
    ⟨.text "Clickable element", .text "was not found by text|CSS|XPath", _, rfl⟩
  exact ⟨later, asked, (attempts_agree [] 0 (.ofBase (.place "page")) (a := inVain) (by decide) rfl
    barren).1 later missed complained⟩

/-- An object that holds a locator that nothing can name. -/
def annotated : Value := .dict [(.text "css", .text "a"), (.text "x", .locator Lookup.unnamable)]

/-- The list of an action that has found nothing may be attached, and the complaint fail. -/
theorem annotated_attached_in_vain :
    let play := ((runMove ⟨[], .direct, 0⟩ (.act (.click annotated .null))).run
      (.ofBase (.place "page"))).against barren []
    annotated.textKeyed = true ∧ (attachments play.1).length = 1 ∧
      play.2.1 = .error .wrongType :=
  ⟨rfl, rfl, rfl⟩

end Procedure

end ElementSearch
