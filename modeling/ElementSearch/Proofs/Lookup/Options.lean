import ElementSearch.Proofs.Lookup.Walk
import ElementSearch.Proofs.Scope.Layers
import ElementSearch.Proofs.Script.Requests
import ElementSearch.Proofs.Tier.Outline

/-! Options of a list.
Each option is looked for on its own, by its visible text first and by its value only if the text
finds nothing.  When the world answers a query in one way only, what an option comes to does not
depend on the options before it, so the elements and the missing options of two rows of options in
a row are those of the rows one after the other.  A query that fails is the last one. -/

namespace ElementSearch

abbrev Answers := Query → Handle → Outcome (Option (List Handle))

/-- The world answers a query in the same way whenever it is asked. -/
def AnswersBy (answers : Answers) (world : Responder) : Prop :=
  ∀ past kind value root, world past (.query kind value root) = answers ⟨kind, value⟩ root

/-- Either no query failed, or the last one did and its fault is the outcome. -/
def Heeded {α : Type} (asked : List Inquiry) (o : Outcome α) : Prop :=
  (∀ a ∈ asked, ∃ elements, a.answer = .ok elements) ∨
    ∃ earlier a fault, asked = earlier ++ [a] ∧
      (∀ b ∈ earlier, ∃ elements, b.answer = .ok elements) ∧
      a.answer = .error fault ∧ o = .error fault

namespace Job

variable {α β : Type} {j : Job α}

/-- The first query that fails ends the job, in every world. -/
def Heeds (j : Job α) : Prop := ∀ t o, Run j t o → Heeded (Inquiry.listOf t) o

theorem heeds_pure (a : α) : Heeds (pure a : Job α) := by
  intro t o run
  obtain ⟨rfl, rfl⟩ := run_pure_iff.mp run
  exact .inl (List.forall_mem_nil _)

theorem heeds_lift (outcome : Outcome α) : Heeds (liftM outcome : Job α) := by
  intro t o run
  obtain ⟨rfl, rfl⟩ := run_ofOutcome_iff.mp run
  exact .inl (List.forall_mem_nil _)

theorem heeds_log (level : Level) (text : String) : Heeds (log level text) := by
  intro t o run
  obtain ⟨rfl, rfl⟩ := run_log_iff.mp run
  exact .inl (List.forall_mem_nil _)

theorem heeds_query (kind value : Value) (root : Handle) : Heeds (query kind value root) := by
  intro t o run
  obtain rfl := run_query_iff.mp run
  cases o with
  | ok elements =>
    exact .inl (List.forall_mem_singleton.mpr ⟨elements, rfl⟩)
  | error fault =>
    exact .inr ⟨[], ⟨⟨kind, value⟩, root, .error fault⟩, fault, rfl, List.forall_mem_nil _, rfl,
      rfl⟩

theorem Heeds.bind {f : α → Job β} (first : Heeds j) (rest : ∀ a, Heeds (f a)) :
    Heeds (j >>= f) := by
  intro t o run
  rcases run_bind_iff.mp run with ⟨fault, ended, rfl⟩ | ⟨t₁, t₂, a, rfl, ended, going⟩
  · rcases first t _ ended with calm | ⟨earlier, last, _, same, calm, failed, given⟩
    · exact .inl calm
    · cases given
      exact .inr ⟨earlier, last, fault, same, calm, failed, rfl⟩
  · -- a first job that goes on has had no query fail
    rcases first t₁ _ ended with calm | ⟨_, _, _, _, _, _, impossible⟩
    · rw [Inquiry.listOf_append]
      rcases rest a t₂ o going with calm' | ⟨earlier, last, fault, same, calm', failed, given⟩
      · exact .inl (List.forall_mem_append.mpr ⟨calm, calm'⟩)
      · refine .inr ⟨Inquiry.listOf t₁ ++ earlier, last, fault, ?_,
          List.forall_mem_append.mpr ⟨calm, calm'⟩, failed, given⟩
        rw [same, List.append_assoc]
    · cases impossible

section Against

variable {world : Responder} {past t : List Exchange} {f : α → Job β}

theorem against_bind_map {o : Outcome α} {g : α → β}
    (first : j.run.against world past = (t, o)) (works : ∀ a, f a = pure (g a)) :
    (j >>= f).run.against world past = (t, o.map g) := by
  cases o with
  | error fault => exact against_bind_error first f
  | ok a =>
    have last : (f a).run.against world (past ++ t) = ([], .ok (g a)) := by
      rw [works a]
      rfl
    rw [← List.append_nil t]
    exact against_bind_ok first last

theorem against_bind_silent {a : α} {o : Outcome β}
    (first : j.run.against world past = (t, .ok a))
    (silent : ∃ notes, Inquiry.listOf notes = [] ∧
      (f a).run.against world (past ++ t) = (notes, o)) :
    ∃ notes, Inquiry.listOf notes = [] ∧ (j >>= f).run.against world past = (t ++ notes, o) := by
  obtain ⟨notes, none_, second⟩ := silent
  exact ⟨notes, none_, against_bind_ok first second⟩

end Against

end Job

namespace Lookup

theorem OptionMatch.append_assoc (m n k : OptionMatch) :
    (m.append n).append k = m.append (n.append k) := by
  simp [OptionMatch.append, List.append_assoc]

open Job

section Heeds

theorem heeds_runQuery (q : Query) (root : Handle) : Heeds (runQuery .direct q root) :=
  (heeds_query q.kind q.value root).bind fun _ => heeds_pure _

theorem heeds_firstAnswer (root : Handle) (tiers : List Tier) :
    Heeds (firstAnswer .direct root tiers) := by
  induction tiers with
  | nil => exact heeds_pure []
  | cons t rest ih =>
    refine (heeds_runQuery t.query root).bind fun found => ?_
    split
    · exact ih
    · exact heeds_pure _

theorem heeds_resolveOption (select : Handle) (option : Value) :
    Heeds (resolveOption .direct select option) :=
  (heeds_lift _).bind fun tiers => (heeds_firstAnswer select tiers).bind fun _ =>
    (heeds_lift _).bind fun _ => heeds_pure _

theorem heeds_resolveAll (select : Handle) (options : List Value) :
    Heeds (resolveAll .direct select options) := by
  induction options with
  | nil => exact heeds_pure _
  | cons option rest ih =>
    exact (heeds_resolveOption select option).bind fun _ => ih.bind fun _ => heeds_pure _

theorem heeds_resolveOptions (select : Handle) (options : Value) :
    Heeds (resolveOptions .direct select options) := by
  refine (heeds_lift _).bind fun all => (heeds_resolveAll select all).bind fun m => ?_
  split
  · exact (heeds_log _ _).bind fun _ => heeds_pure m
  · exact heeds_pure m

end Heeds

section Spec

def byVisibleText (shown : String) : Query :=
  ⟨"xpath", Tier.optionByVisibleText.fill (XPath.quote (Blank.strip shown))⟩

def byValue (shown : String) : Query :=
  ⟨"xpath", Tier.optionByValue.fill (XPath.quote (Blank.strip shown))⟩

variable (find : Query → Outcome (List Handle))

/-- What is found by the visible text if that is anything, and else what is found by the value. -/
def soughtFor (shown : String) : Outcome (List Handle) :=
  match find (byVisibleText shown) with
  | .ok [] => find (byValue shown)
  | .ok elements => .ok elements
  | .error fault => .error fault

/-- The queries for one option: the value is asked for if the visible text finds nothing. -/
def askedFor (shown : String) : List Query :=
  match find (byVisibleText shown) with
  | .ok [] => [byVisibleText shown, byValue shown]
  | _ => [byVisibleText shown]

structure Sought where
  shown : String
  elements : List Handle

namespace Sought

def IsFor (option : Value) (r : Sought) : Prop :=
  option.display = .ok r.shown ∧ soughtFor find r.shown = .ok r.elements

def queries (results : List Sought) : List Query :=
  results.flatMap fun r => askedFor find r.shown

/-- The elements in the order of the options; an option without any is missing. -/
def summary (results : List Sought) : OptionMatch :=
  ⟨results.flatMap Sought.elements,
    (results.filter fun r => r.elements.isEmpty).map Sought.shown⟩

end Sought

/-- The options are sought one after the other, each in its own way, up to one whose query fails or
that cannot be shown. -/
def SoughtInTurn (options : List Value) (asked : List Query) (o : Outcome OptionMatch) : Prop :=
  ∃ results : List Sought,
    (List.Forall₂ (Sought.IsFor find) options results ∧ asked = Sought.queries find results ∧
      o = .ok (Sought.summary results)) ∨
    ∃ before option after fault, options = before ++ option :: after ∧
      List.Forall₂ (Sought.IsFor find) before results ∧ o = .error fault ∧
      ((∃ shown, option.display = .ok shown ∧ soughtFor find shown = .error fault ∧
          asked = Sought.queries find results ++ askedFor find shown) ∨
        (option.display = .error fault ∧ asked = Sought.queries find results))

def gathered : List Value → Outcome OptionMatch
  | [] => .ok .nothing
  | option :: rest => do
    let shown ← option.display
    let elements ← soughtFor find shown
    let others ← gathered rest
    return (OptionMatch.ofOption shown elements).append others

def queriesFor : List Value → List Query
  | [] => []
  | option :: rest =>
    match option.display with
    | .error _ => []
    | .ok shown =>
      askedFor find shown ++
        match soughtFor find shown with
        | .error _ => []
        | .ok _ => queriesFor rest

end Spec

section Turns

variable (find : Query → Outcome (List Handle)) (rest : List Value) {option : Value}
  {shown : String} {fault : Fault} {elements : List Handle}

theorem turn_unshown (unshown : option.display = .error fault) :
    gathered find (option :: rest) = .error fault ∧ queriesFor find (option :: rest) = [] := by
  rw [gathered, queriesFor, unshown]
  exact ⟨rfl, rfl⟩

theorem turn_failed (named : option.display = .ok shown)
    (failed : soughtFor find shown = .error fault) :
    gathered find (option :: rest) = .error fault ∧
      queriesFor find (option :: rest) = askedFor find shown := by
  constructor
  · rw [gathered, Outcome.bind_of_ok named, failed]
    rfl
  · rw [queriesFor, named]
    simp only [failed, List.append_nil]

theorem turn_sought (named : option.display = .ok shown)
    (given : soughtFor find shown = .ok elements) :
    gathered find (option :: rest) =
        (gathered find rest).map (OptionMatch.ofOption shown elements).append ∧
      queriesFor find (option :: rest) = askedFor find shown ++ queriesFor find rest := by
  constructor
  · rw [gathered, Outcome.bind_of_ok named, given, Outcome.bind_of_ok rfl]
    cases gathered find rest <;> rfl
  · rw [queriesFor, named]
    simp only [given]

theorem gathered_append (options others : List Value) :
    gathered find (options ++ others) = (do
      let m ← gathered find options
      let n ← gathered find others
      return m.append n) := by
  induction options with
  | nil =>
    rw [List.nil_append, gathered, Outcome.bind_of_ok rfl]
    cases gathered find others <;> rfl
  | cons option rest ih =>
    rw [List.cons_append]
    cases named : option.display with
    | error fault =>
      have ended (others : List Value) := (turn_unshown find others named).1
      rw [ended, ended, Outcome.bind_of_error rfl]
    | ok shown =>
      cases given : soughtFor find shown with
      | error fault =>
        have ended (others : List Value) := (turn_failed find others named given).1
        rw [ended, ended, Outcome.bind_of_error rfl]
      | ok elements =>
        have ended (others : List Value) := (turn_sought find others named given).1
        rw [ended, ended, ih]
        cases gathered find rest with
        | error fault => rfl
        | ok m =>
          cases gathered find others with
          | error fault => rfl
          | ok n =>
            have regrouped := OptionMatch.append_assoc (.ofOption shown elements) m n
            exact congrArg Except.ok regrouped.symm

theorem summary_cons (r : Sought) (results : List Sought) :
    Sought.summary (r :: results) =
      (OptionMatch.ofOption r.shown r.elements).append (Sought.summary results) := by
  cases empty : r.elements with
  | nil => simp [Sought.summary, OptionMatch.ofOption, OptionMatch.append, empty]
  | cons element others => simp [Sought.summary, OptionMatch.ofOption, OptionMatch.append, empty]

theorem soughtInTurn_gathered (options : List Value) :
    SoughtInTurn find options (queriesFor find options) (gathered find options) := by
  -- The induction is on the options: what an option comes to is put before what the others do.
  induction options with
  | nil => exact ⟨[], .inl ⟨.nil, rfl, rfl⟩⟩
  | cons option rest ih =>
    cases named : option.display with
    | error fault =>
      obtain ⟨ended, silent⟩ := turn_unshown find rest named
      exact ⟨[], .inr ⟨[], option, rest, fault, rfl, .nil, ended, .inr ⟨named, silent⟩⟩⟩
    | ok shown =>
      cases given : soughtFor find shown with
      | error fault =>
        obtain ⟨ended, put⟩ := turn_failed find rest named given
        exact ⟨[], .inr ⟨[], option, rest, fault, rfl, .nil, ended,
          .inl ⟨shown, named, given, put⟩⟩⟩
      | ok elements =>
        obtain ⟨ended, put⟩ := turn_sought find rest named given
        rw [ended, put]
        have isFor : Sought.IsFor find option ⟨shown, elements⟩ := ⟨named, given⟩
        obtain ⟨results, all_or_stopped⟩ := ih
        obtain ⟨all, same, total⟩ |
          ⟨before, last, after, fault, rfl, all, failed, stop⟩ := all_or_stopped
        · refine ⟨⟨shown, elements⟩ :: results, .inl ⟨.cons isFor all, ?_, ?_⟩⟩
          · rw [same]
            rfl
          · rw [total, summary_cons]
            rfl
        · refine ⟨⟨shown, elements⟩ :: results, .inr ⟨option :: before, last, after, fault, rfl,
            .cons isFor all, by rw [failed]; rfl, ?_⟩⟩
          have longer (tail : List Query) :
              askedFor find shown ++ (Sought.queries find results ++ tail) =
                Sought.queries find (⟨shown, elements⟩ :: results) ++ tail :=
            (List.append_assoc ..).symm
          rcases stop with ⟨shown', named', failed', same⟩ | ⟨unshown, same⟩
          · exact .inl ⟨shown', named', failed', by rw [same, longer]⟩
          · exact .inr ⟨unshown, by rw [same]; rfl⟩

end Turns

section Worlds

variable {answers : Answers} {world : Responder}

def inquiryOf (answers : Answers) (select : Handle) (q : Query) : Inquiry :=
  ⟨q, select, answers q select⟩

def findIn (answers : Answers) (select : Handle) (q : Query) : Outcome (List Handle) :=
  (inquiryOf answers select q).found

def exchangesFor (answers : Answers) (select : Handle) (qs : List Query) : List Exchange :=
  qs.map fun q => (inquiryOf answers select q).exchange

theorem listOf_exchangesFor (answers : Answers) (select : Handle) (qs : List Query) :
    Inquiry.listOf (exchangesFor answers select qs) = qs.map (inquiryOf answers select) := by
  induction qs with
  | nil => rfl
  | cons q rest ih => exact congrArg (inquiryOf answers select q :: ·) ih

theorem exchangesFor_append (answers : Answers) (select : Handle) (qs rest : List Query) :
    exchangesFor answers select (qs ++ rest) =
      exchangesFor answers select qs ++ exchangesFor answers select rest := List.map_append

variable (steady : AnswersBy answers world) (past : List Exchange) (select : Handle)

include steady

theorem against_runQuery (q : Query) :
    (runQuery .direct q select).run.against world past =
      (exchangesFor answers select [q], findIn answers select q) := by
  have put : (Job.query q.kind q.value select).run.against world past =
      (exchangesFor answers select [q], answers q select) := by
    change ([(⟨.query q.kind q.value select, world past _⟩ : Exchange)], world past _) = _
    rw [steady past q.kind q.value select]
    rfl
  exact against_bind_map put fun _ => rfl

theorem against_lastAnswer (t : Tier) :
    (firstAnswer .direct select [t]).run.against world past =
      (exchangesFor answers select [t.query], findIn answers select t.query) := by
  have put := against_runQuery steady past select t.query
  have kept : (findIn answers select t.query).map id = findIn answers select t.query :=
    congrFun Except.map_id _
  rw [firstAnswer, ← kept]
  refine against_bind_map put fun elements => ?_
  cases elements <;> rfl

theorem against_firstAnswer (first second : Tier) {shown : String}
    (isFirst : first.query = byVisibleText shown) (isSecond : second.query = byValue shown) :
    (firstAnswer .direct select [first, second]).run.against world past =
      (exchangesFor answers select (askedFor (findIn answers select) shown),
        soughtFor (findIn answers select) shown) := by
  have byText := against_runQuery steady past select (byVisibleText shown)
  rw [firstAnswer, isFirst, askedFor, soughtFor]
  cases text : findIn answers select (byVisibleText shown) with
  | error fault =>
    rw [text] at byText
    exact against_bind_error byText _
  | ok elements =>
    rw [text] at byText
    cases elements with
    | cons element others => exact against_bind_ok byText rfl
    | nil =>
      have last := against_lastAnswer steady
        (past ++ exchangesFor answers select [byVisibleText shown]) select second
      rw [isSecond] at last
      exact against_bind_ok byText last

theorem against_resolveOption {option : Value} {shown : String}
    (named : option.display = .ok shown) :
    (resolveOption .direct select option).run.against world past =
      (exchangesFor answers select (askedFor (findIn answers select) shown),
        (soughtFor (findIn answers select) shown).map (OptionMatch.ofOption shown)) := by
  have tiers : Tier.optionTiers option =
      .ok [⟨1, "byVisibleText", byVisibleText shown, false⟩,
        ⟨2, "byValue", byValue shown, false⟩] := by
    rw [Tier.optionTiers, named]
    rfl
  rw [resolveOption, run_lift_bind_ok tiers]
  have answer := against_firstAnswer steady past select
    ⟨1, "byVisibleText", byVisibleText shown, false⟩ ⟨2, "byValue", byValue shown, false⟩ rfl rfl
  refine against_bind_map answer fun elements => ?_
  rw [run_lift_bind_ok named]

theorem against_resolveAll (options : List Value) :
    (resolveAll .direct select options).run.against world past =
      (exchangesFor answers select (queriesFor (findIn answers select) options),
        gathered (findIn answers select) options) := by
  induction options generalizing past with
  | nil => rfl
  | cons option rest ih =>
    rw [resolveAll]
    cases named : option.display with
    | error fault =>
      have refused : Tier.optionTiers option = .error fault := by
        rw [Tier.optionTiers, named]
        rfl
      have first : (resolveOption .direct select option).run.against world past =
          ([], .error fault) := by
        rw [resolveOption, run_lift_bind_error refused]
        rfl
      obtain ⟨ended, silent⟩ := turn_unshown (findIn answers select) rest named
      rw [ended, silent]
      exact against_bind_error first _
    | ok shown =>
      have first := against_resolveOption steady past select named
      cases given : soughtFor (findIn answers select) shown with
      | error fault =>
        obtain ⟨ended, put⟩ := turn_failed _ rest named given
        rw [given] at first
        rw [ended, put]
        exact against_bind_error first _
      | ok elements =>
        obtain ⟨ended, put⟩ := turn_sought _ rest named given
        rw [given] at first
        rw [ended, put, exchangesFor_append]
        refine against_bind_ok first ?_
        have others := ih (past ++ exchangesFor answers select
          (askedFor (findIn answers select) shown))
        exact against_bind_map others fun _ => rfl

theorem against_resolveOptions {options : Value} {row : List Value}
    (given : optionsOf options = .ok row) :
    ∃ notes, Inquiry.listOf notes = [] ∧
      (resolveOptions .direct select options).run.against world past =
        (exchangesFor answers select (queriesFor (findIn answers select) row) ++ notes,
          gathered (findIn answers select) row) := by
  rw [resolveOptions, run_lift_bind_ok given]
  have all := against_resolveAll steady past select row
  cases ended : gathered (findIn answers select) row with
  | error fault =>
    rw [ended] at all
    exact ⟨[], rfl, by rw [List.append_nil]; exact against_bind_error all _⟩
  | ok m =>
    rw [ended] at all
    refine against_bind_silent all ?_
    split
    · exact ⟨[⟨.log ⟨.warning, _⟩, ()⟩], rfl, rfl⟩
    · exact ⟨[], rfl, rfl⟩

end Worlds

section Queries

theorem take_fill (s : String) (rest : XPath.Pattern) (expression : String) {n : Nat}
    (within : n ≤ s.toList.length) :
    (XPath.Pattern.fill (.fixed s :: rest) expression).toList.take n = s.toList.take n := by
  rw [XPath.Pattern.toList_fill]
  exact List.take_append_of_le_length within

theorem byValue_ne_byVisibleText (shown : String) : byValue shown ≠ byVisibleText shown := by
  intro same
  have written : Tier.optionByValue.fill (XPath.quote (Blank.strip shown)) =
      Tier.optionByVisibleText.fill (XPath.quote (Blank.strip shown)) :=
    Value.text.inj (Query.mk.inj same).2
  -- the patterns part where one has a dot and the other an attribute
  have parting := congrArg (fun path => path.toList.take 26) written
  simp only [Tier.optionByValue, Tier.optionByVisibleText] at parting
  rw [take_fill _ _ _ (by decide), take_fill _ _ _ (by decide)] at parting
  exact absurd parting (by decide)

theorem byValue_mem_askedFor_iff {find : Query → Outcome (List Handle)} {shown : String} :
    byValue shown ∈ askedFor find shown ↔ find (byVisibleText shown) = .ok [] := by
  have other := byValue_ne_byVisibleText shown
  rw [askedFor]
  split <;> simp_all

end Queries


def chosen (world : Responder) (past : List Exchange) (select : Handle) (options : Value) :
    List Exchange × Outcome OptionMatch :=
  (resolveOptions .direct select options).run.against world past

/-- In a world that answers a query in one way only, each option comes to what its own two queries
say, in order; what two rows of options in a row come to is what they come to one after the other,
in whatever state of the world each is asked for.  In any world the first query that fails is the
last one. -/
theorem options_sought_in_turn {answers : Answers} {world : Responder}
    (steady : AnswersBy answers world) (select : Handle) {options : Value} {row : List Value}
    (given : optionsOf options = .ok row) :
    (∀ past, ∃ put, Inquiry.listOf (chosen world past select options).1 =
        put.map (inquiryOf answers select) ∧
      SoughtInTurn (findIn answers select) row put (chosen world past select options).2) ∧
    (∀ shown, byValue shown ∈ askedFor (findIn answers select) shown ↔
      findIn answers select (byVisibleText shown) = .ok []) ∧
    (∀ further others both, optionsOf further = .ok others →
      optionsOf both = .ok (row ++ others) → ∀ past past' past'',
      (chosen world past select both).2 = (do
        let m ← (chosen world past' select options).2
        let n ← (chosen world past'' select further).2
        return ⟨m.elements ++ n.elements, m.missing ++ n.missing⟩)) ∧
    ∀ (other : Responder) past, Heeded (Inquiry.listOf (chosen other past select options).1)
      (chosen other past select options).2 := by
  have ended {v : Value} {vs : List Value} (isRow : optionsOf v = .ok vs) (past : List Exchange) :
      (chosen world past select v).2 = gathered (findIn answers select) vs := by
    obtain ⟨_, _, whole⟩ := against_resolveOptions steady past select isRow
    rw [chosen, whole]
  refine ⟨fun past => ?_, fun shown => byValue_mem_askedFor_iff, ?_, fun other past => ?_⟩
  · obtain ⟨notes, silent, whole⟩ := against_resolveOptions steady past select given
    rw [chosen, whole, Inquiry.listOf_append, silent, List.append_nil, listOf_exchangesFor]
    exact ⟨_, rfl, soughtInTurn_gathered _ row⟩
  · intro further others both isFurther isBoth past past' past''
    rw [ended isBoth, ended given, ended isFurther]
    exact gathered_append _ row others
  · exact heeds_resolveOptions select options _ _ (Script.run_against other past _)

def paints : Answers := fun q _ =>
  match q.value with
  | .text path =>
    if path = Tier.optionByVisibleText.fill (XPath.quote "Red") then .ok (some [.element "red"])
    else if path = Tier.optionByValue.fill (XPath.quote "blue") then .ok (some [.element "blue"])
    else .ok none
  | _ => .ok none

def paintShop : Responder := fun past r =>
  match r with
  | .query kind value root => paints ⟨kind, value⟩ root
  | r => Context.obliging past r

theorem options_sought_in_turn_paints :
    let select := Handle.element "paints"
    let others := Value.list [.text " blue ", .text "Green"]
    let both := Value.tuple [.text "Red", .text " blue ", .text "Green"]
    AnswersBy paints paintShop ∧ optionsOf (.text "Red") = .ok [.text "Red"] ∧
      optionsOf others = .ok [.text " blue ", .text "Green"] ∧
      optionsOf both = .ok ([.text "Red"] ++ [.text " blue ", .text "Green"]) ∧
      (chosen paintShop [] select (.text "Red")).2 = .ok ⟨[.element "red"], []⟩ ∧
      (chosen paintShop [] select others).2 = .ok ⟨[.element "blue"], ["Green"]⟩ ∧
      (chosen paintShop [] select both).2 =
        .ok ⟨[.element "red", .element "blue"], ["Green"]⟩ := by
  intro select others both
  have steady : AnswersBy paints paintShop := fun _ _ _ _ => rfl
  have single : optionsOf (.text "Red") = .ok [.text "Red"] := optionsOf_text "Red"
  obtain ⟨_, _, joined, _⟩ := options_sought_in_turn steady select single
  have first : (chosen paintShop [] select (.text "Red")).2 = .ok ⟨[.element "red"], []⟩ := rfl
  have second : (chosen paintShop [] select others).2 = .ok ⟨[.element "blue"], ["Green"]⟩ := rfl
  refine ⟨steady, single, rfl, rfl, first, second, ?_⟩
  rw [joined others _ both rfl rfl [] [] [], first, second]
  rfl

end Lookup

end ElementSearch
