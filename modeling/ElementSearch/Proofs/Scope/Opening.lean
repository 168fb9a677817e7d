import ElementSearch.Proofs.Locator.Plain
import ElementSearch.Proofs.Lookup.Calls

/-! Opening a scope.
Opening is a check, a look at what the value stands for, and one scope more; the note about it comes
last.  So a failure leaves the context as it was, unless the note itself fails, and that happens
only for a frame that nothing can name. -/

namespace ElementSearch

namespace Scope

open Scoped (Run)
open Lookup (FoundLast IsIdle IsUnworded)
open Procedure (cardOnPage namelessFrame)

variable {filters : List Filter} {v : Value} {c c' : Context} {l : Locator}
  {start root : Handle} {t : List Exchange}

/-- The calls of the driver that lead from one root to the next: a frame is entered, or elements
are found, with one query or in tiers, and the first of them is the next root. -/
inductive Given (l : Locator) (start root : Handle) : List Exchange → Prop
  | entered (frame : l.kind = .frame) :
      Given l start root [⟨.enterFrames start (frameChain l), .ok root⟩]
  | found {q : Query} {others : List Handle} (plain : l.kind ≠ .fuzzy)
      (compiled : l.toQuery = .ok q) :
      Given l start root [⟨.query q.kind q.value start, .ok (some (root :: others))⟩]
  | foundInTiers {asked : List Inquiry} {others : List Handle} (fuzzy : l.kind = .fuzzy)
      (last : FoundLast start asked (root :: others)) :
      Given l start root (asked.map Inquiry.exchange)

theorem given_of_searched {others : List Handle} {asked : List Inquiry}
    (searched : Lookup.Searched l .element start asked (.ok (root :: others))) :
    Given l start root (asked.map Inquiry.exchange) := by
  have single (plain : l.kind ≠ .fuzzy)
      (once : Lookup.AskedOnce l start asked (.ok (root :: others))) :
      Given l start root (asked.map Inquiry.exchange) := by
    obtain ⟨q, compiled, rfl⟩ := Lookup.found_of_askedOnce once
    exact .found plain compiled
  unfold Lookup.Searched at searched
  cases kind : l.kind with rw [kind] at searched
  | unknown =>
    obtain ⟨_, _, impossible⟩ := Outcome.map_eq_ok searched.2.symm
    cases impossible
  | frame =>
    have refused := searched.2
    unfold Lookup.Refused at refused
    split at refused <;> cases refused
  | fuzzy =>
    simp only [Lookup.SearchedInTiers] at searched
    split at searched
    · cases searched.2
    split at searched
    · obtain ⟨_, _, _, _, _, _, ended⟩ := searched
      split at ended <;> cases ended
    · exact .foundInTiers kind (Lookup.foundLast_of_walked searched)
  | css | xpath | id | name | custom | react | vue | shadow =>
    exact single (by rw [kind]; decide) searched

theorem narrowTo_cases {o : Outcome Handle} (run : Job.Run (narrowTo .direct l start) t o) :
    (l.kind = .frame ∧ t = [⟨.enterFrames start (frameChain l), o⟩]) ∨
      (l.kind ≠ .frame ∧ ∃ found, Job.Run (Lookup.resolveLocator .direct l .element start) t found ∧
        ∀ root, o = .ok root → ∃ others, found = .ok (root :: others)) := by
  unfold narrowTo at run
  split at run
  · exact .inl ⟨‹_›, Script.run_request_iff.mp run⟩
  · refine .inr ⟨‹_›, ?_⟩
    rcases Job.run_bind_iff.mp run with ⟨fault, looked, rfl⟩ | ⟨t₁, t₂, elements, rfl, looked, rest⟩
    · exact ⟨_, looked, by simp⟩
    · cases elements with
      | nil =>
        obtain ⟨rfl, rfl⟩ := Job.run_throw_iff.mp rest
        rw [List.append_nil]
        exact ⟨_, looked, by simp⟩
      | cons first others =>
        obtain ⟨rfl, rfl⟩ := Job.run_pure_iff.mp rest
        rw [List.append_nil]
        refine ⟨_, looked, ?_⟩
        rintro root same
        cases same
        exact ⟨others, rfl⟩

theorem given_of_narrowTo (run : Job.Run (narrowTo .direct l start) t (.ok root)) :
    Given l start root (calls t) := by
  rcases narrowTo_cases run with ⟨frame, rfl⟩ | ⟨_, found, looked, first⟩
  · exact .entered frame
  · obtain ⟨others, rfl⟩ := first root rfl
    rw [Lookup.calls_of_resolveLocator looked]
    exact given_of_searched (Lookup.searched_of_run looked)

theorem single_of_narrowTo {o : Outcome Handle} (plain : l.kind ≠ .fuzzy)
    (run : Job.Run (narrowTo .direct l start) t o) :
    (calls t).length ≤ 1 ∧ (calls t = [] ↔ l.kind ≠ .frame ∧ IsIdle l) := by
  rcases narrowTo_cases run with ⟨frame, rfl⟩ | ⟨element, _, looked, _⟩
  · refine ⟨Nat.le_refl 1, ?_⟩
    constructor
    · intro none
      cases none
    · intro idle
      exact absurd frame idle.1
  · rw [Lookup.calls_of_resolveLocator looked, List.length_map, List.map_eq_nil_iff]
    have searched := Lookup.searched_of_run looked
    obtain ⟨once, silent⟩ := Lookup.single_of_searched element plain searched
    exact ⟨once, by simp [silent, element]⟩

theorem calls_depthNote {verb : String} {depth : Nat} {noted : Outcome Unit}
    (run : Job.Run (depthNote verb l depth) t noted) : calls t = [] := by
  have quiet : Job.Asks Request.Quiet (depthNote verb l depth) :=
    (Job.asks_lift _).bind fun _ => quiet_log _ _
  exact calls_of_quiet (quiet.of_run run)

/-- One scope more is open, on top of the others: its root is where the driver led to from the
root before. -/
def Opened (filters : List Filter) (v : Value) (c : Context) (t : List Exchange) (root : Handle)
    (c' : Context) : Prop :=
  ∃ l, checkNesting filters c v = .ok l ∧ c' = c.enter ⟨l, root⟩ ∧
    Given l c.root root (calls t)

theorem push_direct_cases {o : Outcome Handle} (run : Run (push filters .direct v) c t o c') :
    (∃ fault, checkNesting filters c v = .error fault ∧ t = [] ∧ o = .error fault ∧ c' = c) ∨
      ∃ l looking found, checkNesting filters c v = .ok l ∧
        Job.Run (narrowTo .direct l c.root) looking found ∧ calls t = calls looking ∧
        ((∃ fault, found = .error fault ∧ o = .error fault ∧ c' = c) ∨
          ∃ root, found = .ok root ∧ Opened filters v c t root c' ∧
            (o = .ok root ∨ ∃ fault, o = .error fault)) := by
  rcases push_cases run with refused | ⟨l, checked, ⟨fault, looked, failed, same⟩ |
    ⟨t₁, t₂, root, noted, rfl, looked, note, ended, entered⟩⟩
  · exact .inl refused
  · exact .inr ⟨l, t, _, checked, looked, rfl, .inl ⟨fault, rfl, failed, same⟩⟩
  · have called : calls (t₁ ++ t₂) = calls t₁ := by
      rw [calls_append, calls_depthNote note, List.append_nil]
    have opened : Opened filters v c (t₁ ++ t₂) root c' :=
      ⟨l, checked, entered, by rw [called]; exact given_of_narrowTo looked⟩
    refine .inr ⟨l, t₁, _, checked, looked, called, .inr ⟨root, rfl, opened, ?_⟩⟩
    rw [ended]
    cases noted with
    | ok _ => exact .inl rfl
    | error fault => exact .inr ⟨fault, rfl⟩

theorem ne_fuzzy_of_headOf {head : LocatorOf.Head} : (entries : List (Value × Value)) →
    LocatorOf.headOf [] entries = .ok (some head) → head.kind ≠ .fuzzy
  | [], found => by cases found
  | (key, value) :: rest, found => by
    unfold LocatorOf.headOf at found
    split at found
    · exact ne_fuzzy_of_headOf rest found
    split at found
    · cases found
    split at found
    · have frame : head.kind = .frame := by
        split at found <;>
          · obtain ⟨_, _, same⟩ := Outcome.bind_eq_ok found
            cases same
            rfl
      simp [frame]
    · cases found
      simp
    · cases found
      simp
    · cases found
      exact (LocatorOf.kindOfKey_ne key).1

theorem ne_fuzzy_ofText (s : String) : (LocatorOf.ofText .css s).kind ≠ .fuzzy := by
  unfold LocatorOf.ofText
  dsimp only
  repeat' split
  all_goals simp [LocatorOf.make]

theorem ne_fuzzy_of_classify (other : ∀ l, v = .locator l → l.kind ≠ .fuzzy)
    (classified : classify [] v = .ok l) : l.kind ≠ .fuzzy := by
  unfold classify at classified
  cases v with
  | locator _ =>
    cases classified
    exact other _ rfl
  | null =>
    cases classified
    simp [LocatorOf.make]
  | dict entries =>
    rw [LocatorOf.classify] at classified
    obtain ⟨head, found, rest⟩ := Outcome.bind_eq_ok classified
    cases head with
    | none =>
      cases rest
      simp [LocatorOf.ofHead, LocatorOf.make]
    | some head =>
      cases rest
      exact ne_fuzzy_of_headOf entries found
  | text s =>
    simp only [LocatorOf.classify, Filter.applyAll_nil] at classified
    split at classified
    · cases classified
      simp [LocatorOf.make]
    · cases classified
      exact ne_fuzzy_ofText s
  | bool _ | int _ | float _ | list _ | tuple _ =>
    rw [LocatorOf.classify] at classified
    obtain ⟨s, _, rfl⟩ := LocatorOf.ofWritten_eq_ok classified
    exact ne_fuzzy_ofText s

theorem not_isNameless (shown : v.wellShown = true) : ¬IsNameless [] v := by
  rintro ⟨l, classified, _, fault, unnamed⟩
  exact Value.unnamed_of_error unnamed
    (Value.named_of_wellShown (LocatorOf.wellShown_of_classify .css v shown l classified))

/-- Why the driver is not called on the way into a scope. -/
def Spared (c : Context) (l : Locator) : Prop :=
  (l.kind = .frame ∧ c.inElement = true) ∨ (l.kind ≠ .frame ∧ IsIdle l)

theorem checkNesting_iff (classified : classify filters v = .ok l) :
    (∃ fault, checkNesting filters c v = .error fault) ↔ l.kind = .frame ∧ c.inElement = true := by
  rw [checkNesting_of_classify classified]
  by_cases inside : l.kind = .frame ∧ c.inElement = true
  · simp [allow, inside]
  · simp [allow_of_outside inside, inside]

theorem single_of_push {o : Outcome Handle} (run : Run (push [] .direct v) c t o c')
    (other : ∀ l, v = .locator l → l.kind ≠ .fuzzy) (classified : classify [] v = .ok l) :
    (calls t).length ≤ 1 ∧ (calls t = [] ↔ Spared c l) := by
  rcases push_direct_cases run with ⟨fault, refused, rfl, _⟩ |
    ⟨l', looking, found, checked, looked, called, _⟩
  · have inside := (checkNesting_iff classified).mp ⟨fault, refused⟩
    exact ⟨Nat.zero_le 1, by simp [Spared, inside]⟩
  · have same := classify_of_checked checked
    rw [classified] at same
    obtain rfl : l = l' := Except.ok.inj same
    have allowed : ¬∃ fault, checkNesting [] c v = .error fault := by
      rw [checked]
      rintro ⟨_, impossible⟩
      cases impossible
    have outside := mt (checkNesting_iff classified).mpr allowed
    obtain ⟨once, silent⟩ := single_of_narrowTo (ne_fuzzy_of_classify other classified) looked
    rw [called]
    exact ⟨once, by simp [silent, Spared, outside]⟩

theorem push_of_unread {d : Driver} {o : Outcome Handle} {fault : Fault}
    (run : Run (push filters d v) c t o c') (failed : classify filters v = .error fault) :
    t = [] ∧ o = .error fault ∧ c' = c := by
  have refused : checkNesting filters c v = .error fault := Outcome.bind_of_error failed _
  rw [Run, push_of_refused refused, Script.run_done_iff, Prod.mk.injEq] at run
  exact run

/-- Opening a scope is all or nothing: a scope is opened where the driver led to, or the context
stays, unless the opened scope is that of a frame which nothing can name.  A frame is refused inside
the scope of an element before anything is asked, and what is not to be looked for in tiers is
looked for with one call at most. -/
theorem push_all_or_nothing {o : Outcome Handle} (run : Run (push filters .direct v) c t o c') :
    (∀ root, o = .ok root → Opened filters v c t root c') ∧
      (∀ fault, o = .error fault →
        c' = c ∨ (IsNameless filters v ∧ ∃ root, Opened filters v c t root c')) ∧
      (∀ l, classify filters v = .ok l → l.kind = .frame → c.inElement = true →
        t = [] ∧ c' = c ∧ ∃ scope, c.elementScope? = some scope ∧
          o = .error (Cause.nestedScope (.locator l) (.locator scope.locator)).fault) ∧
      (filters = [] → (∀ l, v = .locator l → l.kind ≠ .fuzzy) →
        match classify [] v with
        | .ok l => (calls t).length ≤ 1 ∧ (calls t = [] ↔ Spared c l)
        | .error fault => (fault = .longNumber ∧ ¬v.Spelled) ∧ t = [] ∧ o = .error fault) ∧
      (filters = [] → v.wellShown = true → ¬IsNameless [] v ∧
        ∃ l, classify [] v = .ok l ∧ ¬IsUnworded l) := by
  refine ⟨?_, ?_, ?_, ?_, ?_⟩
  · rintro root rfl
    rcases push_direct_cases run with ⟨_, _, _, impossible, _⟩ |
      ⟨_, _, _, _, _, _, ⟨_, _, impossible, _⟩ | ⟨root', _, opened, ended | ⟨_, impossible⟩⟩⟩
    · cases impossible
    · cases impossible
    · cases ended
      exact opened
    · cases impossible
  · rintro fault rfl
    rcases push_direct_cases run with ⟨_, _, _, _, same⟩ |
      ⟨_, _, _, _, _, _, ⟨_, _, _, same⟩ | ⟨root, _, opened, _⟩⟩
    · exact .inl same
    · exact .inl same
    · obtain ⟨l, checked, rfl, given⟩ := opened
      exact .inr ⟨nameless_of_stranded run, root, l, checked, rfl, given⟩
  · intro l classified frame inside
    obtain ⟨scope, found⟩ := Option.isSome_iff_exists.mp ((Context.inElement_iff c).mp inside)
    have refused := (checkNesting_of_classify classified).trans
      (allow_of_inside frame inside found)
    rw [Run, push_of_refused refused, Script.run_done_iff, Prod.mk.injEq] at run
    exact ⟨run.1, run.2.2, scope, found, run.2.1⟩
  · rintro rfl other
    split
    · rename_i l classified
      exact single_of_push run other classified
    · rename_i fault failed
      obtain ⟨silent, ended, _⟩ := push_of_unread run failed
      exact ⟨LocatorOf.longNumber_of_classify .css v failed, silent, ended⟩
  · rintro rfl shown
    obtain ⟨l, classified, named⟩ := LocatorOf.classify_of_wellShown .css shown
    exact ⟨not_isNameless shown, l, classified, Lookup.not_isUnworded named⟩

def page : Context := .ofBase (.place "page")

theorem card_opens_and_refuses_frame :
    (∃ t, Run (push [] .direct (.locator Context.card)) page t (.ok (.element "card")) cardOnPage ∧
        Opened [] (.locator Context.card) page t (.element "card") cardOnPage ∧
        (calls t).length ≤ 1 ∧ ¬IsNameless [] (.locator Context.card)) ∧
      ∃ fault, Run (push [] .direct (.locator Context.innerFrame)) cardOnPage [] (.error fault)
          cardOnPage ∧
        fault =
          (Cause.nestedScope (.locator Context.innerFrame) (.locator Context.card)).fault := by
  constructor
  · have run : Run (push [] .direct (.locator Context.card)) page _ (.ok (.element "card"))
        cardOnPage := Script.run_against Context.obliging [] _
    obtain ⟨opens, _, _, once, shown⟩ := push_all_or_nothing run
    have plain (l : Locator) (same : Value.locator Context.card = .locator l) :
        l.kind ≠ .fuzzy := by
      cases same
      decide
    exact ⟨_, run, opens _ rfl, (once rfl plain).1, (shown rfl rfl).1⟩
  · have run : Run (push [] .direct (.locator Context.innerFrame)) cardOnPage _ _ _ :=
      Script.run_against Context.obliging [] _
    obtain ⟨_, _, refuses, _⟩ := push_all_or_nothing run
    obtain ⟨_, _, scope, found, ended⟩ := refuses Context.innerFrame rfl rfl rfl
    cases found
    exact ⟨_, run, Except.error.inj ended⟩

/-- A frame is entered and its note fails: the scope stays open after the fault.  A selector that
compiles to a query is not looked for, since its note comes first. -/
theorem nameless_frame_stays_open :
    (∃ t fault, Run (push [] .direct (.locator namelessFrame)) page t (.error fault)
        (page.enter ⟨namelessFrame, .place "inner"⟩)) ∧
      Lookup.unnamable.kind = .css ∧ Lookup.unnamable.toQuery = .ok ⟨"css", "a"⟩ ∧
      ∃ t fault, Run (push [] .direct (.locator Lookup.unnamable)) page t (.error fault) page ∧
        calls t = [] :=
  ⟨⟨_, _, Script.run_against Context.obliging [] _⟩, rfl, rfl,
    _, _, Script.run_against Context.obliging [] _, rfl⟩

end Scope

end ElementSearch
