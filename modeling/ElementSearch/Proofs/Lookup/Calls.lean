import ElementSearch.Proofs.Action.Confinement
import ElementSearch.Proofs.Locator.Shown
import ElementSearch.Proofs.Lookup.Walk

/-! The calls of a search.
A search calls the driver for its queries only.  A locator that is not fuzzy is one call, unless
there is nothing to ask or the note before the query cannot be worded; that needs something that
cannot be shown.  Whatever is found, the last call has found it. -/

namespace ElementSearch

/-- A request that is a query if it calls the driver at all. -/
def Request.OnlyQueries (r : Request) : Prop :=
  r.place?.isSome = true → ∃ kind value root, r = .query kind value root

namespace Lookup

open Value

variable {l : Locator} {family : Family} {root : Handle} {t : List Exchange}
  {asked : List Inquiry}

theorem calls_eq_map (queries : ∀ e ∈ t, e.request.OnlyQueries) :
    calls t = (Inquiry.listOf t).map Inquiry.exchange := by
  induction t with
  | nil => rfl
  | cons e rest ih =>
    obtain ⟨first, others⟩ := List.forall_mem_cons.mp queries
    rw [← List.singleton_append, calls_append, Inquiry.listOf_append, List.map_append, ih others]
    congr 1
    obtain ⟨r, answer⟩ := e
    cases r with
    | query kind value root => rfl
    | enterFrames _ _ | frameAt _ _ =>
      obtain ⟨_, _, _, same⟩ := first rfl
      cases same
    | _ => rfl

theorem calls_of_resolveLocator {o : Outcome (List Handle)}
    (run : Job.Run (resolveLocator .direct l family root) t o) :
    calls t = (Inquiry.listOf t).map Inquiry.exchange := by
  refine calls_eq_map (Job.Asks.of_run (asks_resolveLocator ?_ ?_ l family) run)
  · intro kind value
    exact Job.asks_asking (Script.asks_request fun _ => ⟨kind, value, root, rfl⟩)
  · intro note called
    cases called

/-- The locator has a query, and the note before it cannot be worded. -/
def IsUnworded (l : Locator) : Prop :=
  ∃ q fault, l.toQuery = .ok q ∧ announced l q = .error fault

/-- The locator asks nothing: it matches nothing, it has no query, or the note before the query
cannot be worded. -/
def IsIdle (l : Locator) : Prop :=
  l.kind = .unknown ∨ (∃ fault, l.toQuery = .error fault) ∨ IsUnworded l

theorem wellShownItems_of_forall {items : List Value}
    (each : ∀ x ∈ items, x.wellShown = true) : wellShownItems items = true := by
  induction items with
  | nil => rfl
  | cons x xs ih =>
    obtain ⟨first, rest⟩ := List.forall_mem_cons.mp each
    exact Bool.and_eq_true_iff.mpr ⟨first, ih rest⟩

theorem wellShown_of_members {v : Value} {items : List Value} (shown : v.wellShown = true)
    (members : LocatorOf.membersOf v = .ok items) : wellShownItems items = true := by
  cases v with
  | text s =>
    cases members
    refine wellShownItems_of_forall fun x mem => ?_
    obtain ⟨_, _, rfl⟩ := List.mem_map.mp mem
    rfl
  | list _ | tuple _ =>
    cases members
    exact shown
  | dict entries =>
    cases members
    refine wellShownItems_of_forall fun x mem => ?_
    obtain ⟨_, entry, rfl⟩ := List.mem_map.mp mem
    exact (wellShown_of_entry shown entry).1
  | _ => cases members

theorem wellShown_of_simplify (fields : FieldsShown l) {v : Value}
    (simplified : l.simplify = .ok v) : v.wellShown = true := by
  unfold LocatorOf.simplify at simplified
  cases kind : l.kind with simp only [kind] at simplified
  | id | name =>
    obtain ⟨_, _, same⟩ := Outcome.bind_eq_ok simplified
    cases same
    rfl
  | shadow =>
    obtain ⟨hosts, members, same⟩ := Outcome.bind_eq_ok simplified
    cases same
    have shown := wellShown_of_members fields.value members
    simp [wellShown, wellShownEntries, shown]
  | custom =>
    split at simplified
    · obtain ⟨_, _, same⟩ := Outcome.bind_eq_ok simplified
      cases same
      rfl
    · cases simplified
      exact fields.value
  | unknown =>
    cases simplified
    rfl
  | _ =>
    cases simplified
    exact fields.value

theorem wellShown_of_compiled (fields : FieldsShown l) {q : Query} (compiled : l.toQuery = .ok q) :
    q.kind.wellShown = true ∧ q.value.wellShown = true := by
  have selector {label : String} (written : (do
      let v ← l.simplify
      return (⟨label, v⟩ : Query)) = .ok q) :
      q.kind.wellShown = true ∧ q.value.wellShown = true := by
    obtain ⟨v, simplified, same⟩ := Outcome.bind_eq_ok written
    cases same
    exact ⟨rfl, wellShown_of_simplify fields simplified⟩
  have refused : LocatorOf.toQuery.refuse l ≠ .ok q := by
    intro done
    obtain ⟨_, _, failed⟩ := Outcome.bind_eq_ok done
    cases failed
  have component (written : LocatorOf.toQuery.component l = .ok q) :
      q.kind.wellShown = true ∧ q.value.wellShown = true := by
    obtain ⟨name, _, rest⟩ := Outcome.bind_eq_ok written
    obtain ⟨tests, _, same⟩ := Outcome.bind_eq_ok rest
    cases same
    exact ⟨rfl, rfl⟩
  unfold LocatorOf.toQuery at compiled
  cases kind : l.kind with simp only [kind] at compiled
  | frame | unknown => exact absurd compiled refused
  | css | id | name | fuzzy => exact selector compiled
  | xpath =>
    cases compiled
    exact ⟨rfl, fields.value⟩
  | shadow =>
    obtain ⟨hosts, members, same⟩ := Outcome.bind_eq_ok compiled
    cases same
    exact ⟨rfl, wellShown_of_members fields.value members⟩
  | react | vue => exact component compiled
  | custom =>
    split at compiled
    · exact selector compiled
    · cases compiled
      refine ⟨?_, fields.value⟩
      split
      · exact fields.engine
      · rfl

theorem not_isUnworded (shown : (Value.locator l).wellShown = true) : ¬IsUnworded l := by
  rintro ⟨q, fault, compiled, unworded⟩
  obtain ⟨kindShown, valueShown⟩ :=
    wellShown_of_compiled (wellShown_locator_iff.mp shown) compiled
  obtain ⟨name, named⟩ := named_of_wellShown shown
  obtain ⟨kind, kinds⟩ := named_of_wellShown kindShown
  obtain ⟨value, values⟩ := named_of_wellShown valueShown
  rw [announced, named, kinds, values] at unworded
  cases unworded

theorem single_of_askedOnce {o : Outcome (List Handle)} (once : AskedOnce l root asked o) :
    asked.length ≤ 1 ∧ (asked = [] ↔ (∃ fault, l.toQuery = .error fault) ∨ IsUnworded l) := by
  unfold AskedOnce at once
  unfold IsUnworded
  cases compiled : l.toQuery with rw [compiled] at once
  | error fault =>
    obtain ⟨rfl, _⟩ := once
    simp
  | ok q =>
    cases worded : announced l q with simp only [worded] at once
    | error fault =>
      obtain ⟨rfl, _⟩ := once
      simp [worded]
    | ok words =>
      obtain ⟨a, rfl, _⟩ := once
      simp [worded]

theorem single_of_searched {o : Outcome (List Handle)} (element : l.kind ≠ .frame)
    (plain : l.kind ≠ .fuzzy) (searched : Searched l family root asked o) :
    asked.length ≤ 1 ∧ (asked = [] ↔ IsIdle l) := by
  unfold Searched at searched
  unfold IsIdle
  cases kind : l.kind with rw [kind] at searched
  | frame => exact absurd kind element
  | fuzzy => exact absurd kind plain
  | unknown =>
    obtain ⟨rfl, _⟩ := searched
    simp
  | css | xpath | id | name | custom | react | vue | shadow =>
    simpa using single_of_askedOnce searched

/-- The last of the queries is the one that found something, and none before it did. -/
structure FoundLast (root : Handle) (asked : List Inquiry) (elements : List Handle) : Prop where
  here : ∀ a ∈ asked, a.root = root
  hit : ∃ before last, asked = before ++ [last] ∧ last.answer = .ok (some elements) ∧
    ∀ a ∈ before, ∀ first others, a.found ≠ .ok (first :: others)

theorem answer_of_found {a : Inquiry} {first : Handle} {others : List Handle}
    (found : a.found = .ok (first :: others)) : a.answer = .ok (some (first :: others)) := by
  obtain ⟨q, root, answer⟩ := a
  cases answer with
  | error fault => cases found
  | ok elements =>
    cases elements with
    | none => cases found
    | some elements =>
      cases found
      rfl

theorem passed_of_forall {passed : List Tier} {before : List Inquiry}
    (all : List.Forall₂ (Passed root) passed before) {a : Inquiry} (mem : a ∈ before) :
    a.root = root ∧ ∀ first others, a.found ≠ .ok (first :: others) := by
  induction all with
  | nil => cases mem
  | cons head _ ih =>
    rcases List.mem_cons.mp mem with rfl | later
    · refine ⟨head.1.2, ?_⟩
      intro first others found
      have unsettled := head.2
      rw [found] at unsettled
      cases unsettled
    · exact ih later

theorem foundLast_of_walked {tiers : List Tier} {first : Handle} {others : List Handle}
    (walked : Walked tiers root asked (.ok (first :: others))) :
    FoundLast root asked (first :: others) := by
  obtain ⟨passed, before, all, ⟨t, _, last, _, rfl, put, _, found⟩ | ⟨_, _, impossible⟩⟩ := walked
  · refine ⟨?_, before, last, rfl, answer_of_found found.symm, ?_⟩
    · intro a mem
      rcases List.mem_append.mp mem with earlier | only
      · exact (passed_of_forall all earlier).1
      · rw [List.mem_singleton.mp only, put.2]
    · exact fun a mem => (passed_of_forall all mem).2
  · cases impossible

theorem found_of_askedOnce {first : Handle} {others : List Handle}
    (once : AskedOnce l root asked (.ok (first :: others))) :
    ∃ q, l.toQuery = .ok q ∧ asked = [⟨q, root, .ok (some (first :: others))⟩] := by
  unfold AskedOnce at once
  split at once
  · cases once.2
  rename_i q compiled
  split at once
  · cases once.2
  obtain ⟨⟨_, _, _⟩, rfl, rfl, rfl, found⟩ := once
  refine ⟨_, compiled, ?_⟩
  rw [← answer_of_found found.symm]

end Lookup

end ElementSearch
