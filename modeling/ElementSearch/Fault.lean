import ElementSearch.Value.Basic

/-! What can go wrong.
A cause is a failure of the search itself and keeps the values it is about; a fault is any
failure that ends an operation, the search's own ones among them. -/

namespace ElementSearch

/-- The failures of a search. -/
inductive Cause where
  /-- the locator names no kind, or one that cannot be used here -/
  | invalidKind (locator message : Value)
  /-- no element matched; `role` opens and `clause` closes the sentence -/
  | elementNotFound (locator role clause : Value)
  /-- a frame was to be entered inside the scope of an element -/
  | nestedScope (locator active : Value)
  /-- the driver could not run a query -/
  | queryFailed (kind value reason : Value)
  /-- a failure of no particular sort -/
  | other (parts : List Value)

/-- What is wrong with a file or a program. -/
inductive FileProblem where
  | missing
  /-- something of the name is there already -/
  | taken
  | directory
  | notDirectory
  /-- the system does not take the name -/
  | refused
deriving DecidableEq

inductive Fault where
  | search (cause : Cause) (message : String)
  /-- a value of the right type that cannot be used -/
  | badValue (message : String)
  /-- an expectation about the page does not hold -/
  | expectation (message : String)
  /-- the page or the element is no longer usable -/
  | lost (message : String)
  /-- the browser refused a request -/
  | browser (message : String)
  | missingKey (key : String)
  /-- no filter was given the number -/
  | unknownNumber
  | wrongType
  | missingAttribute
  | outOfRange
  | badSettings
  /-- what was asked for goes round in circles -/
  | endless
  | file (problem : FileProblem)

abbrev Outcome := Except Fault

namespace Outcome

variable {α β : Type} {o : Outcome α} {fault : Fault}

theorem bind_of_ok {a : α} (h : o = .ok a) (f : α → Outcome β) : o >>= f = f a := by
  rw [h]
  rfl

theorem bind_of_error (h : o = .error fault) (f : α → Outcome β) : o >>= f = .error fault := by
  rw [h]
  rfl

theorem bind_eq_ok {f : α → Outcome β} {b : β} (ended : o >>= f = .ok b) :
    ∃ a, o = .ok a ∧ f a = .ok b := by
  cases o with
  | error fault => cases ended
  | ok a => exact ⟨a, rfl, ended⟩

theorem bind_eq_error {f : α → Outcome β} (failed : o >>= f = .error fault) :
    o = .error fault ∨ ∃ a, o = .ok a ∧ f a = .error fault := by
  cases o with
  | error reason =>
    cases failed
    exact .inl rfl
  | ok a => exact .inr ⟨a, rfl, failed⟩

theorem map_eq_ok {f : α → β} {b : β} (ended : o.map f = .ok b) : ∃ a, o = .ok a ∧ f a = b := by
  cases o with
  | error fault => cases ended
  | ok a => exact ⟨a, rfl, Except.ok.inj ended⟩

theorem map_eq_error {f : α → β} (failed : o.map f = .error fault) : o = .error fault := by
  cases o with
  | error reason =>
    cases failed
    rfl
  | ok a => cases failed

theorem exists_bind_eq_ok {f : α → Outcome β} :
    (∃ b, o >>= f = .ok b) ↔ ∃ a, o = .ok a ∧ ∃ b, f a = .ok b := by
  constructor
  · rintro ⟨b, ended⟩
    obtain ⟨a, first, rest⟩ := bind_eq_ok ended
    exact ⟨a, first, b, rest⟩
  · rintro ⟨a, first, b, rest⟩
    exact ⟨b, (bind_of_ok first f).trans rest⟩

theorem exists_map_eq_ok {f : α → β} : (∃ b, o.map f = .ok b) ↔ ∃ a, o = .ok a := by
  cases o <;> simp [Except.map]

end Outcome

end ElementSearch
