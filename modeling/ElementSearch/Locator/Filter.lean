import ElementSearch.Value.Display

/-! Filters.
A filter sees the value that was classified and the locator found for it, and may put another
locator in its place.  Filters run in the order of their registration, each on what the ones
before it left. -/

namespace ElementSearch

abbrev Filter := Value → Locator → Outcome (Option Locator)

namespace Filter

def apply (f : Filter) (raw : Value) (l : Locator) : Outcome Locator := do
  match ← f raw l with
  | some replacement => return replacement
  | none => return l

def applyAll (filters : List Filter) (raw : Value) (l : Locator) : Outcome Locator :=
  filters.foldlM (fun l f => f.apply raw l) l

@[simp] theorem applyAll_nil (raw : Value) (l : Locator) : applyAll [] raw l = .ok l := rfl

theorem applyAll_cons (f : Filter) (filters : List Filter) (raw : Value) (l : Locator) :
    applyAll (f :: filters) raw l = (f.apply raw l).bind (applyAll filters raw) := rfl

end Filter

/-- A filter in force, under the number it was given when it was made if it was given one. -/
structure Registered where
  handle : Option Nat
  filter : Filter

abbrev Registry := List Registered

namespace Registry

def filters (r : Registry) : List Filter := r.map Registered.filter

def add (r : Registry) (entry : Registered) : Registry := r ++ [entry]

def remove (r : Registry) (handle : Nat) : Registry :=
  r.eraseP fun entry => entry.handle == some handle

end Registry

end ElementSearch
