import ElementSearch.Decimal.Binary64
import ElementSearch.Locator.Kind

/-! Values that a test author may pass where an element, an option or a setting is expected.
A locator is itself a value, and its fields hold values: nothing but its kind is fixed. -/

namespace ElementSearch

structure LocatorOf (V : Type) where
  kind : Kind
  value : V
  /-- what the locator was classified from -/
  raw : V
  /-- the selector engine of a custom locator -/
  engine : V
  /-- component properties of a react or vue locator -/
  props : V
  /-- what is shown in place of the locator -/
  output : V
  /-- holds for locators that were given as objects -/
  strict : V

inductive Value where
  | null
  | bool (b : Bool)
  | int (n : Int)
  | float (x : Binary64)
  | text (s : String)
  | list (items : List Value)
  | tuple (items : List Value)
  | dict (entries : List (Value × Value))
  | locator (l : LocatorOf Value)

abbrev Locator := LocatorOf Value

/-- Keys and what stands under them, in the order in which the keys first appeared. -/
abbrev Dict (α : Type) := List (Value × α)

abbrev Entries := Dict Value

namespace Value

instance : Inhabited Value := ⟨null⟩

instance : Coe String Value := ⟨text⟩

/-- Empty texts and containers, zero, `false` and null are not truthy. -/
def isTruthy : Value → Bool
  | null => false
  | bool b => b
  | int n => n != 0
  | float x => !x.isZero
  | text s => !s.isEmpty
  | list items => !items.isEmpty
  | tuple items => !items.isEmpty
  | dict entries => !entries.isEmpty
  | locator _ => true

def isNull : Value → Bool
  | null => true
  | _ => false

def isDict : Value → Bool
  | dict _ => true
  | _ => false

def text? : Value → Option String
  | text s => some s
  | _ => none

def locator? : Value → Option Locator
  | locator l => some l
  | _ => none

/-- The members that a loop over the value visits: characters of a text, items of a list or
tuple, keys of a dictionary. -/
def items? : Value → Option (List Value)
  | text s => some (s.toList.map fun c => text (String.singleton c))
  | list items => some items
  | tuple items => some items
  | dict entries => some (entries.map Prod.fst)
  | _ => none

theorem exists_of_isDict {v : Value} (object : v.isDict = true) : ∃ entries, v = dict entries := by
  cases v with
  | dict entries => exact ⟨entries, rfl⟩
  | _ => cases object

@[simp] theorem isTruthy_bool (b : Bool) : isTruthy (bool b) = b := rfl

end Value

namespace LocatorOf

/-- A locator of the given kind and value with every other field at its default. -/
def make (kind : Kind) (value raw : Value) : Locator :=
  { kind := kind, value := value, raw := raw, engine := .null, props := .null, output := .null,
    strict := .bool false }

instance : Inhabited Locator := ⟨make .unknown .null .null⟩

end LocatorOf

end ElementSearch
