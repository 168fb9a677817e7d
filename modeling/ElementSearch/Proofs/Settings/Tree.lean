import ElementSearch.Value.Equality

/-! Settings as trees.
Where no dictionary stands inside itself, settings look like a tree, and a list of keys leads to
one of them.  What is done to the dictionaries is then done to the tree, as long as none of them
stands at two places: a value is put at one place, and an overlay wins wherever it says
something. -/

namespace ElementSearch.Settings

/-- What is found under a list of keys. -/
def lookup (v : Value) : List String → Option Value
  | [] => some v
  | key :: rest =>
    match v with
    | .dict entries => (Dict.get? entries (.text key)).bind fun inner => lookup inner rest
    | _ => none

/-- The dictionary under a key; anything else counts as an empty one. -/
def branch (entries : Entries) (key : String) : Entries :=
  match entries.get? (.text key) with
  | some (.dict inner) => inner
  | _ => []

/-- Puts a value under a list of keys and makes the dictionaries on the way. -/
def place (entries : Entries) (value : Value) : List String → Entries
  | [] => entries
  | [key] => entries.insert (.text key) value
  | key :: rest => entries.insert (.text key) (.dict (place (branch entries key) value rest))

def merge (base : Entries) : List (Value × Value) → Entries
  | [] => base
  | (key, value) :: rest =>
    match value with
    | .dict overlay =>
      match base.get? key with
      | some (.dict inner) => merge (base.insert key (.dict (merge inner overlay))) rest
      | _ => merge (base.insert key (.dict overlay)) rest
    | value => merge (base.insert key value) rest

theorem lookup_cons (entries : Entries) (key : String) (rest : List String) :
    lookup (.dict entries) (key :: rest) =
      (Dict.get? entries (.text key)).bind fun inner => lookup inner rest := rfl

@[simp] theorem merge_nil (base : Entries) : merge base [] = base := by
  simp [merge]

end ElementSearch.Settings
