import ElementSearch.Fault
import ElementSearch.Value.Equality

/-! Dictionaries that are kept.
A dictionary may stand under several keys at once, and what is put into it is found under all of
them.  So every dictionary has a place on a heap, where its entries are, and an item has the place
of a dictionary where a value has the dictionary itself. -/

namespace ElementSearch

def Value.isSingle : Value → Bool
  | .list _ | .tuple _ | .dict _ => false
  | _ => true

theorem Value.isDict_of_isSingle {v : Value} (plain : v.isSingle = true) : v.isDict = false := by
  cases v with
  | dict _ => cases plain
  | _ => rfl

/-- A value that mentions its dictionaries by their places. -/
inductive Item where
  | single (v : Value) (plain : v.isSingle = true)
  | list (items : List Item)
  | tuple (items : List Item)
  | dict (place : Nat)

abbrev Cell := Dict Item

abbrev Heap := List Cell

namespace Item

def null : Item := .single .null rfl

def text (s : String) : Item := .single (.text s) rfl

def isTruthy : Item → Bool
  | .single v _ => v.isTruthy
  | .list items => !items.isEmpty
  | .tuple items => !items.isEmpty
  | .dict _ => true

mutual

def shift (n : Nat) : Item → Item
  | .single v plain => .single v plain
  | .list items => .list (shiftAll n items)
  | .tuple items => .tuple (shiftAll n items)
  | .dict place => .dict (n + place)

def shiftAll (n : Nat) : List Item → List Item
  | [] => []
  | x :: xs => x.shift n :: shiftAll n xs

end

mutual

/-- The value, if `inner` says what the dictionaries look like. -/
def look (inner : Nat → Value) : Item → Value
  | .single v _ => v
  | .list items => .list (lookAll inner items)
  | .tuple items => .tuple (lookAll inner items)
  | .dict place => inner place

def lookAll (inner : Nat → Value) : List Item → List Value
  | [] => []
  | x :: xs => x.look inner :: lookAll inner xs

end

end Item

namespace Heap

/-- There is nothing at a place where no dictionary is. -/
def cell (h : Heap) (place : Nat) : Cell := h[place]?.getD []

def shift (n : Nat) (h : Heap) : Heap :=
  h.map fun cell => cell.map fun entry => (entry.1, entry.2.shift n)

def write (h : Heap) (place : Nat) (key : Value) (x : Item) : Heap :=
  h.modify place fun cell => Dict.insert cell key x

def lookup (h : Heap) (x : Item) : List String → Option Item
  | [] => some x
  | key :: rest =>
    match x with
    | .dict place => (Dict.get? (h.cell place) (.text key)).bind fun inner => h.lookup inner rest
    | _ => none

/-- Puts an item under a list of keys, into the dictionary that is there; where there is none on
the way a new one is made. -/
def put (h : Heap) (root : Nat) (x : Item) : List String → Heap
  | [] => h
  | [key] => h.write root (.text key) x
  | key :: rest =>
    match Dict.get? (h.cell root) (.text key) with
    | some (.dict inner) => h.put inner x rest
    | _ => Heap.put (h.write root (.text key) (.dict h.length) ++ [[]]) h.length x rest

mutual

/-- A value with dictionaries of its own, which are added to the heap. -/
def take : Value → Heap → Item × Heap
  | .null, h => (.single .null rfl, h)
  | .bool b, h => (.single (.bool b) rfl, h)
  | .int n, h => (.single (.int n) rfl, h)
  | .float x, h => (.single (.float x) rfl, h)
  | .text s, h => (.single (.text s) rfl, h)
  | .locator l, h => (.single (.locator l) rfl, h)
  | .list items, h =>
    let (items, h) := takeAll items h
    (.list items, h)
  | .tuple items, h =>
    let (items, h) := takeAll items h
    (.tuple items, h)
  | .dict entries, h =>
    let (cell, h) := takeEntries entries h
    (.dict h.length, h ++ [cell])

def takeAll : List Value → Heap → List Item × Heap
  | [], h => ([], h)
  | v :: vs, h =>
    let (x, h) := take v h
    let (xs, h) := takeAll vs h
    (x :: xs, h)

def takeEntries : List (Value × Value) → Heap → Cell × Heap
  | [], h => ([], h)
  | (key, v) :: rest, h =>
    let (x, h) := take v h
    let (cell, h) := takeEntries rest h
    ((key, x) :: cell, h)

end

/-- What a dictionary looks like, down to a depth; what is below is left out. -/
def showAt (h : Heap) : Nat → Nat → Value
  | 0, _ => .dict []
  | depth + 1, place =>
    .dict ((h.cell place).map fun entry => (entry.1, entry.2.look (h.showAt depth)))

/-- What an item looks like.  Unless one dictionary stands inside itself, none is further down than
there are dictionaries. -/
def «show» (h : Heap) (x : Item) : Value := x.look (h.showAt h.length)

/-- Lays the entries of an overlay over a dictionary; `inner` merges two dictionaries into one. -/
def mergeEntries (inner : Heap → Nat → Nat → Outcome (Nat × Heap)) :
    Heap → Cell → Cell → Outcome (Cell × Heap)
  | h, base, [] => .ok (base, h)
  | h, base, (key, x) :: rest =>
    match Dict.get? base key, x with
    | some (.dict below), .dict above => do
      let (place, h) ← inner h below above
      mergeEntries inner h (Dict.insert base key (.dict place)) rest
    | _, x => mergeEntries inner h (Dict.insert base key x) rest

/-- A new dictionary with the entries of two.  Merging dictionaries inside dictionaries ends unless
both go round in circles, and it has done so when it is as deep as there are pairs of them. -/
def mergeAt : Nat → Heap → Nat → Nat → Outcome (Nat × Heap)
  | 0, _, _, _ => .error .endless
  | depth + 1, h, base, overlay => do
    let (cell, h) ← mergeEntries (mergeAt depth) h (h.cell base) (h.cell overlay)
    return (h.length, h ++ [cell])

def merge (h : Heap) (base overlay : Cell) : Outcome (Cell × Heap) :=
  mergeEntries (mergeAt (h.length * h.length)) h base overlay

/-- The entries that are laid over others; what says nothing has none. -/
def overlay (h : Heap) (x : Item) : Outcome Cell :=
  match x with
  | .dict place => .ok (h.cell place)
  | x => if x.isTruthy then .error .missingAttribute else .ok []

theorem length_write (h : Heap) (place : Nat) (key : Value) (x : Item) :
    (h.write place key x).length = h.length := List.length_modify ..

theorem length_le_put (h : Heap) (root : Nat) (x : Item) (keys : List String) :
    h.length ≤ (h.put root x keys).length := by
  induction keys generalizing h root with
  | nil => exact Nat.le_refl _
  | cons key rest ih =>
    cases rest with
    | nil => exact Nat.le_of_eq (length_write ..).symm
    | cons key' rest =>
      unfold put
      split
      · exact ih h _
      · refine Nat.le_trans ?_ (ih _ _)
        rw [List.length_append, length_write]
        exact Nat.le_add_right ..

end Heap

/-- The content of a file: an item with a heap of its own. -/
structure Sheet where
  heap : Heap
  top : Item

namespace Sheet

def ofValue (v : Value) : Sheet :=
  let (x, h) := Heap.take v []
  ⟨h, x⟩

end Sheet

/-- A dictionary that is in use, and all the others. -/
structure Store where
  heap : Heap
  root : Nat
  valid : root < heap.length

namespace Store

def ofEntries (entries : Entries) : Store where
  heap := (Heap.takeEntries entries []).2 ++ [(Heap.takeEntries entries []).1]
  root := (Heap.takeEntries entries []).2.length
  valid := by simp

def empty : Store := ofEntries []

def entries (s : Store) : Cell := s.heap.cell s.root

/-- The same dictionary when others come first. -/
def behind (s : Store) (h : Heap) : Store where
  heap := h ++ s.heap.shift h.length
  root := h.length + s.root
  valid := by simp [Heap.shift, s.valid]

/-- An empty dictionary is used from now on. -/
def forget (s : Store) : Store := empty.behind s.heap

def extend (s : Store) (cells : List Cell) : Store where
  heap := s.heap ++ cells
  root := s.root
  valid := Nat.lt_of_lt_of_le s.valid (by simp)

def put (s : Store) (x : Item) (keys : List String) : Store where
  heap := s.heap.put s.root x keys
  root := s.root
  valid := Nat.lt_of_lt_of_le s.valid (s.heap.length_le_put s.root x keys)

def merge (s : Store) (sheet : Sheet) : Outcome Store := do
  let h := s.heap ++ sheet.heap.shift s.heap.length
  let overlay ← h.overlay (sheet.top.shift s.heap.length)
  let (cell, h) ← h.merge s.entries overlay
  return ⟨h ++ [cell], h.length, by simp⟩

end Store

end ElementSearch
