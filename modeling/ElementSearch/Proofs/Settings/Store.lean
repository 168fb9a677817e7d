import ElementSearch.Proofs.Value.Same
import ElementSearch.Settings.Store

/-! Cells of a heap.
A dictionary is what its cell holds.  Writing changes one cell, putting an item somewhere only adds
entries, and dictionaries that come after others are the same as without them, but for the places
they are at. -/

namespace ElementSearch

variable {α β : Type}

theorem Dict.get?_map (f : α → β) (entries : Dict α) (key : Value) :
    Dict.get? (entries.map fun entry => (entry.1, f entry.2)) key =
      (Dict.get? entries key).map f := by
  rw [Dict.get?, Dict.get?, List.find?_map]
  simp [Function.comp_def]

namespace Heap

variable {h : Heap} {root place : Nat} {x : Item} {keys : List String}

theorem cell_of_getElem? {entries : Cell} (here : h[place]? = some entries) :
    h.cell place = entries := by
  rw [cell, here]
  rfl

theorem cell_append_left (inside : place < h.length) (later : Heap) :
    (h ++ later).cell place = h.cell place := by
  rw [cell, cell, List.getElem?_append_left inside]

theorem cell_append_right (h later : Heap) (place : Nat) :
    (h ++ later).cell (h.length + place) = later.cell place := by
  rw [cell, cell, List.getElem?_append_right (Nat.le_add_right ..), Nat.add_sub_cancel_left]

theorem cell_append_self (h : Heap) (cell : Cell) : (h ++ [cell]).cell h.length = cell :=
  cell_append_right h [cell] 0

theorem cell_shift (n : Nat) (h : Heap) (place : Nat) :
    (h.shift n).cell place = (h.cell place).map fun entry => (entry.1, entry.2.shift n) := by
  rw [cell, cell, shift, List.getElem?_map]
  cases h[place]? <;> rfl

theorem getElem?_write_self {cell : Cell} (here : h[place]? = some cell) (key : Value)
    (x : Item) : (h.write place key x)[place]? = some (Dict.insert cell key x) := by
  rw [write, List.getElem?_modify_eq, here]
  rfl

theorem getElem?_write_other {p : Nat} (other : p ≠ place) (h : Heap) (key : Value) (x : Item) :
    (h.write place key x)[p]? = h[p]? := by
  rw [write, List.getElem?_modify]
  simp [Ne.symm other]

theorem cell_write_ne_nil {p : Nat} (some : h.cell p ≠ []) (key : Value) :
    (h.write place key x).cell p ≠ [] := by
  by_cases same : p = place
  · subst same
    cases here : h[p]? with
    | none => simp [cell, here] at some
    | some cell =>
      rw [cell_of_getElem? (getElem?_write_self here key x)]
      exact Dict.insert_ne_nil _ _ _
  · rwa [cell, getElem?_write_other same]

theorem lt_of_cell_ne_nil (some : h.cell place ≠ []) : place < h.length := by
  by_contra outside
  exact some (by simp [cell, List.getElem?_eq_none (Nat.le_of_not_lt outside)])

theorem cell_put_ne_nil {p : Nat} (some : h.cell p ≠ []) : (h.put root x keys).cell p ≠ [] := by
  induction keys generalizing h root with
  | nil => exact some
  | cons key rest ih =>
    cases rest with
    | nil => exact cell_write_ne_nil some _
    | cons key' rest =>
      unfold put
      split
      · exact ih some
      · refine ih ?_
        have written : (h.write root (.text key) (.dict h.length)).cell p ≠ [] :=
          cell_write_ne_nil some _
        rwa [cell_append_left (lt_of_cell_ne_nil written)]

theorem mergeEntries_ne_nil {inner : Heap → Nat → Nat → Outcome (Nat × Heap)}
    {base overlay merged : Cell} {h' : Heap} (some : base ≠ [])
    (ended : mergeEntries inner h base overlay = .ok (merged, h')) : merged ≠ [] := by
  induction overlay generalizing h base with
  | nil =>
    cases ended
    exact some
  | cons entry rest ih =>
    obtain ⟨key, x⟩ := entry
    unfold mergeEntries at ended
    split at ended
    · obtain ⟨_, _, further⟩ := Outcome.bind_eq_ok ended
      exact ih (Dict.insert_ne_nil _ _ _) further
    · exact ih (Dict.insert_ne_nil _ _ _) ended

theorem lookup_append_shift (before h : Heap) (x : Item) (keys : List String) :
    (before ++ h.shift before.length).lookup (x.shift before.length) keys =
      (h.lookup x keys).map (Item.shift before.length) := by
  induction keys generalizing x with
  | nil => cases x <;> rfl
  | cons key rest ih =>
    cases x with
    | dict place =>
      simp only [lookup, Item.shift, cell_append_right, cell_shift, Dict.get?_map]
      cases Dict.get? (h.cell place) (.text key) with
      | none => rfl
      | some inner => exact ih inner
    | _ => rfl

end Heap

namespace Store

variable {s merged : Store} {sheet : Sheet} {keys : List String}

theorem entries_behind (s : Store) (h : Heap) :
    (s.behind h).entries = s.entries.map fun entry => (entry.1, entry.2.shift h.length) := by
  rw [entries, behind, Heap.cell_append_right, Heap.cell_shift]
  rfl

theorem entries_behind_ne_nil (some : s.entries ≠ []) (h : Heap) : (s.behind h).entries ≠ [] := by
  rw [entries_behind]
  simpa using some

theorem entries_forget (s : Store) : s.forget.entries = [] := entries_behind empty s.heap

theorem entries_extend (s : Store) (cells : List Cell) : (s.extend cells).entries = s.entries :=
  Heap.cell_append_left s.valid cells

theorem entries_put_ne_nil (some : s.entries ≠ []) (x : Item) (keys : List String) :
    (s.put x keys).entries ≠ [] := Heap.cell_put_ne_nil some

theorem entries_merge_ne_nil (some : s.entries ≠ []) (ended : s.merge sheet = .ok merged) :
    merged.entries ≠ [] := by
  obtain ⟨overlay, _, rest⟩ := Outcome.bind_eq_ok ended
  obtain ⟨⟨cell, h⟩, laid, made⟩ := Outcome.bind_eq_ok rest
  cases made
  have some' : cell ≠ [] := Heap.mergeEntries_ne_nil some laid
  rwa [entries, Heap.cell_append_self]

end Store

end ElementSearch
