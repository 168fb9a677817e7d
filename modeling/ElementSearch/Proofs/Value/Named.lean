import ElementSearch.Value.Document

/-! Values that can be named.
Only a locator whose output is not a text, or a value that holds one where it is shown, has no name,
and only a whole number with too many digits cannot be spelled.  The JSON text of a value whose
keys are texts and that can be spelled fails for the first reason only. -/

namespace ElementSearch.Value

/-- The value can be displayed. -/
def Named (v : Value) : Prop := ∃ shown, v.display = .ok shown

/-- The value can be written out, so no whole number in it has too many digits. -/
def Spelled (v : Value) : Prop := ∃ shown, v.inspect = .ok shown

theorem longNumber_of_written {n : Int} {fault : Fault} (failed : written n = .error fault) :
    fault = .longNumber := by
  unfold written at failed
  split at failed
  · cases failed
  · cases failed
    rfl

mutual

theorem longNumber_of_inspect {fault : Fault} (v : Value) (failed : v.inspect = .error fault) :
    fault = .longNumber := by
  cases v with
  | int n => exact longNumber_of_written failed
  | list items | tuple items =>
    rcases Outcome.bind_eq_error failed with all | ⟨_, _, done⟩
    · exact longNumber_of_inspectItems items all
    · cases done
  | dict entries =>
    rcases Outcome.bind_eq_error failed with all | ⟨_, _, done⟩
    · exact longNumber_of_inspectEntries entries all
    · cases done
  | locator l =>
    obtain ⟨kind, value, raw, engine, props, output, strict⟩ := l
    unfold inspect at failed
    rcases Outcome.bind_eq_error failed with part | ⟨_, _, failed⟩
    · exact longNumber_of_inspect value part
    rcases Outcome.bind_eq_error failed with part | ⟨_, _, failed⟩
    · exact longNumber_of_inspect raw part
    rcases Outcome.bind_eq_error failed with part | ⟨_, _, failed⟩
    · exact longNumber_of_inspect engine part
    rcases Outcome.bind_eq_error failed with part | ⟨_, _, failed⟩
    · exact longNumber_of_inspect props part
    rcases Outcome.bind_eq_error failed with part | ⟨_, _, failed⟩
    · exact longNumber_of_inspect output part
    rcases Outcome.bind_eq_error failed with part | ⟨_, _, done⟩
    · exact longNumber_of_inspect strict part
    · cases done
  | _ => cases failed

theorem longNumber_of_inspectItems {fault : Fault} (items : List Value)
    (failed : inspectItems items = .error fault) : fault = .longNumber := by
  cases items with
  | nil => cases failed
  | cons x xs =>
    rcases Outcome.bind_eq_error failed with first | ⟨_, _, rest⟩
    · exact longNumber_of_inspect x first
    rcases Outcome.bind_eq_error rest with others | ⟨_, _, done⟩
    · exact longNumber_of_inspectItems xs others
    · cases done

theorem longNumber_of_inspectEntries {fault : Fault} (entries : List (Value × Value))
    (failed : inspectEntries entries = .error fault) : fault = .longNumber := by
  cases entries with
  | nil => cases failed
  | cons entry rest =>
    obtain ⟨key, v⟩ := entry
    rcases Outcome.bind_eq_error failed with name | ⟨_, _, failed⟩
    · exact longNumber_of_inspect key name
    rcases Outcome.bind_eq_error failed with part | ⟨_, _, failed⟩
    · exact longNumber_of_inspect v part
    rcases Outcome.bind_eq_error failed with others | ⟨_, _, done⟩
    · exact longNumber_of_inspectEntries rest others
    · cases done

end

theorem not_spelled {v : Value} {fault : Fault} (failed : v.inspect = .error fault) :
    ¬v.Spelled := by
  rintro ⟨shown, spelled⟩
  rw [failed] at spelled
  cases spelled


section

variable {items : List Value} {entries : List (Value × Value)}

theorem exists_inspectItems_iff :
    (∃ parts, inspectItems items = .ok parts) ↔ ∀ x ∈ items, x.Spelled := by
  induction items with
  | nil => simp [inspectItems]
  | cons x xs ih =>
    rw [List.forall_mem_cons, ← ih, inspectItems, Outcome.exists_bind_eq_ok]
    simp only [Outcome.exists_bind_eq_ok, Spelled]
    constructor
    · rintro ⟨first, spelled, rest, all, _⟩
      exact ⟨⟨first, spelled⟩, rest, all⟩
    · rintro ⟨⟨first, spelled⟩, rest, all⟩
      exact ⟨first, spelled, rest, all, _, rfl⟩

theorem exists_inspectEntries_iff :
    (∃ parts, inspectEntries entries = .ok parts) ↔
      ∀ entry ∈ entries, entry.1.Spelled ∧ entry.2.Spelled := by
  induction entries with
  | nil => simp [inspectEntries]
  | cons entry rest ih =>
    rw [List.forall_mem_cons, ← ih, inspectEntries, Outcome.exists_bind_eq_ok]
    simp only [Outcome.exists_bind_eq_ok, Spelled]
    constructor
    · rintro ⟨key, name, x, part, others, all, _⟩
      exact ⟨⟨⟨key, name⟩, x, part⟩, others, all⟩
    · rintro ⟨⟨⟨key, name⟩, x, part⟩, others, all⟩
      exact ⟨key, name, x, part, others, all, _, rfl⟩

theorem spelled_list_iff : (list items).Spelled ↔ ∀ x ∈ items, x.Spelled := by
  rw [← exists_inspectItems_iff, Spelled, inspect, Outcome.exists_bind_eq_ok]
  exact exists_congr fun parts => ⟨fun all => all.1, fun all => ⟨all, _, rfl⟩⟩

theorem spelled_tuple_iff : (tuple items).Spelled ↔ ∀ x ∈ items, x.Spelled := by
  rw [← exists_inspectItems_iff, Spelled, inspect, Outcome.exists_bind_eq_ok]
  exact exists_congr fun parts => ⟨fun all => all.1, fun all => ⟨all, _, rfl⟩⟩

theorem spelled_dict_iff :
    (dict entries).Spelled ↔ ∀ entry ∈ entries, entry.1.Spelled ∧ entry.2.Spelled := by
  rw [← exists_inspectEntries_iff, Spelled, inspect, Outcome.exists_bind_eq_ok]
  exact exists_congr fun parts => ⟨fun all => all.1, fun all => ⟨all, _, rfl⟩⟩

theorem spelled_locator_iff {l : Locator} :
    (locator l).Spelled ↔ l.value.Spelled ∧ l.raw.Spelled ∧ l.engine.Spelled ∧
      l.props.Spelled ∧ l.output.Spelled ∧ l.strict.Spelled := by
  obtain ⟨kind, value, raw, engine, props, output, strict⟩ := l
  rw [Spelled, inspect]
  simp only [Outcome.exists_bind_eq_ok, Spelled]
  constructor
  · rintro ⟨_, first, _, second, _, third, _, fourth, _, fifth, _, sixth, _⟩
    exact ⟨⟨_, first⟩, ⟨_, second⟩, ⟨_, third⟩, ⟨_, fourth⟩, ⟨_, fifth⟩, _, sixth⟩
  · rintro ⟨⟨_, first⟩, ⟨_, second⟩, ⟨_, third⟩, ⟨_, fourth⟩, ⟨_, fifth⟩, _, sixth⟩
    exact ⟨_, first, _, second, _, third, _, fourth, _, fifth, _, sixth, _, rfl⟩

end

theorem instead_error {output : Value} {fault : Fault} (failed : instead output = .error fault) :
    fault = .wrongType := by
  cases output with
  | text s | null => cases failed
  | _ =>
    cases failed
    rfl

/-- Why a value cannot be displayed. -/
def Hinders (v : Value) (fault : Fault) : Prop :=
  fault = .wrongType ∨ fault = .longNumber ∧ ¬v.Spelled

theorem hinders_of_inspect {v : Value} {fault : Fault} (failed : v.inspect = .error fault) :
    v.Hinders fault :=
  .inr ⟨longNumber_of_inspect v failed, not_spelled failed⟩

theorem Hinders.imp {v w : Value} {fault : Fault} (hinders : v.Hinders fault)
    (part : w.Spelled → v.Spelled) : w.Hinders fault :=
  Or.imp id (fun ⟨same, unspelled⟩ => ⟨same, fun spelled => unspelled (part spelled)⟩) hinders

mutual

theorem hinders_of_displayAt {place : Place} {fault : Fault} (v : Value)
    (failed : displayAt place v = .error fault) : v.Hinders fault := by
  cases v with
  | locator l =>
    obtain ⟨kind, value, raw, engine, props, output, strict⟩ := l
    unfold displayAt at failed
    split at failed
    · cases failed
    · have inner {place : Place} {label : String} (rest : (do
          let body ← displayAt place value
          return labelled label body) = Except.error fault) :
          (locator ⟨kind, value, raw, engine, props, output, strict⟩).Hinders fault := by
        rcases Outcome.bind_eq_error rest with body | ⟨body, _, done⟩
        · exact (hinders_of_displayAt value body).imp fun all => (spelled_locator_iff.mp all).1
        · cases done
      dsimp only at failed
      split at failed
      · rcases Outcome.bind_eq_error failed with label | ⟨label, _, rest⟩
        · exact (hinders_of_displayAt engine label).imp
            fun all => (spelled_locator_iff.mp all).2.2.1
        · exact inner rest
      · exact inner failed
    · rename_i given
      cases failed
      exact .inl (instead_error given)
  | tuple items =>
    unfold displayAt at failed
    split at failed
    · exact hinders_of_inspect failed
    · exact (hinders_of_inspect failed).imp
        fun all => spelled_list_iff.mpr (spelled_tuple_iff.mp all)
    · rcases Outcome.bind_eq_error failed with shown | ⟨shown, _, done⟩
      · obtain ⟨x, mem, hinders⟩ := hinders_of_displayItems items shown
        exact hinders.imp fun all => spelled_tuple_iff.mp all x mem
      · cases done
  | int _ | list _ | dict _ => exact hinders_of_inspect failed
  | _ => cases failed

theorem hinders_of_displayItems {fault : Fault} (items : List Value)
    (failed : displayItems items = .error fault) : ∃ x ∈ items, x.Hinders fault := by
  cases items with
  | nil => cases failed
  | cons x xs =>
    unfold displayItems at failed
    rcases Outcome.bind_eq_error failed with first | ⟨first, _, rest⟩
    · exact ⟨x, List.mem_cons_self, hinders_of_displayAt x first⟩
    · rcases Outcome.bind_eq_error rest with others | ⟨others, _, done⟩
      · obtain ⟨y, mem, hinders⟩ := hinders_of_displayItems xs others
        exact ⟨y, List.mem_cons_of_mem x mem, hinders⟩
      · cases done

end

theorem hinders_of_display {v : Value} {fault : Fault} (failed : v.display = .error fault) :
    v.Hinders fault :=
  hinders_of_displayAt v failed

theorem unnamed_of_error {v : Value} {fault : Fault} (failed : v.display = .error fault) :
    ¬v.Named := by
  rintro ⟨shown, named⟩
  rw [failed] at named
  cases named

theorem Hinders.wrongType {v : Value} {fault : Fault} (hinders : v.Hinders fault)
    (spelled : v.Spelled) : fault = .wrongType :=
  hinders.resolve_right fun long => long.2 spelled

section Shown

variable {items : List Value} {l : Locator}

theorem exists_displayItems_iff :
    (∃ parts, displayItems items = .ok parts) ↔ ∀ x ∈ items, x.Named := by
  induction items with
  | nil => simp [displayItems]
  | cons x xs ih =>
    rw [List.forall_mem_cons, ← ih, displayItems, Outcome.exists_bind_eq_ok]
    simp only [Outcome.exists_bind_eq_ok, Named, display]
    constructor
    · rintro ⟨first, shown, rest, all, _⟩
      exact ⟨⟨first, shown⟩, rest, all⟩
    · rintro ⟨⟨first, shown⟩, rest, all⟩
      exact ⟨first, shown, rest, all, _, rfl⟩

theorem exists_of_displayItems {fault : Fault} (failed : displayItems items = .error fault) :
    ∃ x ∈ items, x.display = .error fault := by
  induction items with
  | nil => cases failed
  | cons x xs ih =>
    rcases Outcome.bind_eq_error failed with first | ⟨_, _, rest⟩
    · exact ⟨x, List.mem_cons_self, first⟩
    rcases Outcome.bind_eq_error rest with others | ⟨_, _, done⟩
    · obtain ⟨y, mem, there⟩ := ih others
      exact ⟨y, List.mem_cons_of_mem x mem, there⟩
    · cases done

theorem display_of_output {s : String} (said : l.output = .text s) :
    (locator l).display = .ok s := by
  obtain ⟨kind, value, raw, engine, props, output, strict⟩ := l
  obtain rfl : output = .text s := said
  simp only [display, displayAt, instead]

def placeOf (l : Locator) : Place := if l.kind = .frame then .inFrame else .inLocator

def labelOf (l : Locator) : Outcome String :=
  if l.kind = .custom && l.engine.isTruthy then l.engine.display else .ok l.kind.label

theorem display_of_no_output (none : l.output = .null) :
    (locator l).display = (do
      let label ← labelOf l
      let body ← displayAt (placeOf l) l.value
      return labelled label body) := by
  obtain ⟨kind, value, raw, engine, props, output, strict⟩ := l
  obtain rfl : output = .null := none
  simp only [display, displayAt, instead, labelOf, placeOf]
  split <;> rfl

theorem named_iff_of_no_output (none : l.output = .null) :
    (locator l).Named ↔
      (∃ label, labelOf l = .ok label) ∧ ∃ body, displayAt (placeOf l) l.value = .ok body := by
  rw [Named, display_of_no_output none, Outcome.exists_bind_eq_ok]
  simp only [Outcome.exists_bind_eq_ok]
  constructor
  · rintro ⟨label, first, body, second, _⟩
    exact ⟨⟨label, first⟩, body, second⟩
  · rintro ⟨⟨label, first⟩, body, second⟩
    exact ⟨label, first, body, second, _, rfl⟩

end Shown

mutual

def textKeyed : Value → Bool
  | list items => textKeyedItems items
  | tuple items => textKeyedItems items
  | dict entries => textKeyedEntries entries
  | _ => true

def textKeyedItems : List Value → Bool
  | [] => true
  | x :: xs => textKeyed x && textKeyedItems xs

def textKeyedEntries : List (Value × Value) → Bool
  | [] => true
  | (key, v) :: rest => key.text?.isSome && textKeyed v && textKeyedEntries rest

end

/-- The locator stands in the value, as an item or under a key, at some depth. -/
inductive Holds : Value → Locator → Prop
  | self (l : Locator) : Holds (locator l) l
  | item {items : List Value} {x : Value} {l : Locator} (mem : x ∈ items) (inner : Holds x l) :
      Holds (list items) l
  | member {items : List Value} {x : Value} {l : Locator} (mem : x ∈ items) (inner : Holds x l) :
      Holds (tuple items) l
  | entry {entries : List (Value × Value)} {key x : Value} {l : Locator}
      (mem : (key, x) ∈ entries) (inner : Holds x l) : Holds (dict entries) l

/-- A locator in the value that nothing can name. -/
def HoldsUnnamed (v : Value) : Prop := ∃ l, v.Holds l ∧ ¬(Value.locator l).Named

open Document

theorem key_error {key : Value} {fault : Fault} (refused : Document.key key = .error fault) :
    key.Hinders fault ∧ key.text?.isSome = false := by
  cases key with
  | null | bool _ | float _ | text _ => cases refused
  | int n => exact ⟨hinders_of_inspect (v := .int n) refused, rfl⟩
  | _ =>
    cases refused
    exact ⟨.inl rfl, rfl⟩

mutual

theorem ofValue_error {fault : Fault} (v : Value) (failed : ofValue v = .error fault) :
    v.Hinders fault ∧ (v.textKeyed = true → v.Spelled → v.HoldsUnnamed) := by
  cases v with
  | int n =>
    have long := Outcome.map_eq_error failed
    exact ⟨hinders_of_inspect long, fun _ spelled => absurd spelled (not_spelled long)⟩
  | list items =>
    obtain ⟨x, mem, hinders, found⟩ := ofItems_error items (Outcome.map_eq_error failed)
    have part (all : (list items).Spelled) : x.Spelled := spelled_list_iff.mp all x mem
    refine ⟨hinders.imp part, fun keyed all => ?_⟩
    obtain ⟨l, inner, unnamed⟩ := found keyed (part all)
    exact ⟨l, .item mem inner, unnamed⟩
  | tuple items =>
    obtain ⟨x, mem, hinders, found⟩ := ofItems_error items (Outcome.map_eq_error failed)
    have part (all : (tuple items).Spelled) : x.Spelled := spelled_tuple_iff.mp all x mem
    refine ⟨hinders.imp part, fun keyed all => ?_⟩
    obtain ⟨l, inner, unnamed⟩ := found keyed (part all)
    exact ⟨l, .member mem inner, unnamed⟩
  | dict entries =>
    obtain ⟨⟨key, x⟩, mem, hinders, found⟩ :=
      ofEntries_error entries (Outcome.map_eq_error failed)
    have part (all : (dict entries).Spelled) : key.Spelled ∧ x.Spelled :=
      spelled_dict_iff.mp all (key, x) mem
    have own : (dict entries).Hinders fault := by
      rcases hinders with hinders | hinders
      · exact hinders.imp fun all => (part all).1
      · exact hinders.imp fun all => (part all).2
    refine ⟨own, fun keyed all => ?_⟩
    obtain ⟨l, inner, unnamed⟩ := found keyed (part all).2
    exact ⟨l, .entry mem inner, unnamed⟩
  | locator l =>
    have unnamed := Outcome.map_eq_error failed
    exact ⟨hinders_of_display unnamed, fun _ _ => ⟨l, .self l, unnamed_of_error unnamed⟩⟩
  | _ => cases failed

theorem ofItems_error {fault : Fault} (items : List Value) (failed : ofItems items = .error fault) :
    ∃ x ∈ items, x.Hinders fault ∧
      (textKeyedItems items = true → x.Spelled → x.HoldsUnnamed) := by
  cases items with
  | nil => cases failed
  | cons x xs =>
    simp only [textKeyedItems, Bool.and_eq_true]
    rcases Outcome.bind_eq_error failed with here | ⟨_, _, rest⟩
    · obtain ⟨hinders, found⟩ := ofValue_error x here
      exact ⟨x, List.mem_cons_self, hinders, fun keyed => found keyed.1⟩
    rcases Outcome.bind_eq_error rest with there | ⟨_, _, done⟩
    · obtain ⟨y, mem, hinders, found⟩ := ofItems_error xs there
      exact ⟨y, List.mem_cons_of_mem x mem, hinders, fun keyed => found keyed.2⟩
    · cases done

theorem ofEntries_error {fault : Fault} (entries : List (Value × Value))
    (failed : ofEntries entries = .error fault) :
    ∃ entry ∈ entries, (entry.1.Hinders fault ∨ entry.2.Hinders fault) ∧
      (textKeyedEntries entries = true → entry.2.Spelled → entry.2.HoldsUnnamed) := by
  cases entries with
  | nil => cases failed
  | cons entry rest =>
    obtain ⟨key, v⟩ := entry
    simp only [textKeyedEntries, Bool.and_eq_true]
    rcases Outcome.bind_eq_error failed with refused | ⟨_, _, failed⟩
    · obtain ⟨hinders, noText⟩ := key_error refused
      exact ⟨(key, v), List.mem_cons_self, .inl hinders, fun keyed => by simp [noText] at keyed⟩
    rcases Outcome.bind_eq_error failed with here | ⟨_, _, failed⟩
    · obtain ⟨hinders, found⟩ := ofValue_error v here
      exact ⟨(key, v), List.mem_cons_self, .inr hinders, fun keyed => found keyed.1.2⟩
    rcases Outcome.bind_eq_error failed with there | ⟨_, _, done⟩
    · obtain ⟨y, mem, hinders, found⟩ := ofEntries_error _ there
      exact ⟨y, List.mem_cons_of_mem _ mem, hinders, fun keyed => found keyed.2⟩
    · cases done

end

end ElementSearch.Value
