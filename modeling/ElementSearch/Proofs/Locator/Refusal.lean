import ElementSearch.Proofs.Locator.Interchange
import ElementSearch.Proofs.Value.Named

/-! Objects that are refused.
An object names its kind by its first key that is not `props`.  Where a kind is demanded, an object
without one is refused, and nothing else is.  The complaint shows the object as JSON, so it can be
made only if JSON can write all keys of the object, at every depth, and all numbers in it. -/

namespace ElementSearch

namespace Value

theorem isNull_iff {v : Value} : v.isNull = true ↔ v = null := by
  cases v <;> simp [isNull]

/-- An object of JSON can have it as a key. -/
def isJsonKey : Value → Bool
  | null | bool _ | int _ | float _ | text _ => true
  | _ => false

mutual

/-- JSON can write every key of a dictionary in the value. -/
def jsonKeyed : Value → Bool
  | list items => jsonKeyedItems items
  | tuple items => jsonKeyedItems items
  | dict entries => jsonKeyedEntries entries
  | _ => true

def jsonKeyedItems : List Value → Bool
  | [] => true
  | x :: xs => jsonKeyed x && jsonKeyedItems xs

def jsonKeyedEntries : List (Value × Value) → Bool
  | [] => true
  | (key, v) :: rest => key.isJsonKey && (jsonKeyed v && jsonKeyedEntries rest)

end

open Document

theorem key_eq_ok_iff {key : Value} :
    (∃ name, Document.key key = .ok name) ↔ key.isJsonKey = true ∧ key.Spelled := by
  cases key with
  | int n => exact ⟨fun written => ⟨rfl, written⟩, fun given => given.2⟩
  | null | bool _ | float _ | text _ => exact iff_of_true ⟨_, rfl⟩ ⟨rfl, _, rfl⟩
  | _ => exact ⟨nofun, nofun⟩

mutual

theorem ofValue_eq_ok_iff :
    (v : Value) → v.isPlain = true → ((∃ d, ofValue v = .ok d) ↔ v.jsonKeyed = true ∧ v.Spelled)
  | null, _ | bool _, _ | float _, _ | text _, _ => iff_of_true ⟨_, rfl⟩ ⟨rfl, _, rfl⟩
  | int n, _ => by
    rw [ofValue, Outcome.exists_map_eq_ok]
    exact ⟨fun written => ⟨rfl, written⟩, fun given => given.2⟩
  | locator _, plain => by cases plain
  | list items, plain => by
    rw [ofValue, Outcome.exists_map_eq_ok, ofItems_eq_ok_iff items plain, spelled_list_iff]
    rfl
  | tuple items, plain => by
    rw [ofValue, Outcome.exists_map_eq_ok, ofItems_eq_ok_iff items plain, spelled_tuple_iff]
    rfl
  | dict entries, plain => by
    rw [ofValue, Outcome.exists_map_eq_ok, ofEntries_eq_ok_iff entries plain, spelled_dict_iff]
    rfl

theorem ofItems_eq_ok_iff :
    (items : List Value) → arePlain items = true →
      ((∃ ds, ofItems items = .ok ds) ↔ jsonKeyedItems items = true ∧ ∀ x ∈ items, x.Spelled)
  | [], _ => iff_of_true ⟨[], rfl⟩ ⟨rfl, nofun⟩
  | x :: xs, plain => by
    obtain ⟨plainFirst, plainRest⟩ := Bool.and_eq_true_iff.mp plain
    have first := ofValue_eq_ok_iff x plainFirst
    have rest := ofItems_eq_ok_iff xs plainRest
    rw [ofItems, jsonKeyedItems, Bool.and_eq_true, List.forall_mem_cons, and_and_and_comm,
      ← first, ← rest]
    simp [Outcome.exists_bind_eq_ok, pure, Except.pure]

theorem ofEntries_eq_ok_iff :
    (entries : List (Value × Value)) → hasPlainEntries entries = true →
      ((∃ members, ofEntries entries = .ok members) ↔
        jsonKeyedEntries entries = true ∧
          ∀ entry ∈ entries, entry.1.Spelled ∧ entry.2.Spelled)
  | [], _ => iff_of_true ⟨[], rfl⟩ ⟨rfl, nofun⟩
  | (key, v) :: rest, plain => by
    have parts := plain_cons_iff.mp plain
    have first := ofValue_eq_ok_iff v parts.value
    have others := ofEntries_eq_ok_iff rest parts.rest
    have regrouped : (jsonKeyedEntries ((key, v) :: rest) = true ∧
        ∀ entry ∈ (key, v) :: rest, entry.1.Spelled ∧ entry.2.Spelled) ↔
        (key.isJsonKey = true ∧ key.Spelled) ∧ (v.jsonKeyed = true ∧ v.Spelled) ∧
          jsonKeyedEntries rest = true ∧ ∀ entry ∈ rest, entry.1.Spelled ∧ entry.2.Spelled := by
      rw [jsonKeyedEntries, Bool.and_eq_true, Bool.and_eq_true, List.forall_mem_cons]
      tauto
    rw [regrouped, ← key_eq_ok_iff, ← first, ← others, ofEntries]
    simp [Outcome.exists_bind_eq_ok, pure, Except.pure]

end

theorem json_of_keyed {v : Value} (plain : v.isPlain = true) (keyed : v.jsonKeyed = true)
    (spelled : v.Spelled) : ∃ words, v.json = .ok words := by
  obtain ⟨d, written⟩ := (ofValue_eq_ok_iff v plain).mpr ⟨keyed, spelled⟩
  exact ⟨d.compact, by rw [json, written]; rfl⟩

theorem json_of_unwritten {v : Value} (plain : v.isPlain = true)
    (unwritten : ¬(v.jsonKeyed = true ∧ v.Spelled)) :
    ∃ fault, v.json = .error fault ∧ v.Hinders fault := by
  cases written : ofValue v with
  | ok d => exact absurd ((ofValue_eq_ok_iff v plain).mp ⟨d, written⟩) unwritten
  | error fault => exact ⟨fault, by rw [json, written]; rfl, (ofValue_error v written).1⟩

end Value

namespace LocatorOf

open Value

/-- What the complaint about an object comes to, which shows the object as JSON. -/
structure Complains (v : Value) (fault : Fault) : Prop where
  worded : v.jsonKeyed = true → v.Spelled → fault.IsInvalidKind
  unkeyed : ¬v.jsonKeyed = true → v.Spelled → fault = .wrongType
  unspelled : ¬v.Spelled → fault = .wrongType ∨ fault = .longNumber

theorem fault_invalidKind {v : Value} (object : v.isDict = true) (plain : v.isPlain = true) :
    Complains v (Cause.invalidKind v .null).fault := by
  obtain ⟨entries, rfl⟩ := exists_of_isDict object
  have told : (Cause.invalidKind (.dict entries) .null).describe =
      ((Value.dict entries).json >>= fun words => pure ("Invalid locator kind: " ++ words)) := rfl
  by_cases written : (Value.dict entries).jsonKeyed = true ∧ (Value.dict entries).Spelled
  · obtain ⟨words, json⟩ := json_of_keyed plain written.1 written.2
    rw [json] at told
    exact ⟨fun _ _ => ⟨_, _, _, Cause.fault_eq told⟩, fun un => absurd written.1 un,
      fun un => absurd written.2 un⟩
  · obtain ⟨fault, json, hinders⟩ := json_of_unwritten plain written
    rw [json] at told
    have same : (Cause.invalidKind (.dict entries) .null).fault = fault := by
      rw [Cause.fault, told]
      rfl
    rw [same]
    exact ⟨fun keyed spelled => absurd ⟨keyed, spelled⟩ written,
      fun _ spelled => hinders.wrongType spelled, fun _ => hinders.imp_right And.left⟩

def leading? (entries : Entries) : Option (Value × Value) :=
  entries.find? fun entry => !isAuxiliary entry.1

/-- An object without a kind: no key but `props`, or null as the first one. -/
def IsKindless : Value → Prop
  | .dict entries => ∀ key x, leading? entries = some (key, x) → key = .null
  | _ => False

def framed : Value → Outcome Value
  | .list items => (frames [] items).map .tuple
  | .tuple items => (frames [] items).map .tuple
  | x => (classify [] .css false x).map .locator

def headFor (key x : Value) : Outcome Head :=
  match kindOfKey key with
  | .frame => (framed x).map fun inner => ⟨.frame, .null, inner⟩
  | .shadow => .ok ⟨.shadow, .null, shadowHosts x⟩
  | .custom => .ok ⟨.custom, key, x⟩
  | kind => .ok ⟨kind, .null, x⟩

theorem headOf_eq (entries : Entries) :
    headOf [] entries =
      match leading? entries with
      | none => .ok none
      | some (key, x) => if key.isNull then .ok none else (headFor key x).map some := by
  induction entries with
  | nil => rfl
  | cons entry rest ih =>
    obtain ⟨key, x⟩ := entry
    unfold headOf
    by_cases auxiliary : isAuxiliary key = true
    · rw [if_pos auxiliary, ih, leading?, leading?,
        List.find?_cons_of_neg (by simpa using auxiliary)]
    · rw [if_neg auxiliary, leading?, List.find?_cons_of_pos (by simpa using auxiliary)]
      simp only
      split
      · rfl
      · unfold headFor
        generalize kindOfKey key = kind
        cases kind with
        | frame =>
          cases x with
          | list items | tuple items =>
            simp only [framed]
            cases frames [] items <;> rfl
          | _ =>
            simp only [framed]
            cases classify [] .css false _ <;> rfl
        | _ => rfl

theorem headOf_eq_none (entries : Entries) :
    headOf [] entries = .ok none ↔ IsKindless (.dict entries) := by
  rw [headOf_eq, IsKindless]
  cases first : leading? entries with
  | none => simp
  | some entry =>
    obtain ⟨key, x⟩ := entry
    have only : (∀ k y, some (key, x) = some (k, y) → k = .null) ↔ key = .null := by
      constructor
      · intro null
        exact null key x rfl
      · rintro null _ _ ⟨rfl, rfl⟩
        exact null
    rw [only, ← isNull_iff]
    by_cases null : key.isNull = true
    · simp only [null, if_true]
    · simp only [null]
      constructor
      · intro none
        obtain ⟨_, _, impossible⟩ := Outcome.map_eq_ok none
        cases impossible
      · intro impossible
        cases impossible

theorem IsKindless.isDict {v : Value} (kindless : IsKindless v) : v.isDict = true := by
  cases v with
  | dict _ => rfl
  | _ => exact kindless.elim

theorem classify_of_kindless (fallback : Kind) {v : Value} (kindless : IsKindless v) :
    classify [] fallback true v = .error (Cause.invalidKind v .null).fault := by
  obtain ⟨entries, rfl⟩ := exists_of_isDict kindless.isDict
  rw [classify, (headOf_eq_none entries).mpr kindless]
  rfl

theorem classify_of_allowed (fallback : Kind) {strict : Bool} {v : Value}
    (allowed : ¬(strict = true ∧ IsKindless v)) :
    classify [] fallback strict v = classify [] fallback false v := by
  cases strict with
  | false => rfl
  | true =>
    have kind : ¬IsKindless v := fun kindless => allowed ⟨rfl, kindless⟩
    cases v with
    | dict entries =>
      rw [← headOf_eq_none] at kind
      rw [classify, classify]
      cases found : headOf [] entries with
      | error fault => rfl
      | ok head =>
        cases head with
        | none => exact absurd found kind
        | some head => rfl
    | _ => simp only [classify]

/-- A key that shows in no locator spoils the complaint about the object that it is in. -/
theorem tuple_key_unworded :
    let v := Value.dict [(.text "props", .dict [(.tuple [.text "x"], .int 1)])]
    v.isPlain = true ∧ IsKindless v ∧ ∃ fault,
      classify [] .fuzzy true v = .error fault ∧ ¬fault.IsInvalidKind := by
  have keyless : leading? [(.text "props", .dict [(.tuple [.text "x"], .int 1)])] = none := rfl
  refine ⟨rfl, fun key x found => ?_, .wrongType, rfl, ?_⟩
  · rw [keyless] at found
    cases found
  · rintro ⟨_, _, _, impossible⟩
    cases impossible

end LocatorOf

end ElementSearch
