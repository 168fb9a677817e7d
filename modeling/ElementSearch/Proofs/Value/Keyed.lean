import ElementSearch.Proofs.Value.Same

/-! Dictionaries that have each key once.
A key is a value that can be hashed: no list and no dictionary occurs in it where it counts.  Among
such values equality is symmetric and transitive, so equal keys lead to the same entry, and putting
a value under one of them changes what is found under it and nothing else. -/

namespace ElementSearch

namespace Value

variable {a b : Value}

section Hashable

theorem hashKeys?_cons (x : Value) (xs : List Value) :
    (hashKeys? (x :: xs)).isSome = (x.isHashable && (hashKeys? xs).isSome) := by
  rw [isHashable, hashKeys?]
  cases hashKey? x <;> cases hashKeys? xs <;> rfl

theorem isHashable_tuple (items : List Value) :
    (tuple items).isHashable = (hashKeys? items).isSome := by
  rw [isHashable, hashKey?, Option.isSome_map]

theorem isHashable_locator (l : Locator) : (locator l).isHashable =
    (l.value.isHashable && (l.engine.isHashable && l.strict.isHashable)) := by
  obtain ⟨_, value, _, engine, _, _, strict⟩ := l
  simp only [isHashable, hashKey?]
  cases hashKey? value <;> cases hashKey? engine <;> cases hashKey? strict <;> rfl

theorem isHashable_of_number {x : Magnitude} (number : a.magnitude? = some x) :
    a.isHashable = true := by
  cases a with
  | bool _ | int _ | float _ => rfl
  | _ => cases number

theorem same_of_number {x : Magnitude} (number : a.magnitude? = some x) (b : Value) :
    same a b = sameMagnitude a b ∧ same b a = sameMagnitude b a := by
  cases a with
  | bool _ | int _ | float _ => exact ⟨rfl, by cases b <;> rfl⟩
  | _ => cases number

theorem number_comm {x : Magnitude} (number : a.magnitude? = some x) (b : Value) :
    same a b = same b a := by
  obtain ⟨left, right⟩ := same_of_number number b
  rw [left, right, sameMagnitude_comm]

theorem same_number_iff {x : Magnitude} (number : a.magnitude? = some x) :
    same a b = true ↔ b.magnitude? = some x ∧ x ≠ .nan := by
  rw [(same_of_number number b).1, sameMagnitude_iff, number]
  constructor
  · rintro ⟨_, ⟨⟩, other, known⟩
    exact ⟨other, known⟩
  · rintro ⟨other, known⟩
    exact ⟨x, rfl, other, known⟩

theorem magnitude?_float (x : Binary64) : ∃ m, (float x).magnitude? = some m := by
  cases x with
  | nan | infinite _ => exact ⟨_, rfl⟩
  | finite negative m e =>
    simp only [magnitude?, Binary64.toRat?]
    split <;> exact ⟨_, rfl⟩

theorem float_comm (x : Binary64) (a : Value) : same a (float x) = same (float x) a := by
  obtain ⟨_, number⟩ := magnitude?_float x
  exact (number_comm number a).symm

mutual

theorem same_comm : (a : Value) → a.isHashable = true → ∀ b, same a b = same b a
  | bool _, _, b => number_comm rfl b
  | int _, _, b => number_comm rfl b
  | float x, _, b => (float_comm x b).symm
  | null, _, b => by
    cases b with
    | float x => exact float_comm x _
    | _ => rfl
  | text s, _, b => by
    cases b with
    | text t => rw [same_text, same_text, Bool.beq_comm]
    | float x => exact float_comm x _
    | _ => rfl
  | tuple items, hashable, b => by
    rw [isHashable_tuple] at hashable
    cases b with
    | tuple others => exact sameItems_comm items hashable others
    | float x => exact float_comm x _
    | _ => rfl
  | locator ⟨kind, value, _, engine, _, _, strict⟩, hashable, b => by
    cases b with
    | locator m =>
      rw [isHashable_locator, Bool.and_eq_true_iff, Bool.and_eq_true_iff] at hashable
      obtain ⟨ofValue, ofEngine, ofStrict⟩ := hashable
      simp only [same, same_comm value ofValue, same_comm engine ofEngine,
        same_comm strict ofStrict, Bool.beq_comm (a := kind)]
    | float x => exact float_comm x _
    | _ => rfl

theorem sameItems_comm : (xs : List Value) → (hashKeys? xs).isSome = true →
    ∀ ys, sameItems xs ys = sameItems ys xs
  | [], _, ys => by cases ys <;> rfl
  | x :: xs, hashable, ys => by
    rw [hashKeys?_cons, Bool.and_eq_true_iff] at hashable
    cases ys with
    | nil => rfl
    | cons y ys =>
      rw [sameItems, sameItems, same_comm x hashable.1, sameItems_comm xs hashable.2]

end

theorem number_step {x : Magnitude} (number : a.magnitude? = some x) (alike : same a b = true) :
    b.isHashable = true ∧ ∀ c, same b c = true → same a c = true := by
  obtain ⟨other, known⟩ := (same_number_iff number).mp alike
  refine ⟨isHashable_of_number other, fun c next => ?_⟩
  exact (same_number_iff number).mpr ((same_number_iff other).mp next)

mutual

theorem same_step : (a : Value) → a.isHashable = true → ∀ {b}, same a b = true →
    b.isHashable = true ∧ ∀ c, same b c = true → same a c = true
  | bool _, _, _, alike => number_step rfl alike
  | int _, _, _, alike => number_step rfl alike
  | float x, _, _, alike => (magnitude?_float x).elim fun _ number => number_step number alike
  | null, _, b, alike => by
    cases b with
    | null => exact ⟨rfl, fun _ next => next⟩
    | _ => cases alike
  | text s, _, b, alike => by
    rw [eq_text_of_same alike]
    exact ⟨rfl, fun _ next => next⟩
  | tuple items, hashable, b, alike => by
    rw [isHashable_tuple] at hashable
    cases b with
    | tuple others =>
      obtain ⟨keys, step⟩ := sameItems_step items hashable alike
      rw [isHashable_tuple]
      refine ⟨keys, fun c next => ?_⟩
      cases c with
      | tuple more => exact step more next
      | _ => cases next
    | _ => cases alike
  | locator ⟨kind, value, _, engine, _, _, strict⟩, hashable, b, alike => by
    rw [isHashable_locator, Bool.and_eq_true_iff, Bool.and_eq_true_iff] at hashable
    obtain ⟨ofValue, ofEngine, ofStrict⟩ := hashable
    cases b with
    | locator m =>
      simp only [same, Bool.and_eq_true, beq_iff_eq] at alike
      obtain ⟨⟨⟨kinds, values⟩, engines⟩, stricts⟩ := alike
      obtain ⟨hashValue, nextValue⟩ := same_step value ofValue values
      obtain ⟨hashEngine, nextEngine⟩ := same_step engine ofEngine engines
      obtain ⟨hashStrict, nextStrict⟩ := same_step strict ofStrict stricts
      rw [isHashable_locator, hashValue, hashEngine, hashStrict]
      refine ⟨rfl, fun c next => ?_⟩
      cases c with
      | locator n =>
        simp only [same, Bool.and_eq_true, beq_iff_eq] at next ⊢
        obtain ⟨⟨⟨kinds', values'⟩, engines'⟩, stricts'⟩ := next
        exact ⟨⟨⟨kinds.trans kinds', nextValue _ values'⟩, nextEngine _ engines'⟩,
          nextStrict _ stricts'⟩
      | _ => cases next
    | _ => cases alike

theorem sameItems_step : (xs : List Value) → (hashKeys? xs).isSome = true →
    ∀ {ys}, sameItems xs ys = true →
      (hashKeys? ys).isSome = true ∧ ∀ zs, sameItems ys zs = true → sameItems xs zs = true
  | [], _, ys, alike => by
    cases ys with
    | nil => exact ⟨rfl, fun _ next => next⟩
    | cons _ _ => cases alike
  | x :: xs, hashable, ys, alike => by
    rw [hashKeys?_cons, Bool.and_eq_true_iff] at hashable
    cases ys with
    | nil => cases alike
    | cons y ys =>
      obtain ⟨first, others⟩ := Bool.and_eq_true_iff.mp alike
      obtain ⟨key, stepFirst⟩ := same_step x hashable.1 first
      obtain ⟨keys, stepOthers⟩ := sameItems_step xs hashable.2 others
      rw [hashKeys?_cons, key, keys]
      refine ⟨rfl, fun zs next => ?_⟩
      cases zs with
      | nil => cases next
      | cons z zs =>
        obtain ⟨nextFirst, nextOthers⟩ := Bool.and_eq_true_iff.mp next
        exact Bool.and_eq_true_iff.mpr ⟨stepFirst z nextFirst, stepOthers zs nextOthers⟩

end

variable {key other : Value}

theorem same_left_congr (hashable : key.isHashable = true) (alike : same key other = true)
    (q : Value) : same key q = same other q := by
  obtain ⟨hashed, step⟩ := same_step key hashable alike
  have back : same other key = true := by rw [← same_comm key hashable, alike]
  rw [Bool.eq_iff_iff]
  exact ⟨(same_step other hashed back).2 q, step q⟩

theorem same_right_congr (hashable : key.isHashable = true) (alike : same key other = true)
    (q : Value) : same q key = same q other := by
  rw [← same_comm key hashable, ← same_comm other (same_step key hashable alike).1,
    same_left_congr hashable alike]

end Hashable

section Trees

mutual

/-- The keys of every dictionary in the tree can be hashed, and none of them is there twice. -/
def isTree : Value → Bool
  | dict entries => isTreeEntries entries
  | _ => true

def isTreeEntries : List (Value × Value) → Bool
  | [] => true
  | (key, v) :: rest =>
    key.isHashable && (rest.all fun entry => !key.same entry.1) && (isTree v && isTreeEntries rest)

end

mutual

/-- Every key in the tree equals itself; that of a number which is none does not. -/
def knowsKeys : Value → Bool
  | dict entries => knowsKeysEntries entries
  | _ => true

def knowsKeysEntries : List (Value × Value) → Bool
  | [] => true
  | (key, v) :: rest => key.same key && (knowsKeys v && knowsKeysEntries rest)

end

end Trees

end Value

namespace Dict

open Value

section Any

variable {α : Type} {entries rest : Dict α} {key q : Value} {value : α}

theorem get?_cons (key : Value) (value : α) (rest : Dict α) (q : Value) :
    get? ((key, value) :: rest) q = if key.same q then some value else get? rest q := by
  simp only [get?, List.find?_cons]
  cases key.same q <;> rfl

theorem get?_congr {other : Value} (hashable : key.isHashable = true)
    (alike : key.same other = true) (entries : Dict α) :
    entries.get? key = entries.get? other := by
  simp only [get?, same_right_congr hashable alike]

theorem get?_insert (hashable : key.isHashable = true) (entries : Dict α) (value : α)
    (q : Value) : (entries.insert key value).get? q =
      if key.same q then some value else entries.get? q := by
  induction entries with
  | nil => rw [insert, get?_cons]
  | cons entry rest ih =>
    obtain ⟨own, v⟩ := entry
    rw [insert]
    by_cases known : own.same key = true
    · have alike : key.same own = true := by rw [same_comm key hashable, known]
      rw [if_pos known, get?_cons, get?_cons, same_left_congr hashable alike]
      split <;> rfl
    · rw [if_neg known, get?_cons, get?_cons, ih]
      by_cases found : key.same q = true
      · have other : own.same q = false := by
          rw [← same_right_congr hashable found]
          simpa using known
        simp [found, other]
      · simp [found]

theorem insert_of_get? (found : entries.get? key = some value) :
    entries.insert key value = entries := by
  induction entries with
  | nil => cases found
  | cons entry rest ih =>
    obtain ⟨own, v⟩ := entry
    rw [get?_cons] at found
    rw [insert]
    split
    · rw [if_pos ‹_›] at found
      cases found
      rfl
    · rw [if_neg ‹_›] at found
      rw [ih found]

theorem get?_insert_text (entries : Dict α) (key key' : String) (value : α) :
    (entries.insert (.text key) value).get? (.text key') =
      if key = key' then some value else entries.get? (.text key') := by
  rw [get?_insert rfl, same_text]
  simp

theorem insert_insert (entries : Dict α) (key : String) (value other : α) :
    Dict.insert (entries.insert (.text key) value) (.text key) other =
      entries.insert (.text key) other := by
  induction entries with
  | nil => simp [Dict.insert]
  | cons entry rest ih =>
    obtain ⟨own, x⟩ := entry
    by_cases known : own.same (.text key) = true
    · simp [Dict.insert, known]
    · simp [Dict.insert, known, ih]

end Any

variable {entries rest : Entries} {key value q : Value}

theorem tree_cons_iff : isTreeEntries ((key, value) :: rest) = true ↔
    key.isHashable = true ∧ (∀ entry ∈ rest, key.same entry.1 = false) ∧ value.isTree = true ∧
      isTreeEntries rest = true := by
  simp [isTreeEntries, and_assoc]

theorem knows_cons_iff : knowsKeysEntries ((key, value) :: rest) = true ↔
    key.same key = true ∧ value.knowsKeys = true ∧ knowsKeysEntries rest = true := by
  simp [knowsKeysEntries]

theorem get?_of_apart (hashable : key.isHashable = true)
    (apart : ∀ entry ∈ rest, key.same entry.1 = false) (alike : key.same q = true) :
    get? rest q = none := by
  rw [get?, Option.map_eq_none_iff, List.find?_eq_none]
  intro entry mem
  rw [← same_right_congr hashable alike, ← same_comm key hashable, apart entry mem]
  decide

theorem get?_of_mem (tree : isTreeEntries entries = true)
    (known : knowsKeysEntries entries = true) (mem : (key, value) ∈ entries) :
    entries.get? key = some value := by
  induction entries with
  | nil => cases mem
  | cons entry rest ih =>
    obtain ⟨own, v⟩ := entry
    obtain ⟨hashable, apart, _, treeRest⟩ := tree_cons_iff.mp tree
    obtain ⟨itself, _, knownRest⟩ := knows_cons_iff.mp known
    rw [get?_cons]
    rcases List.mem_cons.mp mem with same | later
    · cases same
      rw [if_pos itself]
    · rw [apart _ later]
      exact ih treeRest knownRest later

theorem isTree_of_get? (tree : isTreeEntries entries = true)
    (found : entries.get? q = some value) : value.isTree = true := by
  induction entries with
  | nil => cases found
  | cons entry rest ih =>
    obtain ⟨own, v⟩ := entry
    obtain ⟨_, _, first, others⟩ := tree_cons_iff.mp tree
    rw [get?_cons] at found
    split at found
    · cases found
      exact first
    · exact ih others found

end Dict

end ElementSearch
