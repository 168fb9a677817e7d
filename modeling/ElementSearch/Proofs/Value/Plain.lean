import ElementSearch.Proofs.Value.Keyed
import ElementSearch.Proofs.Value.Named

/-! Plain values.
A plain value has no locator in it, and what it is made of is as it should be: floats have the
mantissas and exponents of their format, and dictionaries have each key once.  Plain values can be
displayed where they can be spelled, and of two equal ones both can be spelled or neither. -/

namespace ElementSearch

namespace Binary64

def inRange : Binary64 → Bool
  | .finite _ m e => m < Nat.pow 2 53 && minExponent ≤ e && e ≤ maxExponent
  | _ => true

theorem natAbs_signed (negative : Bool) (n : Nat) :
    (if negative then -(n : Int) else n).natAbs = n := by
  cases negative <;> simp

theorem natAbs_le_of_toRat? {negative : Bool} {m : Nat} {e n : Int}
    (whole : (finite negative m e).toRat? = some (n : Rat)) : n.natAbs ≤ m * Nat.pow 2 e.toNat := by
  by_cases up : e ≥ 0
  · simp only [toRat?, if_pos up, Option.some.injEq, Rat.mkRat_one, Rat.intCast_inj] at whole
    rw [← whole, natAbs_signed]
  · simp only [toRat?, if_neg up, Option.some.injEq] at whole
    have positive : Nat.pow 2 (-e).toNat ≠ 0 := Nat.ne_of_gt (Nat.two_pow_pos _)
    rw [← Rat.mkRat_one n, Rat.mkRat_eq_iff positive Nat.one_ne_zero] at whole
    have size := congrArg Int.natAbs whole
    rw [Int.natAbs_mul, Int.natAbs_mul, natAbs_signed] at size
    calc n.natAbs ≤ n.natAbs * Nat.pow 2 (-e).toNat :=
          Nat.le_mul_of_pos_right _ (Nat.pos_of_ne_zero positive)
      _ = m := by simpa using size.symm
      _ ≤ m * Nat.pow 2 e.toNat := Nat.le_mul_of_pos_right _ (Nat.two_pow_pos _)

theorem fits_of_toRat? {x : Binary64} {n : Int} (within : x.inRange = true)
    (whole : x.toRat? = some (n : Rat)) : Numeral.fits n = true := by
  cases x with
  | nan | infinite _ => cases whole
  | finite negative m e =>
    simp only [inRange, Bool.and_eq_true, decide_eq_true_eq] at within
    obtain ⟨⟨small, _⟩, low⟩ := within
    obtain ⟨k, power, few⟩ : ∃ k, e.toNat ≤ k ∧ 53 + k ≤ Numeral.mostDigits :=
      ⟨maxExponent.toNat, Int.toNat_le_toNat low, by decide⟩
    refine Numeral.fits_of_lt (by omega) few ?_
    calc n.natAbs ≤ m * Nat.pow 2 e.toNat := natAbs_le_of_toRat? whole
      _ < 2 ^ 53 * 2 ^ e.toNat := Nat.mul_lt_mul_of_pos_right small (Nat.two_pow_pos _)
      _ = 2 ^ (53 + e.toNat) := by rw [← Nat.pow_add]
      _ ≤ 2 ^ (53 + k) := Nat.pow_le_pow_right (by decide) (by omega)
      _ ≤ 10 ^ (53 + k) := Nat.pow_le_pow_left (by decide) _

end Binary64

namespace Value

mutual

/-- No locator occurs in the value, and every dictionary in it has each of its keys once. -/
def isPlain : Value → Bool
  | locator _ => false
  | float x => x.inRange
  | list items => arePlain items
  | tuple items => arePlain items
  | dict entries => hasPlainEntries entries
  | null => true
  | bool _ => true
  | int _ => true
  | text _ => true

def arePlain : List Value → Bool
  | [] => true
  | x :: xs => isPlain x && arePlain xs

def hasPlainEntries : List (Value × Value) → Bool
  | [] => true
  | (k, v) :: rest =>
    k.isHashable && (rest.all fun entry => !k.same entry.1) &&
      (isPlain k && isPlain v && hasPlainEntries rest)

end

structure PlainEntry (key v : Value) (rest : Entries) : Prop where
  hashable : key.isHashable = true
  apart : ∀ entry ∈ rest, key.same entry.1 = false
  key : key.isPlain = true
  value : v.isPlain = true
  rest : hasPlainEntries rest = true

theorem plain_cons_iff {key v : Value} {rest : Entries} :
    hasPlainEntries ((key, v) :: rest) = true ↔ PlainEntry key v rest := by
  simp only [hasPlainEntries, Bool.and_eq_true, List.all_eq_true, Bool.not_eq_true']
  constructor
  · rintro ⟨⟨hashable, apart⟩, ⟨plainKey, plainValue⟩, plainRest⟩
    exact ⟨hashable, apart, plainKey, plainValue, plainRest⟩
  · rintro ⟨hashable, apart, plainKey, plainValue, plainRest⟩
    exact ⟨⟨hashable, apart⟩, ⟨plainKey, plainValue⟩, plainRest⟩

theorem plain_of_entry {entries : Entries} (plain : hasPlainEntries entries = true)
    {entry : Value × Value} (mem : entry ∈ entries) :
    entry.1.isPlain = true ∧ entry.2.isPlain = true := by
  induction entries with
  | nil => cases mem
  | cons first rest ih =>
    have parts := plain_cons_iff.mp plain
    rcases List.mem_cons.mp mem with rfl | later
    · exact ⟨parts.key, parts.value⟩
    · exact ih parts.rest later

theorem exists_displayAt_iff {v : Value} (plain : v.isPlain = true) {place : Place}
    (outside : place ≠ .inFrame) : (∃ s, displayAt place v = .ok s) ↔ v.Spelled := by
  cases v with
  | locator _ => cases plain
  | text s => exact ⟨fun _ => ⟨_, rfl⟩, fun _ => ⟨_, display_text s⟩⟩
  | tuple items =>
    cases place with
    | alone => exact Iff.rfl
    | inLocator => exact spelled_list_iff.trans spelled_tuple_iff.symm
    | inFrame => exact absurd rfl outside
  | _ => exact Iff.rfl

theorem named_iff_of_plain {v : Value} (plain : v.isPlain = true) : v.Named ↔ v.Spelled :=
  exists_displayAt_iff plain (by decide)

theorem longNumber_of_displayAt {v : Value} (plain : v.isPlain = true) {place : Place}
    (outside : place ≠ .inFrame) {fault : Fault} (failed : displayAt place v = .error fault) :
    fault = .longNumber := by
  cases v with
  | locator _ => cases plain
  | tuple items =>
    cases place with
    | alone => exact longNumber_of_inspect _ failed
    | inLocator => exact longNumber_of_inspect (.list items) failed
    | inFrame => exact absurd rfl outside
  | int _ | list _ | dict _ => exact longNumber_of_inspect _ failed
  | _ => cases failed

section Equal

variable {a b : Value}

theorem spelled_number_iff {x : Magnitude} (number : a.magnitude? = some x)
    (plain : a.isPlain = true) :
    a.Spelled ↔ ∀ n : Int, x = .exact n → Numeral.fits n = true := by
  cases a with
  | bool c =>
    cases number
    refine ⟨fun _ n same => ?_, fun _ => ⟨_, rfl⟩⟩
    have same := Magnitude.exact.inj same
    cases c with
    | true =>
      obtain rfl : (1 : Int) = n := Rat.intCast_inj.mp same
      decide
    | false =>
      obtain rfl : (0 : Int) = n := Rat.intCast_inj.mp same
      decide
  | int m =>
    cases number
    simp only [Magnitude.exact.injEq, Rat.intCast_inj, Spelled, inspect, written]
    constructor
    · rintro ⟨s, shown⟩ n rfl
      by_contra long
      rw [Numeral.write?_of_not_fits (by simpa using long)] at shown
      cases shown
    · intro fits
      exact ⟨toString m, by rw [Numeral.write?_of_fits (fits m rfl)]⟩
  | float y =>
    refine ⟨fun _ n same => ?_, fun _ => ⟨_, rfl⟩⟩
    subst same
    cases y with
    | nan | infinite _ => cases number
    | finite negative m e =>
      refine Binary64.fits_of_toRat? (x := .finite negative m e) plain ?_
      change (Binary64.toRat? (.finite negative m e)).map Magnitude.exact =
        some (Magnitude.exact n) at number
      obtain ⟨r, exact, same⟩ := Option.map_eq_some_iff.mp number
      rw [exact]
      simpa using same
  | _ => cases number

theorem spelled_iff_of_sameMagnitude (plain : a.isPlain = true) (plain' : b.isPlain = true)
    (alike : sameMagnitude a b = true) : a.Spelled ↔ b.Spelled := by
  obtain ⟨x, left, right, _⟩ := sameMagnitude_iff.mp alike
  rw [spelled_number_iff left plain, spelled_number_iff right plain']

def SameEntry (x y : Value × Value) : Prop := x.1.same y.1 = true ∧ x.2.same y.2 = true

theorem sameEntries_iff {xs ys : Entries} :
    sameEntries xs ys = true ↔ ∀ x ∈ xs, ∃ y ∈ ys, SameEntry x y := by
  induction xs with
  | nil => simp [sameEntries]
  | cons x rest ih =>
    simp [sameEntries, ih, SameEntry]

theorem exists_same_of_sameEntries {xs ys : Entries} (plain : hasPlainEntries xs = true)
    (lengths : xs.length = ys.length) (alike : ∀ x ∈ xs, ∃ y ∈ ys, SameEntry x y) :
    ∀ y ∈ ys, ∃ x ∈ xs, SameEntry x y := by
  induction xs generalizing ys with
  | nil =>
    rw [List.length_eq_zero_iff.mp lengths.symm]
    exact fun _ mem => nomatch mem
  | cons x rest ih =>
    obtain ⟨key, v⟩ := x
    have parts := plain_cons_iff.mp plain
    obtain ⟨first, others⟩ := List.forall_mem_cons.mp alike
    obtain ⟨taken, mem, same⟩ := first
    obtain ⟨before, after, rfl⟩ := List.append_of_mem mem
    -- what the first entry takes is left to no other: equal keys would be one
    have left : ∀ x ∈ rest, ∃ y ∈ before ++ after, SameEntry x y := by
      intro x here
      obtain ⟨y, there, same'⟩ := others x here
      refine ⟨y, ?_, same'⟩
      rcases List.mem_append.mp there with early | late
      · exact List.mem_append_left _ early
      rcases List.mem_cons.mp late with rfl | late
      · have hashable := (same_step key parts.hashable same.1).1
        have back : y.1.same x.1 = true := by rw [same_comm y.1 hashable, same'.1]
        have twice := (same_step key parts.hashable same.1).2 _ back
        rw [parts.apart x here] at twice
        cases twice
      · exact List.mem_append_right _ late
    have lengths' : rest.length = (before ++ after).length := by
      simp only [List.length_cons, List.length_append] at lengths ⊢
      omega
    intro y mem'
    rcases List.mem_append.mp mem' with early | late
    · obtain ⟨x, here, same'⟩ := ih parts.rest lengths' left y (List.mem_append_left _ early)
      exact ⟨x, List.mem_cons_of_mem _ here, same'⟩
    rcases List.mem_cons.mp late with rfl | late
    · exact ⟨(key, v), List.mem_cons_self, same⟩
    · obtain ⟨x, here, same'⟩ := ih parts.rest lengths' left y (List.mem_append_right _ late)
      exact ⟨x, List.mem_cons_of_mem _ here, same'⟩

mutual

theorem spelled_iff_of_same : (a : Value) → a.isPlain = true → ∀ {b : Value}, b.isPlain = true →
    same a b = true → (a.Spelled ↔ b.Spelled)
  | null, _, b, _, alike => by
    cases b with
    | null => exact Iff.rfl
    | _ => cases alike
  | text s, _, b, _, alike => by
    rw [eq_text_of_same alike]
  | bool _, plain, _, plain', alike | int _, plain, _, plain', alike
  | float _, plain, _, plain', alike => spelled_iff_of_sameMagnitude plain plain' alike
  | locator _, plain, _, _, _ => by cases plain
  | list xs, plain, b, plain', alike => by
    cases b with
    | list ys =>
      rw [spelled_list_iff, spelled_list_iff]
      exact spelledItems_iff_of_same xs plain plain' alike
    | _ => cases alike
  | tuple xs, plain, b, plain', alike => by
    cases b with
    | tuple ys =>
      rw [spelled_tuple_iff, spelled_tuple_iff]
      exact spelledItems_iff_of_same xs plain plain' alike
    | _ => cases alike
  | dict xs, plain, b, plain', alike => by
    cases b with
    | dict ys =>
      obtain ⟨lengths, alike⟩ := Bool.and_eq_true_iff.mp alike
      have each := spelledEntry_iff_of_same xs plain
      have there := sameEntries_iff.mp alike
      have back := exists_same_of_sameEntries plain (eq_of_beq lengths) there
      rw [spelled_dict_iff, spelled_dict_iff]
      constructor
      · intro all y mem
        obtain ⟨x, here, same⟩ := back y mem
        obtain ⟨plainKey, plainValue⟩ := plain_of_entry plain' mem
        exact (each x here plainKey plainValue same).mp (all x here)
      · intro all x here
        obtain ⟨y, mem, same⟩ := there x here
        obtain ⟨plainKey, plainValue⟩ := plain_of_entry plain' mem
        exact (each x here plainKey plainValue same).mpr (all y mem)
    | _ => cases alike

theorem spelledItems_iff_of_same : (xs : List Value) → arePlain xs = true → ∀ {ys : List Value},
    arePlain ys = true → sameItems xs ys = true →
      ((∀ x ∈ xs, x.Spelled) ↔ ∀ y ∈ ys, y.Spelled)
  | [], _, ys, _, alike => by
    cases ys with
    | nil => exact Iff.rfl
    | cons _ _ => cases alike
  | x :: xs, plain, ys, plain', alike => by
    cases ys with
    | nil => cases alike
    | cons y ys =>
      obtain ⟨plainFirst, plainRest⟩ := Bool.and_eq_true_iff.mp plain
      obtain ⟨plainFirst', plainRest'⟩ := Bool.and_eq_true_iff.mp plain'
      obtain ⟨first, rest⟩ := Bool.and_eq_true_iff.mp alike
      rw [List.forall_mem_cons, List.forall_mem_cons,
        spelled_iff_of_same x plainFirst plainFirst' first,
        spelledItems_iff_of_same xs plainRest plainRest' rest]

theorem spelledEntry_iff_of_same : (xs : List (Value × Value)) → hasPlainEntries xs = true →
    ∀ x ∈ xs, ∀ {y : Value × Value}, y.1.isPlain = true → y.2.isPlain = true → SameEntry x y →
      (x.1.Spelled ∧ x.2.Spelled ↔ y.1.Spelled ∧ y.2.Spelled)
  | [], _ => fun _ mem => nomatch mem
  | (key, v) :: rest, plain => by
    have parts := plain_cons_iff.mp plain
    refine List.forall_mem_cons.mpr ⟨?_, spelledEntry_iff_of_same rest parts.rest⟩
    intro y plainKey plainValue same
    exact and_congr (spelled_iff_of_same key parts.key plainKey same.1)
      (spelled_iff_of_same v parts.value plainValue same.2)

end

end Equal

end Value

end ElementSearch
