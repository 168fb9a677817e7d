import ElementSearch.Value.Equality
import Mathlib.Data.Rat.Defs

/-! What equal values share.
Equal values need not look alike: numbers of different forms are equal, and so are dictionaries in
different orders.  Texts are equal to themselves only, and equal values are truthy together. -/

namespace ElementSearch.Value

variable {a b : Value}

@[simp] theorem same_text (s t : String) : same (text s) (text t) = (s == t) := rfl

theorem same_text_refl (s : String) : same (text s) (text s) = true := by
  rw [same_text, beq_self_eq_true]

theorem eq_text_of_same {s : String} (h : same (text s) b = true) : b = text s := by
  cases b with
  | text t => rw [eq_of_beq h]
  | _ => cases h

theorem sameMagnitude_iff : sameMagnitude a b = true ↔
    ∃ x, a.magnitude? = some x ∧ b.magnitude? = some x ∧ x ≠ .nan := by
  unfold sameMagnitude
  cases a.magnitude? with
  | none => simp
  | some x =>
    cases b.magnitude? with
    | none => simp
    | some y =>
      simp only [decide_eq_true_eq, Option.some.injEq]
      constructor
      · rintro ⟨rfl, known⟩
        exact ⟨x, rfl, rfl, known⟩
      · rintro ⟨z, rfl, rfl, known⟩
        exact ⟨rfl, known⟩

theorem eq_text_of_same_right {s : String} (h : same a (text s) = true) : a = text s := by
  cases a with
  | text t => rw [eq_of_beq h]
  | bool _ | int _ | float _ =>
    obtain ⟨_, _, number, _⟩ := sameMagnitude_iff.mp h
    cases number
  | _ => cases h

theorem signed_eq_zero (negative : Bool) (n : Nat) :
    (if negative then -(n : Int) else n) = 0 ↔ n = 0 := by
  cases negative <;> simp

theorem toRat?_eq_zero {negative : Bool} {m : Nat} {e : Int} {r : Rat}
    (h : Binary64.toRat? (.finite negative m e) = some r) : r = 0 ↔ m = 0 := by
  have power (k : Nat) : Nat.pow 2 k ≠ 0 := Nat.ne_of_gt (Nat.two_pow_pos k)
  by_cases whole : e ≥ 0
  · simp only [Binary64.toRat?, if_pos whole, Option.some.injEq] at h
    rw [← h, Rat.mkRat_eq_zero Nat.one_ne_zero, signed_eq_zero, Nat.mul_eq_zero,
      or_iff_left (power _)]
  · simp only [Binary64.toRat?, if_neg whole, Option.some.injEq] at h
    rw [← h, Rat.mkRat_eq_zero (power _), signed_eq_zero]

theorem isTruthy_of_magnitude {x : Magnitude} (h : a.magnitude? = some x) :
    a.isTruthy = true ↔ x ≠ .exact 0 := by
  cases a with
  | bool c =>
    cases h
    cases c <;> simp
  | int n =>
    cases h
    simp [isTruthy]
  | float y =>
    cases y with
    | nan | infinite _ =>
      cases h
      simp [isTruthy, Binary64.isZero]
    | finite negative m e =>
      change (Binary64.toRat? (.finite negative m e)).map .exact = some x at h
      obtain ⟨r, exact, rfl⟩ := Option.map_eq_some_iff.mp h
      have zero := toRat?_eq_zero exact
      cases m with
      | zero => simp [isTruthy, Binary64.isZero, zero.mpr rfl]
      | succ m => simp [isTruthy, Binary64.isZero, zero]
  | _ => cases h

theorem length_of_sameItems {xs ys : List Value} (h : sameItems xs ys = true) :
    xs.length = ys.length := by
  induction xs generalizing ys with
  | nil =>
    cases ys with
    | nil => rfl
    | cons y ys => cases h
  | cons x xs ih =>
    cases ys with
    | nil => cases h
    | cons y ys =>
      have rest : sameItems xs ys = true := (Bool.and_eq_true_iff.mp h).2
      rw [List.length_cons, List.length_cons, ih rest]

theorem isEmpty_of_length {α β : Type} {xs : List α} {ys : List β} (h : xs.length = ys.length) :
    xs.isEmpty = ys.isEmpty := by
  rw [Bool.eq_iff_iff, List.isEmpty_iff_length_eq_zero, List.isEmpty_iff_length_eq_zero, h]

theorem isTruthy_of_sameMagnitude (h : sameMagnitude a b = true) : a.isTruthy = b.isTruthy := by
  obtain ⟨x, left, right, _⟩ := sameMagnitude_iff.mp h
  rw [Bool.eq_iff_iff, isTruthy_of_magnitude left, isTruthy_of_magnitude right]

theorem isTruthy_of_same (h : same a b = true) : a.isTruthy = b.isTruthy := by
  cases a with
  | bool _ | int _ | float _ => exact isTruthy_of_sameMagnitude h
  | text s => rw [eq_text_of_same h]
  | null =>
    cases b with
    | null => rfl
    | _ => cases h
  | list xs =>
    cases b with
    | list ys => exact congrArg not (isEmpty_of_length (length_of_sameItems h))
    | _ => cases h
  | tuple xs =>
    cases b with
    | tuple ys => exact congrArg not (isEmpty_of_length (length_of_sameItems h))
    | _ => cases h
  | dict xs =>
    cases b with
    | dict ys =>
      have lengths := eq_of_beq (Bool.and_eq_true_iff.mp h).1
      exact congrArg not (isEmpty_of_length lengths)
    | _ => cases h
  | locator l =>
    cases b with
    | locator m => rfl
    | _ => cases h

end ElementSearch.Value
