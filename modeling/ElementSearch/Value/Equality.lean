import ElementSearch.Value.Basic

/-! Equality of values, dictionary look-up, and keys for hashed collections.
Numbers are equal when they denote the same real number, whatever their form, and truth values
count as one and zero; a value that is not a number differs from itself.  Two locators are equal
when kind, value, engine and strictness are. -/

namespace ElementSearch

/-- What a numeric value denotes. -/
inductive Magnitude where
  | nan
  | infinite (negative : Bool)
  | exact (r : Rat)
deriving DecidableEq

namespace Value

def magnitude? : Value → Option Magnitude
  | bool b => some (.exact (if b then 1 else 0))
  | int n => some (.exact n)
  | float x =>
    match x with
    | .nan => some .nan
    | .infinite negative => some (.infinite negative)
    | .finite .. => x.toRat?.map .exact
  | _ => none

def sameMagnitude (a b : Value) : Bool :=
  match a.magnitude?, b.magnitude? with
  | some x, some y => decide (x = y ∧ x ≠ .nan)
  | _, _ => false

mutual

def same : Value → Value → Bool
  | null, b => b.isNull
  | text s, b => match b with
    | text t => s == t
    | _ => false
  | list xs, b => match b with
    | list ys => sameItems xs ys
    | _ => false
  | tuple xs, b => match b with
    | tuple ys => sameItems xs ys
    | _ => false
  | dict xs, b => match b with
    | dict ys => xs.length == ys.length && sameEntries xs ys
    | _ => false
  | locator ⟨kind, value, _, engine, _, _, strict⟩, b => match b with
    | locator m =>
      kind == m.kind && same value m.value && same engine m.engine && same strict m.strict
    | _ => false
  | bool c, b => sameMagnitude (bool c) b
  | int n, b => sameMagnitude (int n) b
  | float x, b => sameMagnitude (float x) b

def sameItems : List Value → List Value → Bool
  | [], [] => true
  | x :: xs, y :: ys => same x y && sameItems xs ys
  | _, _ => false

def sameEntries : List (Value × Value) → List (Value × Value) → Bool
  | [], _ => true
  | (k, v) :: rest, others =>
    (others.any fun entry => same k entry.1 && same v entry.2) && sameEntries rest others

end

/-- What two values must share to be kept as one key of a hashed collection. -/
inductive HashKey where
  | absent
  | number (n : Int)
  | word (s : String)
  | row (keys : List HashKey)
  | unlike

def hashModulus : Nat := Nat.pow 2 61 - 1

/-- The residue `-1` is not used. -/
def hashInt (negative : Bool) (residue : Nat) : HashKey :=
  let n : Int := if negative then -(residue : Int) else residue
  .number (if n = -1 then -2 else n)

def hashFloat : Binary64 → HashKey
  | .nan => .unlike
  | .infinite negative => .number (if negative then -314159 else 314159)
  | .finite negative m e => hashInt negative (m * Nat.pow 2 (e % 61).toNat % hashModulus)

mutual

/-- The key of a value, if neither a list nor a dictionary occurs where it counts. -/
def hashKey? : Value → Option HashKey
  | null => some .absent
  | bool b => some (.number (if b then 1 else 0))
  | int n => some (hashInt (n < 0) (n.natAbs % hashModulus))
  | float x => some (hashFloat x)
  | text s => some (if s.isEmpty then .number 0 else .word s)
  | list _ => none
  | tuple items => (hashKeys? items).map .row
  | dict _ => none
  | locator ⟨kind, value, _, engine, _, _, strict⟩ =>
    match hashKey? value, hashKey? engine, hashKey? strict with
    | some v, some e, some s => some (.row [.word kind.label, v, e, s])
    | _, _, _ => none

def hashKeys? : List Value → Option (List HashKey)
  | [] => some []
  | x :: xs =>
    match hashKey? x, hashKeys? xs with
    | some k, some ks => some (k :: ks)
    | _, _ => none

end

mutual

def HashKey.agrees : HashKey → HashKey → Bool
  | .absent, b => match b with
    | .absent => true
    | _ => false
  | .number m, b => match b with
    | .number n => m == n
    | _ => false
  | .word s, b => match b with
    | .word t => s == t
    | _ => false
  | .row ks, b => match b with
    | .row ls => HashKey.agreeAll ks ls
    | _ => false
  | .unlike, _ => false

def HashKey.agreeAll : List HashKey → List HashKey → Bool
  | [], [] => true
  | x :: xs, y :: ys => HashKey.agrees x y && HashKey.agreeAll xs ys
  | _, _ => false

end

def isHashable (v : Value) : Bool := v.hashKey?.isSome

theorem sameMagnitude_comm (a b : Value) : sameMagnitude a b = sameMagnitude b a := by
  unfold sameMagnitude
  cases a.magnitude? <;> cases b.magnitude? <;> try rfl
  rename_i x y
  exact decide_eq_decide.mpr ⟨fun h => ⟨h.1.symm, h.1 ▸ h.2⟩, fun h => ⟨h.1.symm, h.1 ▸ h.2⟩⟩

end Value

namespace Dict

variable {α : Type}

def get? (entries : Dict α) (key : Value) : Option α :=
  (entries.find? fun entry => entry.1.same key).map Prod.snd

/-- What is under `key` becomes `value`; a new key goes to the end, a known one keeps its place and
its first form. -/
def insert (entries : Dict α) (key : Value) (value : α) : Dict α :=
  match entries with
  | [] => [(key, value)]
  | (k, v) :: rest => if k.same key then (k, value) :: rest else (k, v) :: insert rest key value

def ofList (entries : List (Value × Value)) : Entries :=
  entries.foldl (fun acc entry => insert acc entry.1 entry.2) []

theorem insert_ne_nil (entries : Dict α) (key : Value) (value : α) :
    insert entries key value ≠ [] := by
  cases entries with
  | nil => simp [insert]
  | cons entry rest =>
    obtain ⟨k, v⟩ := entry
    unfold insert
    split <;> simp

end Dict

end ElementSearch
