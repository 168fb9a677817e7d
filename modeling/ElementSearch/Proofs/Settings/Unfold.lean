import ElementSearch.Proofs.Settings.Store
import ElementSearch.Proofs.Settings.Tree
import ElementSearch.Proofs.Value.Keyed
import Mathlib.Data.Finset.Image
import Mathlib.Order.Interval.Finset.Nat

/-! What dictionaries look like.
As long as no dictionary stands inside itself, an item looks like a tree.  The relation says which
dictionaries are met on the way down, so that a change of the others is seen to leave the tree as
it is; and it may say that no dictionary is met twice. -/

namespace ElementSearch

open Settings

variable {alone : Prop} {h h' : Heap} {S T : Finset Nat}

mutual

/-- The item looks like the value, the dictionaries in it are among `S`, and none of them stands
inside itself; if they are to be `alone`, none of them stands at two places. -/
inductive Unfolds (alone : Prop) (h : Heap) : Item → Value → Finset Nat → Prop
  | single (v : Value) (plain : v.isSingle = true) (S : Finset Nat) :
    Unfolds alone h (.single v plain) v S
  | list {items : List Item} {vs : List Value} {S : Finset Nat}
    (each : UnfoldsAll alone h items vs S) : Unfolds alone h (.list items) (.list vs) S
  | tuple {items : List Item} {vs : List Value} {S : Finset Nat}
    (each : UnfoldsAll alone h items vs S) : Unfolds alone h (.tuple items) (.tuple vs) S
  | dict {place : Nat} {cell : Cell} {entries : Entries} {S : Finset Nat}
    (here : h[place]? = some cell) (mem : place ∈ S)
    (each : UnfoldsEntries alone h cell entries (S.erase place)) :
    Unfolds alone h (.dict place) (.dict entries) S

inductive UnfoldsAll (alone : Prop) (h : Heap) : List Item → List Value → Finset Nat → Prop
  | nil (S : Finset Nat) : UnfoldsAll alone h [] [] S
  | cons {x : Item} {v : Value} {items : List Item} {vs : List Value} {R S T : Finset Nat}
    (first : Unfolds alone h x v R) (rest : UnfoldsAll alone h items vs T)
    (apart : alone → Disjoint R T) (left : R ⊆ S) (right : T ⊆ S) :
    UnfoldsAll alone h (x :: items) (v :: vs) S

inductive UnfoldsEntries (alone : Prop) (h : Heap) : Cell → Entries → Finset Nat → Prop
  | nil (S : Finset Nat) : UnfoldsEntries alone h [] [] S
  | cons {key : Value} {x : Item} {v : Value} {cell : Cell} {entries : Entries}
    {R S T : Finset Nat} (first : Unfolds alone h x v R)
    (rest : UnfoldsEntries alone h cell entries T) (apart : alone → Disjoint R T) (left : R ⊆ S)
    (right : T ⊆ S) : UnfoldsEntries alone h ((key, x) :: cell) ((key, v) :: entries) S

end

section Transfer

/-- The dictionaries that are on the one heap and among `S` are on the other and among `T`. -/
def Carries (h : Heap) (S : Finset Nat) (h' : Heap) (T : Finset Nat) : Prop :=
  ∀ p ∈ S, p < h.length → p ∈ T ∧ h'[p]? = h[p]?

theorem Carries.of_subset {R : Finset Nat} (carries : Carries h S h' T) (subset : R ⊆ S) :
    Carries h R h' (T ∩ R) := fun p mem inside =>
  ⟨Finset.mem_inter.mpr ⟨(carries p (subset mem) inside).1, mem⟩,
    (carries p (subset mem) inside).2⟩

theorem Carries.erase (carries : Carries h S h' T) (place : Nat) :
    Carries h (S.erase place) h' (T.erase place) := fun p mem inside =>
  have ⟨other, mem⟩ := Finset.mem_erase.mp mem
  ⟨Finset.mem_erase.mpr ⟨other, (carries p mem inside).1⟩, (carries p mem inside).2⟩

theorem Carries.getElem? {place : Nat} {cell : Cell} (carries : Carries h S h' T)
    (here : h[place]? = some cell) (mem : place ∈ S) : h'[place]? = some cell ∧ place ∈ T :=
  have carried := carries place mem (List.getElem?_eq_some_iff.mp here).1
  ⟨carried.2.trans here, carried.1⟩

theorem disjoint_inter {R S : Finset Nat} (apart : alone → Disjoint R S) (T : Finset Nat) :
    alone → Disjoint (T ∩ R) (T ∩ S) := fun given =>
  (apart given).mono Finset.inter_subset_right Finset.inter_subset_right

mutual

theorem Unfolds.transfer : ∀ {x : Item} {v : Value} {S T : Finset Nat},
    Unfolds alone h x v S → Carries h S h' T → Unfolds alone h' x v T
  | _, _, _, T, .single v plain _, _ => .single v plain T
  | _, _, _, _, .list each, carries => .list (each.transfer carries)
  | _, _, _, _, .tuple each, carries => .tuple (each.transfer carries)
  | _, _, _, _, .dict here mem each, carries =>
    have there := carries.getElem? here mem
    .dict there.1 there.2 (each.transfer (carries.erase _))

theorem UnfoldsAll.transfer : ∀ {items : List Item} {vs : List Value} {S T : Finset Nat},
    UnfoldsAll alone h items vs S → Carries h S h' T → UnfoldsAll alone h' items vs T
  | _, _, _, T, .nil _, _ => .nil T
  | _, _, _, T, .cons first rest apart left right, carries =>
    .cons (first.transfer (carries.of_subset left)) (rest.transfer (carries.of_subset right))
      (disjoint_inter apart T) Finset.inter_subset_left Finset.inter_subset_left

theorem UnfoldsEntries.transfer : ∀ {cell : Cell} {entries : Entries} {S T : Finset Nat},
    UnfoldsEntries alone h cell entries S → Carries h S h' T →
    UnfoldsEntries alone h' cell entries T
  | _, _, _, T, .nil _, _ => .nil T
  | _, _, _, T, .cons first rest apart left right, carries =>
    .cons (first.transfer (carries.of_subset left)) (rest.transfer (carries.of_subset right))
      (disjoint_inter apart T) Finset.inter_subset_left Finset.inter_subset_left

end

variable {x : Item} {v : Value} {cell : Cell} {entries : Entries}

def Untouched (h : Heap) (S : Finset Nat) (h' : Heap) : Prop :=
  ∀ p ∈ S, p < h.length → h'[p]? = h[p]?

theorem Untouched.of_subset (untouched : Untouched h S h') (subset : T ⊆ S) :
    Untouched h T h' := fun p mem inside => untouched p (subset mem) inside

theorem untouched_of_longer (longer : h <+: h') (S : Finset Nat) : Untouched h S h' := by
  obtain ⟨later, rfl⟩ := longer
  exact fun p _ inside => List.getElem?_append_left inside

theorem Untouched.carries (untouched : Untouched h S h') (subset : S ⊆ T) : Carries h S h' T :=
  fun p mem inside => ⟨subset mem, untouched p mem inside⟩

theorem Unfolds.frame (unfolds : Unfolds alone h x v S) (untouched : Untouched h S h') :
    Unfolds alone h' x v S := unfolds.transfer (untouched.carries subset_rfl)

theorem Unfolds.mono (unfolds : Unfolds alone h x v S) (subset : S ⊆ T) :
    Unfolds alone h x v T :=
  unfolds.transfer ((untouched_of_longer (List.prefix_refl h) S).carries subset)

theorem UnfoldsEntries.frame (unfolds : UnfoldsEntries alone h cell entries S)
    (untouched : Untouched h S h') : UnfoldsEntries alone h' cell entries S :=
  unfolds.transfer (untouched.carries subset_rfl)

theorem UnfoldsEntries.mono (unfolds : UnfoldsEntries alone h cell entries S) (subset : S ⊆ T) :
    UnfoldsEntries alone h cell entries T :=
  unfolds.transfer ((untouched_of_longer (List.prefix_refl h) S).carries subset)

theorem carries_inside (h : Heap) (S : Finset Nat) :
    Carries h S h (S ∩ Finset.range h.length) := fun _ mem inside =>
  ⟨Finset.mem_inter.mpr ⟨mem, Finset.mem_range.mpr inside⟩, rfl⟩

end Transfer

section Show

mutual

theorem Unfolds.look_showAt : ∀ {x : Item} {v : Value} {S : Finset Nat} (depth : Nat),
    Unfolds alone h x v S → S.card ≤ depth → x.look (h.showAt depth) = v
  | _, _, _, _, .single _ _ _, _ => rfl
  | _, _, _, depth, .list each, room => congrArg Value.list (each.look_showAt depth room)
  | _, _, _, depth, .tuple each, room => congrArg Value.tuple (each.look_showAt depth room)
  | _, _, _, 0, .dict _ mem _, room =>
    absurd (Finset.card_pos.mpr ⟨_, mem⟩) (Nat.not_lt.mpr room)
  | _, _, _, depth + 1, .dict here mem each, room => by
    have less := Finset.card_erase_lt_of_mem mem
    have inner := each.look_showAt depth (by omega)
    rw [Item.look, Heap.showAt, Heap.cell_of_getElem? here, inner]

theorem UnfoldsAll.look_showAt : ∀ {items : List Item} {vs : List Value} {S : Finset Nat}
    (depth : Nat), UnfoldsAll alone h items vs S → S.card ≤ depth →
    Item.lookAll (h.showAt depth) items = vs
  | _, _, _, _, .nil _, _ => rfl
  | _, _, _, depth, .cons first rest _ left right, room => by
    rw [Item.lookAll, first.look_showAt depth ((Finset.card_le_card left).trans room),
      rest.look_showAt depth ((Finset.card_le_card right).trans room)]

theorem UnfoldsEntries.look_showAt : ∀ {cell : Cell} {entries : Entries} {S : Finset Nat}
    (depth : Nat), UnfoldsEntries alone h cell entries S → S.card ≤ depth →
    (cell.map fun entry => (entry.1, entry.2.look (h.showAt depth))) = entries
  | _, _, _, _, .nil _, _ => rfl
  | _, _, _, depth, .cons first rest _ left right, room => by
    rw [List.map_cons, first.look_showAt depth ((Finset.card_le_card left).trans room),
      rest.look_showAt depth ((Finset.card_le_card right).trans room)]

end

variable {x : Item} {v : Value} {cell : Cell} {entries : Entries}

theorem Unfolds.show_eq (unfolds : Unfolds alone h x v S) : h.show x = v := by
  refine (unfolds.transfer (carries_inside h S)).look_showAt h.length ?_
  calc
    (S ∩ .range h.length).card ≤ (Finset.range h.length).card :=
      Finset.card_le_card Finset.inter_subset_right
    _ = h.length := Finset.card_range h.length

end Show

section Entries

theorem rel_imp {α β : Type} {R R' : α → β → Prop} {a : Option α} {b : Option β}
    (imp : ∀ x y, R x y → R' x y) (related : Option.Rel R a b) : Option.Rel R' a b := by
  cases related with
  | none => exact .none
  | some both => exact .some (imp _ _ both)

variable {x : Item} {v : Value} {cell : Cell} {entries : Entries}

/-- The entries but the one under the key; the dictionaries in them are among `S`. -/
def Beside (alone : Prop) (h : Heap) (cell : Cell) (entries : Entries) (key : Value)
    (S : Finset Nat) : Prop :=
  ∀ {h' : Heap} {x : Item} {v : Value} {R : Finset Nat}, Untouched h S h' →
    Unfolds alone h' x v R → (alone → Disjoint R S) →
    UnfoldsEntries alone h' (Dict.insert cell key x) (Dict.insert entries key v) (R ∪ S)

theorem UnfoldsEntries.split (each : UnfoldsEntries alone h cell entries S) (key : Value) :
    ∃ T ⊆ S, Beside alone h cell entries key T ∧
      Option.Rel (fun x v => ∃ R ⊆ S, Unfolds alone h x v R ∧ (alone → Disjoint R T))
        (Dict.get? cell key) (Dict.get? entries key) := by
  induction cell generalizing entries S with
  | nil =>
    cases each
    refine ⟨∅, Finset.empty_subset S, fun _ unfolds apart => ?_, .none⟩
    exact .cons unfolds (.nil ∅) apart Finset.subset_union_left Finset.subset_union_right
  | cons entry rest ih =>
    cases each with
    | @cons own y w _ others R _ T first each apart left right =>
      by_cases known : own.same key = true
      · refine ⟨T, right, fun untouched unfolds apart => ?_, ?_⟩
        · simp only [Dict.insert, known, if_true]
          exact .cons unfolds (each.frame untouched) apart Finset.subset_union_left
            Finset.subset_union_right
        · rw [Dict.get?_cons, Dict.get?_cons, if_pos known, if_pos known]
          exact .some ⟨R, left, first, apart⟩
      · obtain ⟨U, subset, beside, found⟩ := ih each
        refine ⟨R ∪ U, Finset.union_subset left (subset.trans right),
          fun untouched unfolds alike => ?_, ?_⟩
        · simp only [Dict.insert, known, Bool.false_eq_true, if_false]
          have first := first.frame (untouched.of_subset Finset.subset_union_left)
          have rest := beside (untouched.of_subset Finset.subset_union_right) unfolds
            fun given => (alike given).mono_right Finset.subset_union_right
          refine .cons first rest (fun given => ?_) ?_ ?_
          · exact (Finset.disjoint_union_right.mpr
              ⟨((alike given).mono_right Finset.subset_union_left).symm,
                (apart given).mono_right subset⟩)
          · exact Finset.subset_union_left.trans Finset.subset_union_right
          · exact Finset.union_subset_union_right Finset.subset_union_right
        · rw [Dict.get?_cons, Dict.get?_cons, if_neg known, if_neg known]
          refine rel_imp ?_ found
          rintro _ _ ⟨V, inner, unfolds, disjoint⟩
          exact ⟨V, inner.trans right, unfolds, fun given => Finset.disjoint_union_right.mpr
            ⟨((apart given).mono_right inner).symm, disjoint given⟩⟩

theorem UnfoldsEntries.get? (each : UnfoldsEntries alone h cell entries S) (key : Value) :
    Option.Rel (fun x v => ∃ R ⊆ S, Unfolds alone h x v R) (Dict.get? cell key)
      (Dict.get? entries key) := by
  obtain ⟨_, _, _, found⟩ := each.split key
  exact rel_imp (fun _ _ ⟨R, inner, unfolds, _⟩ => ⟨R, inner, unfolds⟩) found

theorem UnfoldsEntries.of_get? (each : UnfoldsEntries alone h cell entries S) {key : Value}
    (found : Dict.get? cell key = some x) :
    ∃ v R, Dict.get? entries key = some v ∧ R ⊆ S ∧ Unfolds alone h x v R := by
  have both := each.get? key
  rw [found] at both
  generalize Dict.get? entries key = y at both ⊢
  cases both with
  | some both =>
    obtain ⟨R, inner, unfolds⟩ := both
    exact ⟨_, R, rfl, inner, unfolds⟩

theorem Unfolds.lookup (unfolds : Unfolds alone h x v S) (keys : List String) :
    Option.Rel (fun x v => ∃ R ⊆ S, Unfolds alone h x v R) (h.lookup x keys)
      (Settings.lookup v keys) := by
  induction keys generalizing x v S with
  | nil => exact .some ⟨S, subset_rfl, unfolds⟩
  | cons key rest ih =>
    cases unfolds with
    | single v plain =>
      cases v with
      | dict _ => cases plain
      | _ => exact .none
    | list _ | tuple _ => exact .none
    | @dict place cell entries _ here mem each =>
      have found := each.get? (.text key)
      rw [Heap.lookup, Settings.lookup_cons, Heap.cell_of_getElem? here]
      generalize Dict.get? cell (.text key) = below at found ⊢
      generalize Dict.get? entries (.text key) = under at found ⊢
      cases found with
      | none => exact .none
      | some found =>
        obtain ⟨R, inner, unfolds⟩ := found
        refine rel_imp ?_ (ih unfolds)
        rintro _ _ ⟨U, least, unfolds⟩
        exact ⟨U, least.trans (inner.trans (S.erase_subset place)), unfolds⟩

theorem Unfolds.show_lookup (unfolds : Unfolds alone h x v S) (keys : List String) :
    (h.lookup x keys).map h.show = Settings.lookup v keys := by
  have found := unfolds.lookup keys
  generalize h.lookup x keys = y at found ⊢
  generalize Settings.lookup v keys = w at found ⊢
  cases found with
  | none => rfl
  | some found =>
    obtain ⟨_, _, unfolds⟩ := found
    exact congrArg some unfolds.show_eq

end Entries

section Since

/-- The dictionaries that came to the heap since it was as long as `n`. -/
def since (n : Nat) (h : Heap) : Finset Nat := .Ico n h.length

theorem since_mono {n m : Nat} (le : n ≤ m) (longer : h <+: h') : since m h ⊆ since n h' :=
  Finset.Ico_subset_Ico le longer.length_le

theorem since_disjoint {n m : Nat} (older : ∀ p ∈ S, p < n) (le : n ≤ m) (h : Heap) :
    Disjoint (since m h) S := by
  refine Finset.disjoint_left.mpr fun p new old => ?_
  have less := older p old
  have most := (Finset.mem_Ico.mp new).1
  omega

theorem lt_of_mem_since (older : ∀ p ∈ S, p < h.length) (longer : h <+: h') (n : Nat) :
    ∀ p ∈ S ∪ since n h', p < h'.length := fun p mem => by
  rcases Finset.mem_union.mp mem with old | new
  · exact (older p old).trans_le longer.length_le
  · exact (Finset.mem_Ico.mp new).2

theorem UnfoldsEntries.dict {cell : Cell} {entries : Entries}
    (each : UnfoldsEntries alone h cell entries S) (older : ∀ p ∈ S, p < h.length) :
    Unfolds alone (h ++ [cell]) (.dict h.length) (.dict entries) (insert h.length S) := by
  have fresh : h.length ∉ S := fun mem => Nat.lt_irrefl _ (older _ mem)
  refine .dict List.getElem?_concat_length (Finset.mem_insert_self ..) ?_
  rw [Finset.erase_insert fresh]
  exact each.frame (untouched_of_longer (List.prefix_append ..) S)

theorem since_append {n : Nat} (le : n ≤ h.length) (cell : Cell) :
    insert h.length (since n h) = since n (h ++ [cell]) := by
  rw [since, since, List.length_append, List.length_singleton, Nat.Ico_succ_right_eq_insert_Ico le]

end Since

section Take

mutual

theorem take_unfolds : (v : Value) → (h : Heap) → h <+: (Heap.take v h).2 ∧
    Unfolds alone (Heap.take v h).2 (Heap.take v h).1 v
      (since h.length (Heap.take v h).2)
  | .null, h | .bool _, h | .int _, h | .float _, h | .text _, h | .locator _, h =>
    ⟨List.prefix_refl h, .single _ rfl _⟩
  | .list items, h => ⟨(takeAll_unfolds items h).1, .list (takeAll_unfolds items h).2⟩
  | .tuple items, h => ⟨(takeAll_unfolds items h).1, .tuple (takeAll_unfolds items h).2⟩
  | .dict entries, h => by
    obtain ⟨longer, each⟩ := takeEntries_unfolds entries h
    have made := each.dict fun p mem => (Finset.mem_Ico.mp mem).2
    rw [since_append longer.length_le] at made
    exact ⟨longer.trans (List.prefix_append ..), made⟩

theorem takeAll_unfolds : (vs : List Value) → (h : Heap) → h <+: (Heap.takeAll vs h).2 ∧
    UnfoldsAll alone (Heap.takeAll vs h).2 (Heap.takeAll vs h).1 vs
      (since h.length (Heap.takeAll vs h).2)
  | [], h => ⟨List.prefix_refl h, .nil _⟩
  | v :: vs, h => by
    obtain ⟨longer, first⟩ := take_unfolds v h
    obtain ⟨longest, rest⟩ := takeAll_unfolds vs (Heap.take v h).2
    have less := longer.length_le
    have least := longest.length_le
    refine ⟨longer.trans longest, .cons (first.frame (untouched_of_longer longest _)) rest
      (fun _ => Finset.Ico_disjoint_Ico_consecutive ..) ?_ ?_⟩
    · exact Finset.Ico_subset_Ico_right least
    · exact Finset.Ico_subset_Ico_left less

theorem takeEntries_unfolds : (entries : List (Value × Value)) → (h : Heap) →
    h <+: (Heap.takeEntries entries h).2 ∧
    UnfoldsEntries alone (Heap.takeEntries entries h).2 (Heap.takeEntries entries h).1 entries
      (since h.length (Heap.takeEntries entries h).2)
  | [], h => ⟨List.prefix_refl h, .nil _⟩
  | (key, v) :: rest, h => by
    obtain ⟨longer, first⟩ := take_unfolds v h
    obtain ⟨longest, rest⟩ := takeEntries_unfolds rest (Heap.take v h).2
    have less := longer.length_le
    have least := longest.length_le
    refine ⟨longer.trans longest, .cons (first.frame (untouched_of_longer longest _)) rest
      (fun _ => Finset.Ico_disjoint_Ico_consecutive ..) ?_ ?_⟩
    · exact Finset.Ico_subset_Ico_right least
    · exact Finset.Ico_subset_Ico_left less

end

end Take

section Shift

def later (n : Nat) (S : Finset Nat) : Finset Nat := S.map (addLeftEmbedding n)

theorem later_mono {n : Nat} (subset : S ⊆ T) : later n S ⊆ later n T :=
  Finset.map_subset_map.mpr subset

theorem later_disjoint {n : Nat} (apart : alone → Disjoint S T) :
    alone → Disjoint (later n S) (later n T) := fun given =>
  (Finset.disjoint_map _).mpr (apart given)

mutual

theorem Unfolds.shift (before : Heap) : ∀ {x : Item} {v : Value} {S : Finset Nat},
    Unfolds alone h x v S → Unfolds alone (before ++ h.shift before.length)
      (x.shift before.length) v (later before.length S)
  | _, _, S, .single v plain _ => .single v plain (later _ S)
  | _, _, _, .list each => .list (each.shift before)
  | _, _, _, .tuple each => .tuple (each.shift before)
  | _, _, S, @Unfolds.dict _ _ place cell _ _ here mem each => by
    have below := each.shift before
    rw [later, Finset.map_erase] at below
    refine .dict ?_ (Finset.mem_map_of_mem (addLeftEmbedding before.length) mem) below
    rw [List.getElem?_append_right (Nat.le_add_right ..), Nat.add_sub_cancel_left, Heap.shift,
      List.getElem?_map, here]
    rfl

theorem UnfoldsAll.shift (before : Heap) : ∀ {items : List Item} {vs : List Value}
    {S : Finset Nat}, UnfoldsAll alone h items vs S →
    UnfoldsAll alone (before ++ h.shift before.length) (Item.shiftAll before.length items) vs
      (later before.length S)
  | _, _, _, .nil _ => .nil _
  | _, _, _, .cons first rest apart left right =>
    .cons (first.shift before) (rest.shift before) (later_disjoint apart) (later_mono left)
      (later_mono right)

theorem UnfoldsEntries.shift (before : Heap) : ∀ {cell : Cell} {entries : Entries}
    {S : Finset Nat}, UnfoldsEntries alone h cell entries S →
    UnfoldsEntries alone (before ++ h.shift before.length)
      (cell.map fun entry => (entry.1, entry.2.shift before.length)) entries
      (later before.length S)
  | _, _, _, .nil _ => .nil _
  | _, _, _, .cons first rest apart left right =>
    .cons (first.shift before) (rest.shift before) (later_disjoint apart) (later_mono left)
      (later_mono right)

end

end Shift

end ElementSearch
