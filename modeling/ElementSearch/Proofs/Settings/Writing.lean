import ElementSearch.Proofs.Settings.Placing
import ElementSearch.Proofs.Settings.Run
import ElementSearch.Proofs.Settings.Unfold

/-! Putting items into dictionaries.
Putting an item under a list of keys changes the dictionary that the keys lead to, and no other
that was there.  Where no dictionary stands inside itself the way is the same afterwards, so the
item is found under its keys; where none stands at two places, all that is found elsewhere is as
it was, down to what it looks like. -/

namespace ElementSearch

open Settings

variable {alone : Prop} {h h' : Heap} {root : Nat} {x : Item} {v : Value} {S T : Finset Nat}
  {key key' : String} {keys rest : List String}

namespace Heap

def sprout (h : Heap) (root : Nat) (key : String) : Heap :=
  h.write root (.text key) (.dict h.length) ++ [[]]

theorem length_sprout (h : Heap) (root : Nat) (key : String) :
    (h.sprout root key).length = h.length + 1 := by
  rw [sprout, List.length_append, length_write]
  rfl

theorem getElem?_sprout_other {p : Nat} (inside : p < h.length) (other : p ≠ root) :
    (h.sprout root key)[p]? = h[p]? := by
  rw [sprout, List.getElem?_append_left (by rwa [length_write]), getElem?_write_other other]

theorem getElem?_sprout_self {cell : Cell} (here : h[root]? = some cell) :
    (h.sprout root key)[root]? = some (Dict.insert cell (.text key) (.dict h.length)) := by
  have inside := (List.getElem?_eq_some_iff.mp here).1
  rw [sprout, List.getElem?_append_left (by rwa [length_write]), getElem?_write_self here]

theorem getElem?_sprout_new (h : Heap) (root : Nat) (key : String) :
    (h.sprout root key)[h.length]? = some [] := by
  have size := length_write h root (.text key) (.dict h.length)
  simp [sprout, size]

theorem sprout_unfolds (h : Heap) (root : Nat) (key : String) :
    Unfolds alone (h.sprout root key) (.dict h.length) (.dict []) {h.length} :=
  .dict (getElem?_sprout_new h root key) (Finset.mem_singleton_self _) (.nil _)

theorem put_of_found {inner : Nat}
    (found : Dict.get? (h.cell root) (.text key) = some (.dict inner)) (x : Item) :
    h.put root x (key :: key' :: rest) = h.put inner x (key' :: rest) := by
  rw [put, found]
  exact nofun

theorem put_of_new
    (new : ∀ inner, Dict.get? (h.cell root) (.text key) ≠ some (.dict inner)) (x : Item) :
    h.put root x (key :: key' :: rest) =
      (h.sprout root key).put h.length x (key' :: rest) := by
  rw [put]
  · split
    · exact absurd ‹_› (new _)
    · rfl
  · exact nofun

end Heap

theorem UnfoldsEntries.split_dict {cell : Cell} {entries : Entries}
    (each : UnfoldsEntries alone h cell entries S) (key : String) :
    ∃ U ⊆ S, Beside alone h cell entries (.text key) U ∧
      ((∃ inner R, R ⊆ S ∧ Dict.get? cell (.text key) = some (.dict inner) ∧
          Unfolds alone h (.dict inner) (.dict (branch entries key)) R ∧ (alone → Disjoint R U)) ∨
        (∀ inner, Dict.get? cell (.text key) ≠ some (.dict inner)) ∧ branch entries key = []) := by
  obtain ⟨U, least, beside, found⟩ := each.split (.text key)
  refine ⟨U, least, beside, ?_⟩
  unfold branch
  generalize Dict.get? cell (.text key) = x at found
  generalize Dict.get? entries (.text key) = v at found
  cases found with
  | none => exact .inr ⟨nofun, rfl⟩
  | @some _ v found =>
    obtain ⟨R, inner, unfolds, apart⟩ := found
    cases unfolds with
    | single _ plain =>
      refine .inr ⟨nofun, ?_⟩
      cases v with
      | dict _ => cases plain
      | _ => rfl
    | list _ | tuple _ => exact .inr ⟨nofun, rfl⟩
    | dict here mem each => exact .inl ⟨_, R, inner, rfl, .dict here mem each, apart⟩

section Acyclic

theorem getElem?_put (unfolds : Unfolds alone h (.dict root) v S) (x : Item) {p : Nat}
    (inside : p < h.length) (out : p ∉ S) : (h.put root x keys)[p]? = h[p]? := by
  induction keys generalizing h root v S with
  | nil => rfl
  | cons key rest ih =>
    cases unfolds with
    | dict here mem each =>
      have other : p ≠ root := fun same => out (same ▸ mem)
      cases rest with
      | nil => exact Heap.getElem?_write_other other h _ x
      | cons key' rest =>
        obtain ⟨_, _, _, ⟨inner, R, least, found, unfolds, _⟩ | ⟨new, _⟩⟩ := each.split_dict key
        · rw [Heap.put_of_found (Heap.cell_of_getElem? here ▸ found)]
          exact ih unfolds inside fun mem => out (Finset.mem_of_mem_erase (least mem))
        · rw [Heap.put_of_new (Heap.cell_of_getElem? here ▸ new),
            ih (Heap.sprout_unfolds h root key) (by rw [Heap.length_sprout]; omega)
              (by simp; omega), Heap.getElem?_sprout_other inside other]

theorem lookup_dict (h : Heap) (place : Nat) (key : String) (rest : List String) :
    h.lookup (.dict place) (key :: rest) =
      (Dict.get? (h.cell place) (.text key)).bind fun inner => h.lookup inner rest := rfl

theorem cell_put_above {inner : Nat} (unfolds : Unfolds alone h (.dict inner) v T)
    (least : T ⊆ S.erase root) (inside : root < h.length) (x : Item) (keys : List String) :
    (h.put inner x keys).cell root = h.cell root := by
  rw [Heap.cell, Heap.cell, getElem?_put unfolds x inside fun mem => by simpa using least mem]

theorem getElem?_put_new {p : Nat} (inside : p < h.length) (root : Nat) (key : String)
    (x : Item) : ((h.sprout root key).put h.length x keys)[p]? = (h.sprout root key)[p]? := by
  have bare : Unfolds False (h.sprout root key) (.dict h.length) (.dict []) {h.length} :=
    Heap.sprout_unfolds h root key
  refine getElem?_put bare x ?_ ?_
  · rw [Heap.length_sprout]
    omega
  · rw [Finset.mem_singleton]
    omega

theorem getElem?_put_sprout {p : Nat} (inside : p < h.length) (other : p ≠ root) (key : String)
    (x : Item) : ((h.sprout root key).put h.length x keys)[p]? = h[p]? :=
  (getElem?_put_new inside root key x).trans (Heap.getElem?_sprout_other inside other)

theorem cell_put_sprout {cell : Cell} (here : h[root]? = some cell) (key : String) (x : Item) :
    ((h.sprout root key).put h.length x keys).cell root =
      Dict.insert cell (.text key) (.dict h.length) := by
  have inside := (List.getElem?_eq_some_iff.mp here).1
  rw [Heap.cell, getElem?_put_new inside, Heap.getElem?_sprout_self here]
  rfl

theorem lookup_put (unfolds : Unfolds alone h (.dict root) v S) (x : Item) (some : keys ≠ [])
    (rest : List String) : (h.put root x keys).lookup (.dict root) (keys ++ rest) =
      (h.put root x keys).lookup x rest := by
  induction keys generalizing h root v S with
  | nil => exact absurd rfl some
  | cons key keys ih =>
    cases unfolds with
    | dict here mem each =>
      have inside := (List.getElem?_eq_some_iff.mp here).1
      have whole := Heap.cell_of_getElem? here
      cases keys with
      | nil =>
        rw [List.cons_append, lookup_dict, Heap.put,
          Heap.cell_of_getElem? (Heap.getElem?_write_self here _ x), Dict.get?_insert_text,
          if_pos rfl]
        rfl
      | cons key' keys =>
        obtain ⟨_, _, _, ⟨inner, R, least, found, unfolds, _⟩ | ⟨new, _⟩⟩ := each.split_dict key
        · rw [Heap.put_of_found (whole ▸ found), List.cons_append, lookup_dict,
            cell_put_above unfolds least inside, whole, found]
          exact ih unfolds (List.cons_ne_nil _ _)
        · rw [Heap.put_of_new (whole ▸ new), List.cons_append, lookup_dict,
            cell_put_sprout here, Dict.get?_insert_text, if_pos rfl]
          exact ih (Heap.sprout_unfolds h root key) (List.cons_ne_nil _ _)

theorem put_put (unfolds : Unfolds alone h (.dict root) v S) (x y : Item) :
    (h.put root x keys).put root y keys = h.put root y keys := by
  induction keys generalizing h root v S with
  | nil => rfl
  | cons key keys ih =>
    cases unfolds with
    | dict here mem each =>
      have inside := (List.getElem?_eq_some_iff.mp here).1
      have whole := Heap.cell_of_getElem? here
      cases keys with
      | nil =>
        simp only [Heap.put, Heap.write, List.modify_modify_eq]
        congr 1
        funext cell
        exact Dict.insert_insert cell key x y
      | cons key' keys =>
        obtain ⟨_, _, _, ⟨inner, R, least, found, unfolds, _⟩ | ⟨new, _⟩⟩ := each.split_dict key
        · have kept := cell_put_above unfolds least inside x (key' :: keys)
          rw [← whole] at found
          rw [Heap.put_of_found found x, Heap.put_of_found found y,
            Heap.put_of_found (kept ▸ found), ih unfolds]
        · have known : Dict.get? (((h.sprout root key).put h.length x (key' :: keys)).cell root)
              (.text key) = some (.dict h.length) := by
            rw [cell_put_sprout here, Dict.get?_insert_text, if_pos rfl]
          rw [← whole] at new
          rw [Heap.put_of_new new x, Heap.put_of_found known,
            ih (Heap.sprout_unfolds h root key), Heap.put_of_new new y]

end Acyclic

section Frame

variable {p q : List String}

theorem Unfolds.lookup_eq (unfolds : Unfolds alone h x v S) (untouched : Untouched h S h')
    (q : List String) : h'.lookup x q = h.lookup x q := by
  induction q generalizing x v S with
  | nil => rfl
  | cons key rest ih =>
    cases unfolds with
    | single _ _ | list _ | tuple _ => rfl
    | @dict place cell _ _ here mem each =>
      have inside := (List.getElem?_eq_some_iff.mp here).1
      have same : h'.cell place = cell :=
        Heap.cell_of_getElem? ((untouched place mem inside).trans here)
      rw [lookup_dict, lookup_dict, same, Heap.cell_of_getElem? here]
      cases found : Dict.get? cell (.text key) with
      | none => rfl
      | some y =>
        obtain ⟨_, R, _, least, unfolds⟩ := each.of_get? found
        exact ih unfolds (untouched.of_subset (least.trans (S.erase_subset place)))

/-- What is found under the keys is the same and looks the same. -/
def SameUnder (h h' : Heap) (x : Item) (q : List String) : Prop :=
  h'.lookup x q = h.lookup x q ∧ (h'.lookup x q).map h'.show = (h.lookup x q).map h.show

theorem Unfolds.sameUnder (unfolds : Unfolds alone h x v S) (untouched : Untouched h S h')
    (q : List String) : SameUnder h h' x q :=
  ⟨unfolds.lookup_eq untouched q,
    by rw [(unfolds.frame untouched).show_lookup, unfolds.show_lookup]⟩

theorem sameUnder_dict (same : Dict.get? (h'.cell root) (.text key) =
    Dict.get? (h.cell root) (.text key)) (below : ∀ y,
      Dict.get? (h.cell root) (.text key) = some y → SameUnder h h' y q) :
    SameUnder h h' (.dict root) (key :: q) := by
  unfold SameUnder
  rw [lookup_dict, lookup_dict, same]
  cases found : Dict.get? (h.cell root) (.text key) with
  | none => exact ⟨rfl, rfl⟩
  | some y => exact below y found

theorem lookup_of_new
    (new : ∀ inner, Dict.get? (h.cell root) (.text key) ≠ some (.dict inner)) :
    h.lookup (.dict root) (key :: key' :: rest) = none := by
  rw [lookup_dict]
  cases found : Dict.get? (h.cell root) (.text key) with
  | none => rfl
  | some y =>
    cases y with
    | dict inner => exact absurd found (new inner)
    | _ => rfl

theorem UnfoldsEntries.apart {cell : Cell} {entries : Entries}
    (each : UnfoldsEntries alone h cell entries S) (other : key ≠ key') {x y : Item}
    (here : Dict.get? cell (.text key) = some x) (there : Dict.get? cell (.text key') = some y) :
    ∃ v w R T, T ⊆ S ∧ Unfolds alone h x v R ∧ Unfolds alone h y w T ∧
      (alone → Disjoint R T) := by
  obtain ⟨U, least, beside, found⟩ := each.split (.text key)
  rw [here] at found
  generalize Dict.get? entries (.text key) = v at found
  cases found with
  | some found =>
    obtain ⟨R, _, unfolds, apart⟩ := found
    -- the entry under the first key is taken away
    have without := beside (untouched_of_longer (List.prefix_refl h) U)
      (.single .null rfl ∅) fun _ => Finset.disjoint_empty_left U
    have kept : Dict.get? (Dict.insert cell (.text key) (.single .null rfl)) (.text key') =
        some y := by rw [Dict.get?_insert_text, if_neg other, there]
    obtain ⟨w, T, _, inner, unfolds'⟩ := without.of_get? kept
    rw [Finset.empty_union] at inner
    exact ⟨_, w, R, T, inner.trans least, unfolds, unfolds', fun given =>
      (apart given).mono_right inner⟩

theorem sameUnder_put_other (given : alone) (unfolds : Unfolds alone h (.dict root) v S)
    (x : Item) (other : key ≠ key') (p q : List String) :
    SameUnder h (h.put root x (key :: p)) (.dict root) (key' :: q) := by
  cases unfolds with
  | @dict _ cell _ _ here mem each =>
    have inside := (List.getElem?_eq_some_iff.mp here).1
    have whole := Heap.cell_of_getElem? here
    cases p with
    | nil =>
      refine sameUnder_dict ?_ fun y there => ?_
      · rw [Heap.put, Heap.cell_of_getElem? (Heap.getElem?_write_self here _ x),
          Dict.get?_insert_text, if_neg other, whole]
      · obtain ⟨_, T, _, least, beside⟩ := each.of_get? (whole ▸ there)
        exact beside.sameUnder (fun p mem _ =>
          Heap.getElem?_write_other (Finset.ne_of_mem_erase (least mem)) h _ x) q
    | cons key'' p =>
      obtain ⟨_, _, _, ⟨inner, R, least, found, unfolds, _⟩ | ⟨new, _⟩⟩ := each.split_dict key
      · have kept := cell_put_above unfolds least inside x (key'' :: p)
        rw [Heap.put_of_found (whole ▸ found)]
        refine sameUnder_dict (by rw [kept]) fun y there => ?_
        obtain ⟨_, _, R, T, _, onTheWay, beside, apart⟩ := each.apart other found (whole ▸ there)
        exact beside.sameUnder (fun p mem inside => getElem?_put onTheWay x inside
          (Finset.disjoint_right.mp (apart given) mem)) q
      · rw [Heap.put_of_new (whole ▸ new)]
        refine sameUnder_dict ?_ fun y there => ?_
        · rw [cell_put_sprout here, Dict.get?_insert_text, if_neg other, whole]
        · obtain ⟨_, T, _, least, beside⟩ := each.of_get? (whole ▸ there)
          exact beside.sameUnder (fun p mem within =>
            getElem?_put_sprout within (Finset.ne_of_mem_erase (least mem)) key x) q

theorem sameUnder_put (given : alone) (unfolds : Unfolds alone h (.dict root) v S) (x : Item)
    (apart : Apart p q) : SameUnder h (h.put root x p) (.dict root) q := by
  induction p generalizing h root v S q with
  | nil => exact absurd List.nil_prefix apart.1
  | cons key p ih =>
    cases q with
    | nil => exact absurd List.nil_prefix apart.2
    | cons other q =>
      cases unfolds with
      | @dict _ cell _ _ here mem each =>
        have inside := (List.getElem?_eq_some_iff.mp here).1
        have whole := Heap.cell_of_getElem? here
        by_cases same : key = other
        · subst same
          have further := apart_cons_iff.mp apart rfl
          cases p with
          | nil => exact absurd List.nil_prefix further.1
          | cons key' p =>
            obtain ⟨_, _, _, ⟨inner, R, least, found, unfolds, _⟩ | ⟨new, _⟩⟩ := each.split_dict key
            · rw [← whole] at found
              rw [Heap.put_of_found found]
              refine sameUnder_dict (by rw [cell_put_above unfolds least inside]) fun y there => ?_
              cases found.symm.trans there
              exact ih unfolds further
            · cases q with
              | nil => exact absurd List.nil_prefix further.2
              | cons other' q =>
                rw [← whole] at new
                have nowhere : ((h.sprout root key).put h.length x (key' :: p)).lookup
                    (.dict root) (key :: other' :: q) = none := by
                  rw [lookup_dict, cell_put_sprout here, Dict.get?_insert_text, if_pos rfl,
                    Option.bind_some, (ih (Heap.sprout_unfolds h root key) further).1, lookup_dict,
                    Heap.cell_of_getElem? (Heap.getElem?_sprout_new h root key)]
                  rfl
                rw [Heap.put_of_new new, SameUnder, nowhere, lookup_of_new new]
                exact ⟨rfl, rfl⟩
        · exact sameUnder_put_other given (.dict here mem each) x same p q

end Frame

section Tree

variable {entries : Entries}

theorem place_of_branch (entries : Entries) (v : Value) (key key' : String)
    (rest : List String) : place entries v (key :: key' :: rest) =
      Dict.insert entries (.text key) (.dict (place (branch entries key) v (key' :: rest))) := rfl

theorem replaced_unfolds {cell : Cell} {y : Item} {w : Value} {R U : Finset Nat}
    (beside : Beside alone h cell entries (.text key) U) (others : Untouched h U h')
    (here : h'[root]? = some (Dict.insert cell (.text key) y)) (item : Unfolds alone h' y w R)
    (apart : alone → Disjoint R U) (out : root ∉ R ∪ U) (mem : root ∈ S) (within : R ∪ U ⊆ S) :
    Unfolds alone h' (.dict root) (.dict (Dict.insert entries (.text key) w)) S :=
  .dict here mem ((beside others item apart).mono (Finset.subset_erase.mpr ⟨within, out⟩))

theorem put_unfolds (given : alone) (unfolds : Unfolds alone h (.dict root) (.dict entries) S)
    (item : Unfolds alone h x v T) (apart : Disjoint S T) (older : ∀ p ∈ S ∪ T, p < h.length)
    (keys : List String) :
    Unfolds alone (h.put root x keys) (.dict root) (.dict (place entries v keys))
      (S ∪ T ∪ since h.length (h.put root x keys)) := by
  induction keys generalizing h root entries S with
  | nil => exact unfolds.mono (Finset.subset_union_left.trans Finset.subset_union_left)
  | cons key keys ih =>
    cases unfolds with
    | @dict _ cell _ _ here mem each =>
      have whole := Heap.cell_of_getElem? here
      have inside := (List.getElem?_eq_some_iff.mp here).1
      obtain ⟨U, least, beside, below⟩ := each.split_dict key
      have disjoint : Disjoint T U := apart.symm.mono_right (least.trans (S.erase_subset root))
      have out : root ∉ T ∪ U := by grind [Finset.disjoint_left]
      have beneath : ∀ p ∈ T ∪ U, p < h.length := fun p mem => older p (by grind)
      have lower : ∀ p ∈ U, p < h.length := fun p mem => beneath p (Finset.mem_union_right T mem)
      cases keys with
      | nil =>
        have others : Untouched h (T ∪ U) (h.write root (.text key) x) := fun p mem _ =>
          Heap.getElem?_write_other (ne_of_mem_of_not_mem mem out) h _ x
        exact replaced_unfolds beside (others.of_subset Finset.subset_union_right)
          (Heap.getElem?_write_self here _ x) (item.frame (others.of_subset
            Finset.subset_union_left)) (fun _ => disjoint) out (by simp [mem]) (by grind)
      | cons key' keys =>
        rw [place_of_branch]
        rcases below with ⟨inner, R, inward, found, unfolds, apart'⟩ | ⟨new, none⟩
        · have kept : (h.put inner x (key' :: keys))[root]? = h[root]? :=
            getElem?_put unfolds x inside fun mem => by simpa using inward mem
          have among := inward.trans (S.erase_subset root)
          have placed := ih unfolds item (apart.mono_left among) fun p mem =>
            older p (Finset.union_subset_union_left among mem)
          rw [Heap.put_of_found (whole ▸ found)]
          refine replaced_unfolds beside (fun p mem within => getElem?_put unfolds x within
            (Finset.disjoint_right.mp (apart' given) mem)) ?_ placed (fun _ => ?_) ?_
            (by simp [mem]) (by grind)
          · rw [Dict.insert_of_get? found, kept, here]
          · exact Finset.disjoint_union_left.mpr ⟨Finset.disjoint_union_left.mpr
              ⟨apart' given, disjoint⟩, since_disjoint lower le_rfl _⟩
          · grind [since]
        · rw [Heap.put_of_new (whole ▸ new), none]
          have longer := Heap.length_le_put (h.sprout root key) h.length x (key' :: keys)
          rw [Heap.length_sprout] at longer
          have others : Untouched h (T ∪ U) (h.sprout root key) := fun p mem inside =>
            Heap.getElem?_sprout_other inside (ne_of_mem_of_not_mem mem out)
          have unused : h.length ∉ T ∪ U := fun mem => Nat.lt_irrefl _ (beneath _ mem)
          have all : ∀ p ∈ {h.length} ∪ T, p < (h.sprout root key).length := by
            intro p mem
            rw [Heap.length_sprout]
            rcases Finset.mem_union.mp mem with new | old
            · exact (Finset.mem_singleton.mp new).symm ▸ Nat.lt_succ_self _
            · exact Nat.lt_succ_of_lt (beneath p (Finset.mem_union_left U old))
          have placed := ih (Heap.sprout_unfolds h root key)
            (item.frame (others.of_subset Finset.subset_union_left))
            (Finset.disjoint_singleton_left.mpr (by grind)) all
          rw [Heap.length_sprout] at placed
          refine replaced_unfolds beside (fun p mem within => getElem?_put_sprout within
            (ne_of_mem_of_not_mem (Finset.mem_union_right T mem) out) key x)
            ((getElem?_put_new inside root key x).trans (Heap.getElem?_sprout_self here)) placed
            (fun _ => ?_) ?_ (by simp [mem]) ?_
          · exact Finset.disjoint_union_left.mpr ⟨Finset.disjoint_union_left.mpr
              ⟨Finset.disjoint_singleton_left.mpr (by grind), disjoint⟩,
              since_disjoint lower h.length.le_succ _⟩
          · grind [since]
          · grind [since]

end Tree

namespace Settings

variable {s : Setup} {store : Store} {tree : Entries}

/-- The settings look like the tree, and no dictionary among them stands at two places. -/
def IsTree (store : Store) (tree : Entries) : Prop :=
  ∃ S, Unfolds True store.heap (.dict store.root) (.dict tree) S

theorem IsTree.put (looks : IsTree store tree) (text : String) (keys : List String) :
    IsTree (store.put (.text text) keys) (place tree (.text text) keys) := by
  obtain ⟨S, unfolds⟩ := looks
  have inside := unfolds.transfer (carries_inside store.heap S)
  refine ⟨_, put_unfolds trivial inside (.single (.text text) rfl ∅) (Finset.disjoint_empty_right _)
    (fun p mem => ?_) keys⟩
  rw [Finset.union_empty] at mem
  exact Finset.mem_range.mp (Finset.mem_inter.mp mem).2

theorem IsTree.applyBindings (looks : IsTree store tree) (bindings : List (String × String)) :
    IsTree (applyBindings store bindings) (placeBindings tree bindings) := by
  induction bindings generalizing store tree with
  | nil => exact looks
  | cons a rest ih =>
    have one : IsTree (applyBinding store a) (placeBinding tree a) := by
      unfold applyBinding placeBinding
      cases variableKeys a.1 with
      | none => exact looks
      | some keys => exact looks.put a.2 keys
    exact ih one

/-- What the settings look like. -/
def look (store : Store) : Value := store.heap.show (.dict store.root)

theorem IsTree.look_eq (looks : IsTree store tree) : look store = .dict tree :=
  looks.choose_spec.show_eq

theorem entries_ne_nil_iff
    (looks : Unfolds alone store.heap (.dict store.root) (.dict tree) S) :
    store.entries ≠ [] ↔ tree ≠ [] := by
  cases looks with
  | dict here _ each =>
    rw [Store.entries, Heap.cell_of_getElem? here]
    cases each <;> simp

theorem put_put_store (looks : Unfolds alone store.heap (.dict store.root) v S) (x y : Item)
    (keys : List String) : (store.put x keys).put y keys = store.put y keys := by
  simp only [Store.put, put_put looks x y]

theorem elim_eq {α β : Type} (o : Option α) (b : β) (f : α → β) :
    o.elim b f = (o.map f).getD b := by
  cases o <;> rfl

/-- Loaded settings after an item was put, if no dictionary stands inside itself: it is found under
its name, and what it has below under longer names, and a second item takes the place of the first.
An item with dictionaries of its own looks as before.  If no dictionary stands at two places, what
lies apart is the same and looks the same, and variables that name places apart come to equal
settings in every order. -/
theorem put_and_found {places : Finset Nat}
    (looks : Unfolds alone s.store.heap (.dict s.store.root) (.dict tree) places)
    (loaded : tree ≠ []) (name : String) (x : Item) :
    (∃ s', (putItem name x).run s = (.ok (), s') ∧
      (∀ fallback, (getItem name fallback).run s' = (.ok x, s')) ∧
      (∀ key fallback rest, Cut.dotted key = Cut.dotted name ++ rest →
        ((getItem key fallback).run s').1 = .ok ((s'.store.heap.lookup x rest).getD fallback)) ∧
      (∀ y, (putItem name y).run s' = (putItem name y).run s) ∧
      (∀ v others, Unfolds alone s.store.heap x v others → Disjoint places others →
        ∀ key fallback rest, Cut.dotted key = Cut.dotted name ++ rest →
          ((getValue key fallback).run s').1 = .ok ((lookup v rest).getD fallback)) ∧
      (alone → ∀ key, Apart (Cut.dotted name) (Cut.dotted key) →
        (∀ fallback, ((getItem key fallback).run s').1 = ((getItem key fallback).run s).1) ∧
        ∀ fallback, ((getValue key fallback).run s').1 = ((getValue key fallback).run s).1)) ∧
    (alone → Value.isTreeEntries tree = true → ∀ bindings bindings',
      bindings.Pairwise Independent → bindings.Perm bindings' →
        ∃ one other, look (applyBindings s.store bindings) = .dict one ∧
          look (applyBindings s.store bindings') = .dict other ∧ Reordered one other) := by
  have some := (entries_ne_nil_iff looks).mpr loaded
  let s' : Setup := { s with store := s.store.put x (Cut.dotted name) }
  have further : s'.store.entries ≠ [] := Store.entries_put_ne_nil some x (Cut.dotted name)
  have named := Cut.dotted_ne_nil name
  have below (rest : List String) := lookup_put looks x named rest
  refine ⟨⟨s', run_putItem_of_some some name x, ?_, ?_, ?_, ?_, ?_⟩, ?_⟩
  · intro fallback
    have here := below []
    rw [List.append_nil] at here
    have found : find? s'.store name = Option.some x := here
    exact (run_getItem_of_some further name fallback).trans (by rw [found]; rfl)
  · intro key fallback rest longer
    have found : find? s'.store key = s'.store.heap.lookup x rest :=
      (congrArg _ longer).trans (below rest)
    exact (congrArg Prod.fst (run_getItem_of_some further key fallback)).trans (by rw [found])
  · intro y
    have same := put_put_store looks x y (Cut.dotted name)
    exact (run_putItem_of_some further name y).trans
      ((run_putItem_of_some some name y).trans (by rw [same])).symm
  · intro v others own apart key fallback rest longer
    have kept : Unfolds alone s'.store.heap x v others := own.frame fun p mem inside =>
      getElem?_put looks x inside (Finset.disjoint_right.mp apart mem)
    have found : find? s'.store key = s'.store.heap.lookup x rest :=
      (congrArg _ longer).trans (below rest)
    refine (congrArg Prod.fst (run_getValue_of_some further key fallback)).trans ?_
    rw [found, elim_eq, kept.show_lookup]
  · intro given key apart
    obtain ⟨items, values⟩ := sameUnder_put given looks x apart
    refine ⟨fun fallback => ?_, fun fallback => ?_⟩
    · refine (congrArg Prod.fst (run_getItem_of_some further key fallback)).trans ?_
      refine (congrArg Except.ok ?_).trans
        (congrArg Prod.fst (run_getItem_of_some some key fallback)).symm
      exact congrArg (Option.getD · fallback) items
    · refine (congrArg Prod.fst (run_getValue_of_some further key fallback)).trans ?_
      refine (congrArg Except.ok ?_).trans
        (congrArg Prod.fst (run_getValue_of_some some key fallback)).symm
      rw [elim_eq, elim_eq]
      exact congrArg (Option.getD · fallback) values
  · intro given tidy bindings bindings' independent order
    have looks : IsTree s.store tree := ⟨places, by rwa [eq_true given] at looks⟩
    exact ⟨_, _, (looks.applyBindings bindings).look_eq, (looks.applyBindings bindings').look_eq,
      placeBindings_perm order independent tidy⟩

theorem isTree_ofEntries (entries : Entries) : IsTree (.ofEntries entries) entries :=
  ⟨_, (takeEntries_unfolds entries []).2.dict fun _ mem => (Finset.mem_Ico.mp mem).2⟩

theorem put_and_found_level :
    let s : Setup := { initial ⟨true, []⟩ with store := builtIn }
    let first := ("A__B", "1")
    let second := ("A__C", "2")
    (∃ s', (putItem "logging.level" (.text "DEBUG")).run s = (.ok (), s') ∧
      (getItem "logging.level" .null).run s' = (.ok (.text "DEBUG"), s') ∧
      ((getValue "logging.level.name" .null).run s').1 = .ok .null ∧
      ((getValue "logging.format" .null).run s').1 =
        ((getValue "logging.format" .null).run s).1) ∧
    ∃ one other, look (applyBindings builtIn [first, second]) = .dict one ∧
      look (applyBindings builtIn [second, first]) = .dict other ∧ Reordered one other := by
  intro s first second
  have neighbours : Independent first second := by
    intro p q named named'
    have isFirst : variableKeys first.1 = some ["a", "b"] := by decide
    have isSecond : variableKeys second.1 = some ["a", "c"] := by decide
    cases isFirst.symm.trans named
    cases isSecond.symm.trans named'
    exact ⟨by decide, by decide⟩
  have level : Cut.dotted "logging.level" = ["logging", "level"] := by decide
  have format : Cut.dotted "logging.format" = ["logging", "format"] := by decide
  have name : Cut.dotted "logging.level.name" = ["logging", "level", "name"] := by decide
  have apart : Apart (Cut.dotted "logging.level") (Cut.dotted "logging.format") := by
    rw [level, format]
    exact ⟨by decide, by decide⟩
  obtain ⟨places, looks⟩ := isTree_ofEntries defaults
  obtain ⟨⟨s', put, own, _, _, values, frame⟩, ordered⟩ :=
    put_and_found (s := s) looks nofun "logging.level" (.text "DEBUG")
  refine ⟨⟨s', put, own .null, ?_, (frame trivial _ apart).2 .null⟩, ?_⟩
  · exact values (.text "DEBUG") ∅ (.single (.text "DEBUG") rfl ∅) (Finset.disjoint_empty_right _)
      "logging.level.name" .null ["name"] (by rw [level, name]; rfl)
  · exact ordered trivial (by decide) _ _ (List.pairwise_pair.mpr neighbours)
      (.swap second first [])

def withFile (sheet : Sheet) (bindings : List (String × String)) : Setup :=
  { initial ⟨false, []⟩ with
    files := ((Files.write ⟨false, ["c", "config.yaml"]⟩ (some sheet)).run .empty).2
    bindings := bindings
    directory := some ⟨false, ["c"]⟩ }

/-- A dictionary under two keys. -/
def shared : Sheet :=
  ⟨[[(.text "x", .dict 1), (.text "y", .dict 1)], [(.text "k", .text "a")]], .dict 0⟩

/-- A dictionary inside itself. -/
def circular : Sheet := ⟨[[(.text "x", .dict 1)], [(.text "x", .dict 1)]], .dict 0⟩

/-- A dictionary at two places is changed at both: what lies apart is another value afterwards, and
the later of two variables wins at both.  And where a dictionary stands inside itself the item that
was put is not found. -/
theorem shared_settings_move :
    Apart (Cut.dotted "x.k") (Cut.dotted "y.k") ∧
      ((getValue "y.k" .null).run (withFile shared [])).1 = .ok (.text "a") ∧
      ((getValue "y.k" .null).run
        ((putItem "x.k" (.text "b")).run (withFile shared [])).2).1 = .ok (.text "b") ∧
      Independent ("X__K", "1") ("Y__K", "2") ∧
      ((getValue "x.k" .null).run (withFile shared [("X__K", "1"), ("Y__K", "2")])).1 =
        .ok (.text "2") ∧
      ((getValue "x.k" .null).run (withFile shared [("Y__K", "2"), ("X__K", "1")])).1 =
        .ok (.text "1") ∧
      ((getValue "x.x.x" .null).run
        ((putItem "x.x.x" (.text "b")).run (withFile circular [])).2).1 = .ok .null := by
  have first : Cut.dotted "x.k" = ["x", "k"] := by decide
  have second : Cut.dotted "y.k" = ["y", "k"] := by decide
  have isFirst : variableKeys "X__K" = some ["x", "k"] := by decide
  have isSecond : variableKeys "Y__K" = some ["y", "k"] := by decide
  refine ⟨?_, rfl, rfl, ?_, rfl, rfl, rfl⟩
  · rw [first, second]
    exact ⟨by decide, by decide⟩
  · intro p q named named'
    cases isFirst.symm.trans named
    cases isSecond.symm.trans named'
    exact ⟨by decide, by decide⟩

end Settings

end ElementSearch
