import ElementSearch.Proofs.Settings.Unfold

/-! Merging trees of settings.
An overlay wins wherever it says something: a value of its own replaces what was there, and a
dictionary of its own is merged with the one that was there.  What is found under a list of keys of
the merged tree therefore depends on what the two trees have under that list, and on whether the
overlay has a value on the way to it. -/

namespace ElementSearch.Settings

open Value Dict

def under : Value → List Value → Option Value
  | v, [] => some v
  | .dict entries, key :: rest => (Dict.get? entries key).bind fun inner => under inner rest
  | _, _ :: _ => none

@[simp] theorem under_nil (v : Value) : under v [] = some v := by
  cases v <;> rfl

theorem under_cons (entries : Entries) (key : Value) (rest : List Value) :
    under (.dict entries) (key :: rest) =
      (entries.get? key).bind fun inner => under inner rest := rfl

theorem under_of_plain {v : Value} (plain : v.isDict = false) (key : Value) (rest : List Value) :
    under v (key :: rest) = none := by
  cases v with
  | dict _ => cases plain
  | _ => rfl

/-- What a value comes to over the one below it. -/
def laid (below : Option Value) (v : Value) : Value :=
  match below, v with
  | some (.dict inner), .dict overlay => .dict (merge inner overlay)
  | _, v => v

theorem laid_of_plain {v : Value} (plain : v.isDict = false) (below : Option Value) :
    laid below v = v := by
  cases v with
  | dict _ => cases plain
  | _ => cases below with
    | none => rfl
    | some x => cases x <;> rfl

theorem merge_cons (base : Entries) (key v : Value) (rest : List (Value × Value)) :
    merge base ((key, v) :: rest) = merge (base.insert key (laid (base.get? key) v)) rest := by
  cases v with
  | dict overlay =>
    rw [merge]
    cases base.get? key with
    | none => rfl
    | some x => cases x <;> rfl
  | _ =>
    rw [merge, laid_of_plain rfl]
    rintro _ ⟨⟩

theorem get?_merge {overlay : Entries} (tree : isTreeEntries overlay = true) (base : Entries)
    (q : Value) : (merge base overlay).get? q =
      match overlay.get? q with
      | none => base.get? q
      | some v => some (laid (base.get? q) v) := by
  induction overlay generalizing base with
  | nil => rw [merge_nil]; rfl
  | cons entry rest ih =>
    obtain ⟨key, v⟩ := entry
    obtain ⟨hashable, apart, _, treeRest⟩ := tree_cons_iff.mp tree
    rw [merge_cons, ih treeRest, get?_insert hashable, get?_cons]
    by_cases alike : key.same q = true
    · rw [get?_of_apart hashable apart alike, if_pos alike, if_pos alike,
        get?_congr hashable alike]
    · rw [if_neg alike, if_neg alike]

/-- A value that is no dictionary stands on the way. -/
def Blocked (v : Value) (path : List Value) : Prop :=
  ∃ front back x, path = front ++ back ∧ back ≠ [] ∧ under v front = some x ∧ x.isDict = false

theorem blocked_of_plain {v : Value} (plain : v.isDict = false) (key : Value)
    (rest : List Value) : Blocked v (key :: rest) :=
  ⟨[], key :: rest, v, rfl, List.cons_ne_nil key rest, under_nil v, plain⟩

theorem blocked_cons_iff (entries : Entries) (key : Value) (rest : List Value) :
    Blocked (.dict entries) (key :: rest) ↔ ∃ v, entries.get? key = some v ∧ Blocked v rest := by
  constructor
  · rintro ⟨front, back, x, split, some, found, plain⟩
    cases front with
    | nil =>
      rw [under_nil, Option.some.injEq] at found
      subst found
      cases plain
    | cons first front =>
      obtain ⟨rfl, rfl⟩ := List.cons.inj split
      obtain ⟨v, here, further⟩ := Option.bind_eq_some_iff.mp found
      exact ⟨v, here, front, back, x, rfl, some, further, plain⟩
  · rintro ⟨v, here, front, back, x, rfl, some, further, plain⟩
    exact ⟨key :: front, back, x, rfl, some, Option.bind_eq_some_iff.mpr ⟨v, here, further⟩, plain⟩

/-- What a value laid over another says under a list of keys: what it said, over what was there;
where it said nothing, what was there shows through, unless a value stands on the way. -/
structure Covers (v : Value) (below : Option Value) (path : List Value) : Prop where
  said : ∀ w, under v path = some w →
    under (laid below v) path = some (laid (below.bind fun x => under x path) w)
  blocked : under v path = none → Blocked v path → under (laid below v) path = none
  through : under v path = none → ¬Blocked v path →
    under (laid below v) path = below.bind fun x => under x path

theorem covers_nil (v : Value) (below : Option Value) : Covers v below [] where
  said w said := by
    rw [under_nil, Option.some.injEq] at said
    subst said
    cases below <;> simp
  blocked silent := by simp at silent
  through silent := by simp at silent

theorem covers_of_plain {v : Value} (plain : v.isDict = false) (below : Option Value)
    (key : Value) (rest : List Value) : Covers v below (key :: rest) where
  said w said := by simp [under_of_plain plain] at said
  blocked silent _ := by rwa [laid_of_plain plain]
  through _ open_ := absurd (blocked_of_plain plain key rest) open_

theorem covers_of_alone {v : Value} {below : Option Value} {path : List Value}
    (alone : laid below v = v) (nothing : (below.bind fun x => under x path) = none) :
    Covers v below path where
  said w said := by rw [alone, nothing, said]; rfl
  blocked silent _ := by rwa [alone]
  through silent _ := by rw [alone, nothing, silent]

theorem covers_of_laid {v : Value} (tree : v.isTree = true) (below : Option Value)
    (path : List Value) : Covers v below path := by
  induction path generalizing v below with
  | nil => exact covers_nil v below
  | cons key rest ih =>
    by_cases plain : v.isDict = false
    · exact covers_of_plain plain below key rest
    obtain ⟨overlay, rfl⟩ := exists_of_isDict (by simpa using plain)
    cases below with
    | none => exact covers_of_alone rfl rfl
    | some x =>
      by_cases flat : x.isDict = false
      · refine covers_of_alone ?_ (under_of_plain flat key rest)
        cases x with
        | dict _ => cases flat
        | _ => rfl
      obtain ⟨base, rfl⟩ := exists_of_isDict (by simpa using flat)
      -- both are dictionaries: what lies under the first key is laid over what was there
      have merged : laid (some (.dict base)) (.dict overlay) = .dict (merge base overlay) := rfl
      cases here : Dict.get? overlay key with
      | none =>
        constructor <;> simp [merged, under_cons, get?_merge tree, here, blocked_cons_iff]
      | some v =>
        obtain ⟨said, blocked, through⟩ := ih (isTree_of_get? tree here) (Dict.get? base key)
        constructor <;>
          simpa [merged, under_cons, get?_merge tree, here, blocked_cons_iff] using ‹_›

theorem merge_of_absorbed {base overlay : Entries}
    (absorbed : ∀ entry ∈ overlay, ∃ x, base.get? entry.1 = some x ∧ laid (some x) entry.2 = x) :
    merge base overlay = base := by
  induction overlay with
  | nil => exact merge_nil base
  | cons entry rest ih =>
    obtain ⟨key, v⟩ := entry
    obtain ⟨⟨x, found, same⟩, others⟩ := List.forall_mem_cons.mp absorbed
    rw [merge_cons, found, same, insert_of_get? found]
    exact ih others

theorem laid_laid_of_plain {v : Value} (plain : v.isDict = false) (below : Option Value) :
    laid (some (laid below v)) v = laid below v := by
  rw [laid_of_plain plain, laid_of_plain plain]

mutual

theorem laid_laid : (v : Value) → v.isTree = true → v.knowsKeys = true →
    ∀ below, laid (some (laid below v)) v = laid below v
  | .dict overlay, tree, known, below => by
    have values := laid_laid_entries overlay tree known
    have itself : merge overlay overlay = overlay := by
      refine merge_of_absorbed fun entry mem => ?_
      exact ⟨entry.2, get?_of_mem tree known mem, values entry mem none⟩
    cases below with
    | none => exact congrArg Value.dict itself
    | some x =>
      cases x with
      | dict base =>
        refine congrArg Value.dict (merge_of_absorbed fun entry mem => ?_)
        refine ⟨laid (Dict.get? base entry.1) entry.2, ?_, values entry mem _⟩
        rw [get?_merge tree, get?_of_mem tree known mem]
      | _ => exact congrArg Value.dict itself
  | .null, _, _, below | .bool _, _, _, below | .int _, _, _, below | .float _, _, _, below
  | .text _, _, _, below | .list _, _, _, below | .tuple _, _, _, below
  | .locator _, _, _, below => laid_laid_of_plain rfl below

theorem laid_laid_entries : (entries : Entries) → isTreeEntries entries = true →
    knowsKeysEntries entries = true →
    ∀ entry ∈ entries, ∀ below, laid (some (laid below entry.2)) entry.2 = laid below entry.2
  | [], _, _, _, mem, _ => nomatch mem
  | (key, v) :: rest, tree, known, entry, mem, below => by
    obtain ⟨_, _, treeFirst, treeRest⟩ := tree_cons_iff.mp tree
    obtain ⟨_, knownFirst, knownRest⟩ := knows_cons_iff.mp known
    rcases List.mem_cons.mp mem with same | later
    · cases same
      exact laid_laid v treeFirst knownFirst below
    · exact laid_laid_entries rest treeRest knownRest entry later below

end

theorem laid_dict (below : Option Value) (inner : Entries) :
    (∀ base, below = some (.dict base) → laid below (.dict inner) = .dict (merge base inner)) ∧
      ((∀ base, below ≠ some (.dict base)) → laid below (.dict inner) = .dict inner) := by
  constructor
  · rintro base rfl
    rfl
  · intro other
    cases below with
    | none => rfl
    | some x =>
      cases x with
      | dict base => exact absurd rfl (other base)
      | _ => rfl

section Heap

variable {alone : Prop} {h : Heap} {lower upper : Cell} {base overlay : Entries}
  {S T : Finset Nat}

/-- Two dictionaries become one that looks like the merged tree; those that were there stay as they
are. -/
def MergesTrees (alone : Prop) (inner : Heap → Nat → Nat → Outcome (Nat × Heap)) (depth : Nat) :
    Prop :=
  ∀ {h : Heap} {below above : Nat} {base overlay : Entries} {S T : Finset Nat},
    Unfolds alone h (.dict below) (.dict base) S →
    Unfolds alone h (.dict above) (.dict overlay) T → (alone → Disjoint S T) →
    (∀ p ∈ S ∪ T, p < h.length) → T.card ≤ depth →
    ∃ place h', inner h below above = .ok (place, h') ∧ h <+: h' ∧
      Unfolds alone h' (.dict place) (.dict (merge base overlay)) (S ∪ T ∪ since h.length h')

theorem mergeEntries_cons_dict {inner : Heap → Nat → Nat → Outcome (Nat × Heap)} {key : Value}
    {below above place : Nat} {h' : Heap}
    (found : Dict.get? lower key = some (.dict below))
    (merged : inner h below above = .ok (place, h')) (rest : Cell) :
    Heap.mergeEntries inner h lower ((key, .dict above) :: rest) =
      Heap.mergeEntries inner h' (Dict.insert lower key (.dict place)) rest := by
  simp only [Heap.mergeEntries, found, merged]
  rfl

theorem mergeEntries_cons_other {inner : Heap → Nat → Nat → Outcome (Nat × Heap)} {key : Value}
    {x : Item} (other : ∀ below above, Dict.get? lower key = some (.dict below) → x ≠ .dict above)
    (rest : Cell) : Heap.mergeEntries inner h lower ((key, x) :: rest) =
      Heap.mergeEntries inner h (Dict.insert lower key x) rest := by
  rw [Heap.mergeEntries]
  exact other

theorem mergeEntries_cons {inner : Heap → Nat → Nat → Outcome (Nat × Heap)} {depth : Nat}
    (merges : MergesTrees alone inner depth) {key v : Value} {x : Item} {W : Finset Nat}
    (found : Option.Rel (fun y w => ∃ K ⊆ S, Unfolds alone h y w K ∧ (alone → Disjoint K W))
      (Dict.get? lower key) (Dict.get? base key)) (beside : W ⊆ S)
    (unfolds : Unfolds alone h x v T) (apart : alone → Disjoint S T)
    (older : ∀ p ∈ S ∪ T, p < h.length) (room : T.card ≤ depth) :
    ∃ y h' R, (∀ rest, Heap.mergeEntries inner h lower ((key, x) :: rest) =
        Heap.mergeEntries inner h' (Dict.insert lower key y) rest) ∧ h <+: h' ∧
      Unfolds alone h' y (laid (Dict.get? base key) v) R ∧ R ⊆ S ∪ T ∪ since h.length h' ∧
      (alone → Disjoint R W) := by
  have alike : alone → Disjoint T W := fun given => ((apart given).mono_left beside).symm
  -- without two dictionaries the entry of the overlay is taken as it is
  have taken (other : ∀ below above, Dict.get? lower key = some (.dict below) → x ≠ .dict above)
      (same : laid (Dict.get? base key) v = v) :
      ∃ y h' R, (∀ rest, Heap.mergeEntries inner h lower ((key, x) :: rest) =
          Heap.mergeEntries inner h' (Dict.insert lower key y) rest) ∧ h <+: h' ∧
        Unfolds alone h' y (laid (Dict.get? base key) v) R ∧ R ⊆ S ∪ T ∪ since h.length h' ∧
        (alone → Disjoint R W) :=
    ⟨x, h, T, mergeEntries_cons_other other, List.prefix_refl h, by rwa [same],
      Finset.subset_union_right.trans Finset.subset_union_left, alike⟩
  cases unfolds with
  | single _ plain => exact taken nofun (laid_of_plain (Value.isDict_of_isSingle plain) _)
  | list _ | tuple _ => exact taken nofun (laid_of_plain rfl _)
  | @dict above _ overlay _ here mem each =>
    generalize theValue : Dict.get? base key = w at found taken ⊢
    generalize theItem : Dict.get? lower key = y at found taken ⊢
    cases found with
    | none => exact taken nofun rfl
    | @some y w found =>
      obtain ⟨K, least, unfolds, disjoint⟩ := found
      cases unfolds with
      | single _ plain =>
        refine taken nofun ?_
        cases w with
        | dict _ => cases plain
        | _ => rfl
      | list _ | tuple _ => exact taken nofun rfl
      | @dict below _ base' _ here' mem' each' =>
        obtain ⟨place, h', merged, longer, looks⟩ := merges (.dict here' mem' each')
          (.dict here mem each) (fun given => (apart given).mono_left least)
          (fun p mem => older p (Finset.union_subset_union_left least mem)) room
        refine ⟨.dict place, h', _, mergeEntries_cons_dict theItem merged, longer, looks, ?_, ?_⟩
        · exact Finset.union_subset_union_left (Finset.union_subset_union_left least)
        · exact fun given => Finset.disjoint_union_left.mpr ⟨Finset.disjoint_union_left.mpr
            ⟨disjoint given, alike given⟩,
            since_disjoint (fun p mem => older p (Finset.mem_union_left _ (beside mem))) le_rfl _⟩

theorem mergeEntries_unfolds {inner : Heap → Nat → Nat → Outcome (Nat × Heap)} {depth : Nat}
    (merges : MergesTrees alone inner depth) (ofBase : UnfoldsEntries alone h lower base S)
    (ofOverlay : UnfoldsEntries alone h upper overlay T) (apart : alone → Disjoint S T)
    (older : ∀ p ∈ S ∪ T, p < h.length) (room : T.card ≤ depth) :
    ∃ cell h', Heap.mergeEntries inner h lower upper = .ok (cell, h') ∧ h <+: h' ∧
      UnfoldsEntries alone h' cell (merge base overlay) (S ∪ T ∪ since h.length h') := by
  induction upper generalizing h lower base overlay S T with
  | nil =>
    cases ofOverlay
    refine ⟨lower, h, rfl, List.prefix_refl h, ?_⟩
    rw [merge_nil]
    exact ofBase.mono (Finset.subset_union_left.trans Finset.subset_union_left)
  | cons entry rest ih =>
    cases ofOverlay with
    | @cons key x v _ others R _ U first each disjoint left right =>
      obtain ⟨W, least, beside, found⟩ := ofBase.split key
      obtain ⟨y, h₁, R₁, step, longer, looks, among, apart₁⟩ := mergeEntries_cons merges found least
        first (fun given => (apart given).mono_right left)
        (fun p mem => older p (Finset.union_subset_union_right left mem))
        ((Finset.card_le_card left).trans room)
      have within : R₁ ∪ W ⊆ S ∪ R ∪ since h.length h₁ := Finset.union_subset among
        (least.trans (Finset.subset_union_left.trans Finset.subset_union_left))
      have olderU (p : Nat) (mem : p ∈ U) : p < h.length :=
        older p (Finset.mem_union_right S (right mem))
      have apartU : alone → Disjoint (R₁ ∪ W) U := fun given => by
        refine Disjoint.mono_left within ?_
        exact Finset.disjoint_union_left.mpr ⟨Finset.disjoint_union_left.mpr
          ⟨(apart given).mono_right right, disjoint given⟩, since_disjoint olderU le_rfl _⟩
      have older₁ : ∀ p ∈ R₁ ∪ W ∪ U, p < h₁.length := fun p mem =>
        lt_of_mem_since older longer h.length p (by grind)
      obtain ⟨cell, h', ended, longest, looks'⟩ := ih
        (beside (untouched_of_longer longer W) looks apart₁)
        (each.frame (untouched_of_longer longer U)) apartU older₁
        ((Finset.card_le_card right).trans room)
      rw [merge_cons]
      refine ⟨cell, h', (step rest).trans ended, longer.trans longest, looks'.mono ?_⟩
      have one := since_mono le_rfl longest (n := h.length)
      have two := since_mono longer.length_le (List.prefix_refl h')
      grind

theorem mergesTrees_mergeAt (alone : Prop) (depth : Nat) :
    MergesTrees alone (Heap.mergeAt depth) depth := by
  induction depth with
  | zero =>
    intro h below above base overlay S T _ ofOverlay _ _ room
    cases ofOverlay with
    | dict _ mem _ => exact absurd (Finset.card_pos.mpr ⟨_, mem⟩) (Nat.not_lt.mpr room)
  | succ depth ih =>
    intro h below above base overlay S T ofBase ofOverlay apart older room
    cases ofBase with
    | dict here mem each =>
      cases ofOverlay with
      | dict there mem' each' =>
        have less := Finset.card_erase_lt_of_mem mem'
        have among := Finset.union_subset_union (S.erase_subset below) (T.erase_subset above)
        obtain ⟨cell, h₁, ended, longer, looks⟩ := mergeEntries_unfolds ih each each'
          (fun given => (apart given).mono (S.erase_subset _) (T.erase_subset _))
          (fun p mem => older p (among mem)) (by omega)
        have made := (looks.mono (Finset.union_subset_union_left among)).dict
          (lt_of_mem_since older longer h.length)
        rw [← Finset.union_insert, since_append longer.length_le] at made
        refine ⟨h₁.length, h₁ ++ [cell], ?_, longer.trans (List.prefix_append ..), made⟩
        rw [Heap.mergeAt, Heap.cell_of_getElem? here, Heap.cell_of_getElem? there, ended]
        rfl

theorem merge_unfolds (ofBase : UnfoldsEntries alone h lower base S)
    (ofOverlay : UnfoldsEntries alone h upper overlay T) (apart : alone → Disjoint S T)
    (older : ∀ p ∈ S ∪ T, p < h.length) :
    ∃ cell h', h.merge lower upper = .ok (cell, h') ∧ h <+: h' ∧
      UnfoldsEntries alone h' cell (merge base overlay) (S ∪ T ∪ since h.length h') := by
  -- The limit on how deep dictionaries are merged is met by circles only.
  refine mergeEntries_unfolds (mergesTrees_mergeAt alone _) ofBase ofOverlay apart older ?_
  have most : T ⊆ .range h.length := fun p mem =>
    Finset.mem_range.mpr (older p (Finset.mem_union_right S mem))
  have few := Finset.card_le_card most
  rw [Finset.card_range] at few
  exact few.trans (Nat.le_mul_self _)

end Heap

/-- Dictionaries that look like two trees are merged into one that looks like the merged tree, and
are not changed themselves.  What the merged tree has under a list of keys is the value of the
overlay, or its dictionary merged with the one below, or what is below if the overlay has nothing
there nor a value on the way.  So an overlay over itself, or laid a second time, changes nothing. -/
theorem found_in_merged (base overlay : Entries) (tree : isTreeEntries overlay = true)
    (path : List Value) :
    let merged := Value.dict (merge base overlay)
    (∀ (h : Heap) (lower upper : Cell) (S T : Finset Nat), UnfoldsEntries False h lower base S →
      UnfoldsEntries False h upper overlay T →
        ∃ cell h' U, h.merge lower upper = .ok (cell, h') ∧ h <+: h' ∧
          UnfoldsEntries False h' cell (merge base overlay) U) ∧
      (∀ v, v.isDict = false → under (.dict overlay) path = some v → under merged path = some v) ∧
      (∀ inner, under (.dict overlay) path = some (.dict inner) →
        (∀ below, under (.dict base) path = some (.dict below) →
          under merged path = some (.dict (merge below inner))) ∧
        ((∀ below, under (.dict base) path ≠ some (.dict below)) →
          under merged path = some (.dict inner))) ∧
      (under (.dict overlay) path = none →
        (Blocked (.dict overlay) path → under merged path = none) ∧
        (¬Blocked (.dict overlay) path → under merged path = under (.dict base) path)) ∧
      (knowsKeysEntries overlay = true →
        merge overlay overlay = overlay ∧
          merge (merge base overlay) overlay = merge base overlay) := by
  intro merged
  obtain ⟨said, blocked, through⟩ :=
    covers_of_laid (v := .dict overlay) tree (some (.dict base)) path
  refine ⟨fun h lower upper S T ofBase ofOverlay => ?_, fun v plain found => ?_,
    fun inner found => ?_, fun silent => ?_, fun known => ?_⟩
  · have inside : ∀ p ∈ S ∩ .range h.length ∪ T ∩ .range h.length, p < h.length := fun p mem => by
      rw [← Finset.union_inter_distrib_right] at mem
      exact Finset.mem_range.mp (Finset.mem_inter.mp mem).2
    obtain ⟨cell, h', merged, longer, looks⟩ := merge_unfolds
      (ofBase.transfer (carries_inside h S)) (ofOverlay.transfer (carries_inside h T)) nofun inside
    exact ⟨cell, h', _, merged, longer, looks⟩
  · rw [← laid_of_plain plain]
    exact said v found
  · obtain ⟨onTop, alone⟩ := laid_dict (under (.dict base) path) inner
    have here : under merged path = some (laid (under (.dict base) path) (.dict inner)) :=
      said _ found
    exact ⟨fun below there => by rw [here, onTop below there],
      fun other => by rw [here, alone other]⟩
  · exact ⟨blocked silent, through silent⟩
  · have itself := laid_laid (.dict overlay) tree known none
    have again := laid_laid (.dict overlay) tree known (some (.dict base))
    exact ⟨Value.dict.inj itself, Value.dict.inj again⟩

theorem found_in_merged_levels :
    let base : Entries := [(.text "a", .dict [(.text "b", .int 1), (.text "c", .int 2)]),
      (.text "d", .dict [(.text "e", .int 3)])]
    let overlay : Entries := [(.text "a", .dict [(.text "b", .dict [(.text "x", .null)])]),
      (.text "d", .bool false)]
    let merged := Value.dict (merge base overlay)
    under merged [.text "a", .text "c"] = some (.int 2) ∧
      under merged [.text "a", .text "b"] = some (.dict [(.text "x", .null)]) ∧
      under merged [.text "d", .text "e"] = none ∧ merge overlay overlay = overlay := by
  intro base overlay merged
  have tree : isTreeEntries overlay = true := by decide
  have unblocked : ¬Blocked (.dict overlay) [.text "a", .text "c"] := by
    rw [blocked_cons_iff]
    rintro ⟨_, ⟨⟩, further⟩
    obtain ⟨_, ⟨⟩, _⟩ := (blocked_cons_iff _ _ _).mp further
  have blocked : Blocked (.dict overlay) [.text "d", .text "e"] :=
    ⟨[.text "d"], [.text "e"], .bool false, rfl, List.cons_ne_nil _ _, rfl, rfl⟩
  obtain ⟨_, _, _, through, again⟩ := found_in_merged base overlay tree [.text "a", .text "c"]
  obtain ⟨_, _, dictionary, _⟩ := found_in_merged base overlay tree [.text "a", .text "b"]
  obtain ⟨_, _, _, covered, _⟩ := found_in_merged base overlay tree [.text "d", .text "e"]
  exact ⟨(through rfl).2 unblocked, (dictionary _ rfl).2 (by rintro _ ⟨⟩), (covered rfl).1 blocked,
    (again (by decide)).1⟩

end ElementSearch.Settings
