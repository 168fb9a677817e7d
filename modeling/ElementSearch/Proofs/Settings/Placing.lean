import ElementSearch.Proofs.Settings.Tree
import ElementSearch.Proofs.Value.Keyed
import ElementSearch.Settings

/-! Putting settings under lists of keys.
A value that is put somewhere is found there, and what is found elsewhere stays, also where a
dictionary had to be made on the way.  Two values at places of which neither leads to the other may
be put in either order: the trees that result have the same settings, and only the order in which
their keys stand tells them apart. -/

namespace ElementSearch.Settings

open Value Dict

variable {entries others : Entries} {v w : Value} {p q : List String}

/-- Neither place is on the way to the other. -/
def Apart (p q : List String) : Prop := ¬p <+: q ∧ ¬q <+: p

theorem apart_cons_iff {key key' : String} {p q : List String} :
    Apart (key :: p) (key' :: q) ↔ (key = key' → Apart p q) := by
  simp only [Apart, List.cons_prefix_cons]
  constructor
  · rintro ⟨front, back⟩ rfl
    exact ⟨fun pre => front ⟨rfl, pre⟩, fun pre => back ⟨rfl, pre⟩⟩
  · intro apart
    exact ⟨fun ⟨same, pre⟩ => (apart same).1 pre, fun ⟨same, pre⟩ => (apart same.symm).2 pre⟩

theorem Apart.symm (apart : Apart p q) : Apart q p := ⟨apart.2, apart.1⟩

section Found

theorem branch_insert_self (entries : Entries) (key : String) (inner : Entries) :
    branch (entries.insert (.text key) (.dict inner)) key = inner := by
  rw [branch, get?_insert_text, if_pos rfl]

theorem branch_insert_other {key key' : String} (other : key ≠ key') (entries : Entries)
    (v : Value) : branch (entries.insert (.text key) v) key' = branch entries key' := by
  rw [branch, get?_insert_text, if_neg other]
  rfl

theorem place_cons (entries : Entries) (v : Value) (key key' : String) (rest : List String) :
    place entries v (key :: key' :: rest) =
      entries.insert (.text key) (.dict (place (branch entries key) v (key' :: rest))) := rfl

end Found

/-- Entries of a tree that stand in another order, at any depth. -/
inductive Reordered : Entries → Entries → Prop
  | refl (entries : Entries) : Reordered entries entries
  | swap (a b : Value × Value) (rest : Entries) : Reordered (a :: b :: rest) (b :: a :: rest)
  | keep {rest rest' : Entries} (entry : Value × Value) (behind : Reordered rest rest') :
      Reordered (entry :: rest) (entry :: rest')
  | inside {inner inner' : Entries} (key : Value) (rest : Entries)
      (below : Reordered inner inner') :
      Reordered ((key, .dict inner) :: rest) ((key, .dict inner') :: rest)
  | trans {first second third : Entries} (one : Reordered first second)
      (two : Reordered second third) : Reordered first third

section Order

theorem insert_comm {key key' : String} (other : key ≠ key') (entries : Entries) (v w : Value) :
    Reordered (Dict.insert (entries.insert (.text key) v) (.text key') w)
      (Dict.insert (entries.insert (.text key') w) (.text key) v) := by
  induction entries with
  | nil =>
    have swapped := Reordered.swap (.text key, v) (.text key', w) []
    simpa [Dict.insert, other, other.symm] using swapped
  | cons entry rest ih =>
    obtain ⟨own, x⟩ := entry
    by_cases known : own.same (.text key) = true
    · obtain rfl := eq_text_of_same_right known
      simpa [Dict.insert, other] using .refl _
    by_cases known' : own.same (.text key') = true
    · obtain rfl := eq_text_of_same_right known'
      simpa [Dict.insert, other.symm] using .refl _
    · simpa [Dict.insert, known, known'] using ih.keep (own, x)

theorem insert_inside {inner inner' : Entries} (below : Reordered inner inner')
    (entries : Entries) (key : Value) :
    Reordered (entries.insert key (.dict inner)) (entries.insert key (.dict inner')) := by
  induction entries with
  | nil => exact .inside key [] below
  | cons entry rest ih =>
    obtain ⟨own, x⟩ := entry
    unfold Dict.insert
    split
    · exact .inside own rest below
    · exact ih.keep (own, x)

theorem place_comm (apart : Apart p q) (entries : Entries) (v w : Value) :
    Reordered (place (place entries v p) w q) (place (place entries w q) v p) := by
  induction p generalizing entries q with
  | nil => exact absurd List.nil_prefix apart.1
  | cons key keys ih =>
    cases q with
    | nil => exact absurd List.nil_prefix apart.2
    | cons other rest =>
      by_cases same : key = other
      · subst same
        have further := apart_cons_iff.mp apart rfl
        cases keys with
        | nil => exact absurd List.nil_prefix further.1
        | cons key' keys =>
          cases rest with
          | nil => exact absurd List.nil_prefix further.2
          | cons other' rest =>
            simp only [place_cons, branch_insert_self, insert_insert]
            exact insert_inside (ih further (branch entries key)) entries _
      · cases keys <;> cases rest <;>
          simp only [place, branch_insert_other same, branch_insert_other (Ne.symm same)] <;>
          exact insert_comm same entries _ _

theorem not_both_named {a b : Value × Value} {rest : Entries} {key : String}
    (tree : isTreeEntries (a :: b :: rest) = true) (first : a.1.same (.text key) = true) :
    b.1.same (.text key) = false := by
  obtain ⟨_, apart, _⟩ := tree_cons_iff.mp tree
  rw [eq_text_of_same_right first] at apart
  have different := apart b List.mem_cons_self
  rwa [same_comm _ rfl] at different

theorem mem_insert {key x : Value} {entry : Value × Value}
    (mem : entry ∈ entries.insert key x) : entry.1 = key ∨ ∃ old ∈ entries, old.1 = entry.1 := by
  induction entries with
  | nil =>
    obtain rfl := List.mem_singleton.mp mem
    exact .inl rfl
  | cons first rest ih =>
    obtain ⟨own, v⟩ := first
    unfold Dict.insert at mem
    split at mem
    · rcases List.mem_cons.mp mem with rfl | later
      · exact .inr ⟨(own, v), List.mem_cons_self, rfl⟩
      · exact .inr ⟨entry, List.mem_cons_of_mem _ later, rfl⟩
    · rcases List.mem_cons.mp mem with rfl | later
      · exact .inr ⟨(own, v), List.mem_cons_self, rfl⟩
      · rcases ih later with new | ⟨old, there, same⟩
        · exact .inl new
        · exact .inr ⟨old, List.mem_cons_of_mem _ there, same⟩

theorem tree_insert {key x : Value} (hashable : key.isHashable = true) (inner : x.isTree = true)
    (tree : isTreeEntries entries = true) : isTreeEntries (entries.insert key x) = true := by
  induction entries with
  | nil => exact tree_cons_iff.mpr ⟨hashable, by simp, inner, rfl⟩
  | cons first rest ih =>
    obtain ⟨own, v⟩ := first
    obtain ⟨hashed, apart, below, others⟩ := tree_cons_iff.mp tree
    unfold Dict.insert
    split
    · exact tree_cons_iff.mpr ⟨hashed, apart, inner, others⟩
    · rename_i unlike
      refine tree_cons_iff.mpr ⟨hashed, fun entry mem => ?_, below, ih others⟩
      rcases mem_insert mem with new | ⟨old, there, same⟩
      · rw [new]
        simpa using unlike
      · rw [← same]
        exact apart old there

theorem tree_branch (tree : isTreeEntries entries = true) (key : String) :
    isTreeEntries (branch entries key) = true := by
  unfold branch
  split
  · exact isTree_of_get? tree ‹_›
  · rfl

theorem tree_place (inner : v.isTree = true) (tree : isTreeEntries entries = true) :
    isTreeEntries (place entries v p) = true := by
  induction p generalizing entries with
  | nil => exact tree
  | cons key keys ih =>
    cases keys with
    | nil => exact tree_insert rfl inner tree
    | cons key' keys => exact tree_insert rfl (ih (tree_branch tree key)) tree

theorem Reordered.mem_key {entry : Value × Value} (same : Reordered entries others)
    (mem : entry ∈ others) : ∃ old ∈ entries, old.1 = entry.1 := by
  induction same generalizing entry with
  | refl => exact ⟨entry, mem, rfl⟩
  | swap a b rest =>
    refine ⟨entry, ?_, rfl⟩
    simpa [or_left_comm] using mem
  | keep first _ ih =>
    rcases List.mem_cons.mp mem with rfl | later
    · exact ⟨_, List.mem_cons_self, rfl⟩
    · obtain ⟨old, there, same⟩ := ih later
      exact ⟨old, List.mem_cons_of_mem _ there, same⟩
  | inside key rest _ _ =>
    rcases List.mem_cons.mp mem with rfl | later
    · exact ⟨_, List.mem_cons_self, rfl⟩
    · exact ⟨entry, List.mem_cons_of_mem _ later, rfl⟩
  | trans _ _ ih ih' =>
    obtain ⟨middle, there, same⟩ := ih' mem
    obtain ⟨old, there, same'⟩ := ih there
    exact ⟨old, there, same'.trans same⟩

theorem Reordered.tree (same : Reordered entries others) (tree : isTreeEntries entries = true) :
    isTreeEntries others = true := by
  induction same with
  | refl => exact tree
  | swap a b rest =>
    obtain ⟨hashA, apartA, innerA, behind⟩ := tree_cons_iff.mp tree
    obtain ⟨hashB, apartB, innerB, rest⟩ := tree_cons_iff.mp behind
    obtain ⟨different, apartA⟩ := List.forall_mem_cons.mp apartA
    refine tree_cons_iff.mpr ⟨hashB, List.forall_mem_cons.mpr ⟨?_, apartB⟩, innerB,
      tree_cons_iff.mpr ⟨hashA, apartA, innerA, rest⟩⟩
    rwa [← same_comm _ hashA]
  | keep entry behind ih =>
    obtain ⟨hashable, apart, inner, rest⟩ := tree_cons_iff.mp tree
    refine tree_cons_iff.mpr ⟨hashable, fun entry mem => ?_, inner, ih rest⟩
    obtain ⟨old, there, same⟩ := behind.mem_key mem
    rw [← same]
    exact apart old there
  | inside key rest _ ih =>
    obtain ⟨hashable, apart, inner, behind⟩ := tree_cons_iff.mp tree
    exact tree_cons_iff.mpr ⟨hashable, apart, ih inner, behind⟩
  | trans _ _ ih ih' => exact ih' (ih tree)

theorem Reordered.insert (same : Reordered entries others) (tree : isTreeEntries entries = true)
    (key : String) (v : Value) :
    Reordered (entries.insert (.text key) v) (others.insert (.text key) v) := by
  induction same with
  | refl => exact .refl _
  | swap a b rest =>
    by_cases first : a.1.same (.text key) = true
    · have second := not_both_named tree first
      simpa [Dict.insert, first, second] using .swap _ _ rest
    · by_cases second : b.1.same (.text key) = true
      · simpa [Dict.insert, first, second] using .swap _ _ rest
      · simpa [Dict.insert, first, second] using .swap _ _ _
  | keep entry behind ih =>
    obtain ⟨_, _, _, rest⟩ := tree_cons_iff.mp tree
    by_cases known : entry.1.same (.text key) = true
    · simpa [Dict.insert, known] using behind.keep _
    · simpa [Dict.insert, known] using (ih rest).keep entry
  | inside own rest below _ =>
    by_cases known : own.same (.text key) = true
    · simpa [Dict.insert, known] using .refl _
    · simpa [Dict.insert, known] using .inside own _ below
  | trans one _ ih ih' => exact (ih tree).trans (ih' (one.tree tree))

theorem Reordered.branch (same : Reordered entries others) (tree : isTreeEntries entries = true)
    (key : String) : Reordered (branch entries key) (branch others key) := by
  induction same with
  | refl => exact .refl _
  | swap a b rest =>
    have equal : get? (a :: b :: rest) (.text key) = get? (b :: a :: rest) (.text key) := by
      obtain ⟨keyA, x⟩ := a
      obtain ⟨keyB, y⟩ := b
      rw [get?_cons, get?_cons, get?_cons, get?_cons]
      by_cases first : keyA.same (.text key) = true
      · rw [not_both_named tree first]
        rfl
      · rw [if_neg first, if_neg first]
    rw [Settings.branch, Settings.branch, equal]
    exact .refl _
  | keep entry _ ih =>
    obtain ⟨own, x⟩ := entry
    obtain ⟨_, _, _, rest⟩ := tree_cons_iff.mp tree
    by_cases known : own.same (.text key) = true
    · simpa [Settings.branch, get?_cons, known] using .refl _
    · simpa [Settings.branch, get?_cons, known] using ih rest
  | inside own rest below _ =>
    by_cases known : own.same (.text key) = true
    · simpa [Settings.branch, get?_cons, known] using below
    · simpa [Settings.branch, get?_cons, known] using .refl _
  | trans one _ ih ih' => exact (ih tree).trans (ih' (one.tree tree))

theorem Reordered.place (same : Reordered entries others) (tree : isTreeEntries entries = true)
    (v : Value) (p : List String) : Reordered (place entries v p) (place others v p) := by
  induction p generalizing entries others with
  | nil => exact same
  | cons key keys ih =>
    cases keys with
    | nil => exact same.insert tree key v
    | cons key' keys =>
      have inner := ih (same.branch tree key) (tree_branch tree key)
      exact (same.insert tree key _).trans (insert_inside inner others _)

end Order

section Bindings

/-- The variables name places apart, as far as they name settings. -/
def Independent (a b : String × String) : Prop :=
  ∀ p q, variableKeys a.1 = some p → variableKeys b.1 = some q → Apart p q

variable {a b : String × String} {bindings bindings' : List (String × String)}

theorem Independent.symm (independent : Independent a b) : Independent b a :=
  fun q p named named' => (independent p q named' named).symm

def placeBinding (entries : Entries) (a : String × String) : Entries :=
  match variableKeys a.1 with
  | some keys => place entries (.text a.2) keys
  | none => entries

def placeBindings (entries : Entries) (bindings : List (String × String)) : Entries :=
  bindings.foldl placeBinding entries

theorem placeBinding_of_named {keys : List String} (named : variableKeys a.1 = some keys)
    (entries : Entries) : placeBinding entries a = place entries (.text a.2) keys := by
  rw [placeBinding, named]

theorem placeBinding_of_foreign (foreign : variableKeys a.1 = none) (entries : Entries) :
    placeBinding entries a = entries := by
  rw [placeBinding, foreign]

theorem placeBinding_comm (independent : Independent a b) (entries : Entries) :
    Reordered (placeBinding (placeBinding entries a) b)
      (placeBinding (placeBinding entries b) a) := by
  cases first : variableKeys a.1 with
  | none =>
    simp only [placeBinding_of_foreign first]
    exact .refl _
  | some p =>
    cases second : variableKeys b.1 with
    | none =>
      simp only [placeBinding_of_foreign second]
      exact .refl _
    | some q =>
      simp only [placeBinding_of_named first, placeBinding_of_named second]
      exact place_comm (independent p q first second) entries _ _

theorem tree_placeBinding (tree : isTreeEntries entries = true) (a : String × String) :
    isTreeEntries (placeBinding entries a) = true := by
  unfold placeBinding
  split
  · exact tree_place rfl tree
  · exact tree

theorem Reordered.placeBinding (same : Reordered entries others)
    (tree : isTreeEntries entries = true) (a : String × String) :
    Reordered (placeBinding entries a) (placeBinding others a) := by
  unfold Settings.placeBinding
  split
  · exact same.place tree _ _
  · exact same

theorem Reordered.placeBindings (same : Reordered entries others)
    (tree : isTreeEntries entries = true) (bindings : List (String × String)) :
    Reordered (placeBindings entries bindings) (placeBindings others bindings) := by
  induction bindings generalizing entries others with
  | nil => exact same
  | cons a rest ih => exact ih (same.placeBinding tree a) (tree_placeBinding tree a)

theorem placeBindings_perm (order : bindings.Perm bindings')
    (independent : bindings.Pairwise Independent) (tree : isTreeEntries entries = true) :
    Reordered (placeBindings entries bindings) (placeBindings entries bindings') := by
  -- The induction is on the permutation; only its exchanges of neighbours need the places apart.
  induction order generalizing entries with
  | nil => exact .refl _
  | cons a _ ih => exact ih (List.pairwise_cons.mp independent).2 (tree_placeBinding tree a)
  | swap a b rest =>
    have apart := (List.pairwise_cons.mp independent).1 a List.mem_cons_self
    have twice := tree_placeBinding (tree_placeBinding tree b) a
    exact (placeBinding_comm apart entries).placeBindings twice rest
  | trans one _ ih ih' =>
    have further := (one.pairwise_iff Independent.symm).mp independent
    exact (ih independent tree).trans (ih' further tree)

end Bindings

end ElementSearch.Settings
