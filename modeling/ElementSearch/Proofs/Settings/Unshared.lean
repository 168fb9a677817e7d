import ElementSearch.Proofs.Settings.Load
import ElementSearch.Proofs.Settings.Merging
import ElementSearch.Proofs.Settings.Writing

/-! Settings in which no dictionary stands at two places.
The built-in settings are such, merging and variables do not change it, and so are all settings
that are loaded from files in which no dictionary is mentioned twice. -/

namespace ElementSearch.Settings

variable {s s' : Setup} {store more : Store} {sheet : Sheet} {tree : Entries} {v : Value}

/-- The content of a file looks like the value, and no dictionary in it stands at two places. -/
def IsPlain (sheet : Sheet) (v : Value) : Prop := ∃ S, Unfolds True sheet.heap sheet.top v S

theorem IsTree.behind (looks : IsTree store tree) (heap : Heap) :
    IsTree (store.behind heap) tree := by
  obtain ⟨S, unfolds⟩ := looks
  exact ⟨_, unfolds.shift heap⟩

theorem isTree_builtIn : IsTree builtIn defaults := isTree_ofEntries defaults

theorem overlay_unfolds (plain : IsPlain sheet v) (before : Heap) {upper : Cell}
    (read : (before ++ sheet.heap.shift before.length).overlay
      (sheet.top.shift before.length) = .ok upper) :
    ∃ entries S, UnfoldsEntries True (before ++ sheet.heap.shift before.length) upper entries S ∧
      ∀ p ∈ S, before.length ≤ p := by
  obtain ⟨S, unfolds⟩ := plain
  have moved := unfolds.shift before
  have behind : ∀ p ∈ later before.length S, before.length ≤ p := fun p mem => by
    obtain ⟨q, _, rfl⟩ := Finset.mem_map.mp mem
    exact Nat.le_add_right ..
  generalize sheet.top.shift before.length = top at read moved
  cases moved with
  | dict here _ each =>
    rw [Heap.overlay, Heap.cell_of_getElem? here] at read
    cases read
    exact ⟨_, _, each, fun p mem => behind p (Finset.mem_of_mem_erase mem)⟩
  | single _ _ | list _ | tuple _ =>
    rw [Heap.overlay] at read
    · split at read <;> cases read
      exact ⟨[], ∅, .nil ∅, by simp⟩
    · exact nofun

theorem IsTree.merge (looks : IsTree store tree) (plain : IsPlain sheet v)
    (ended : store.merge sheet = .ok more) : ∃ tree', IsTree more tree' := by
  obtain ⟨upper, read, rest⟩ := Outcome.bind_eq_ok ended
  obtain ⟨⟨cell, h⟩, laid, made⟩ := Outcome.bind_eq_ok rest
  cases made
  obtain ⟨entries, T, ofOverlay, behind⟩ := overlay_unfolds plain store.heap read
  obtain ⟨S, unfolds⟩ := looks
  cases unfolds.transfer (carries_inside store.heap S) with
  | dict here mem each =>
    have ofBase := each.frame
      (untouched_of_longer (List.prefix_append _ (sheet.heap.shift store.heap.length)) _)
    have ofOverlay := ofOverlay.transfer (carries_inside _ T)
    rw [← Heap.cell_of_getElem? here] at ofBase
    have apart : Disjoint ((S ∩ .range store.heap.length).erase store.root)
        (T ∩ .range (store.heap ++ sheet.heap.shift store.heap.length).length) := by
      refine Finset.disjoint_left.mpr fun p old new => ?_
      have less := behind p (Finset.mem_of_mem_inter_left new)
      simp only [Finset.mem_erase, Finset.mem_inter, Finset.mem_range] at old
      omega
    have older : ∀ p ∈ (S ∩ .range store.heap.length).erase store.root ∪
        T ∩ .range (store.heap ++ sheet.heap.shift store.heap.length).length,
        p < (store.heap ++ sheet.heap.shift store.heap.length).length := fun p mem => by
      rw [List.length_append] at mem ⊢
      simp only [Finset.mem_union, Finset.mem_erase, Finset.mem_inter, Finset.mem_range] at mem
      omega
    obtain ⟨cell', h', merged, longer, looks⟩ :=
      merge_unfolds ofBase ofOverlay (fun _ => apart) older
    cases merged.symm.trans laid
    exact ⟨_, _, looks.dict (lt_of_mem_since older longer _)⟩

variable {p : Path} {paths : List Path}

theorem mem_documents_of_content {files : Files}
    (read : (files.content p >>= readable) = .ok sheet) :
    ∃ place, (place, some sheet) ∈ files.documents := by
  obtain ⟨content, found, readable⟩ := Outcome.bind_eq_ok read
  obtain ⟨place, _, rest⟩ := Outcome.bind_eq_ok found
  cases content with
  | none => cases readable
  | some sheet =>
    cases readable
    cases known : files.read? place with
    | none =>
      rw [known] at rest
      cases rest
    | some content =>
      rw [known] at rest
      cases rest
      obtain ⟨entry, here, same⟩ := Option.map_eq_some_iff.mp known
      exact ⟨entry.1, same ▸ List.mem_of_find?_eq_some here⟩

/-- Every file that can be read is plain. -/
def PlainFiles (files : Files) : Prop :=
  ∀ place sheet, (place, some sheet) ∈ files.documents → ∃ v, IsPlain sheet v

theorem IsTree.layers {files : Files} (plain : PlainFiles files) (looks : IsTree store tree)
    (read : paths.foldlM (layer files) store = .ok more) : ∃ tree', IsTree more tree' := by
  induction paths generalizing store tree with
  | nil =>
    cases read
    exact ⟨tree, looks⟩
  | cons p rest ih =>
    rw [List.foldlM_cons] at read
    obtain ⟨next, first, others⟩ := Outcome.bind_eq_ok read
    rcases layer_eq_ok first with ⟨_, rfl⟩ | ⟨_, sheet, content, merged⟩
    · exact ih looks others
    · obtain ⟨place, mem⟩ := mem_documents_of_content content
      obtain ⟨v, isPlain⟩ := plain place sheet mem
      obtain ⟨tree', looks'⟩ := looks.merge isPlain merged
      exact ih looks' others

/-- Settings that are loaded from plain files look like a tree, and no dictionary among them stands
at two places. -/
theorem isTree_of_load (plain : PlainFiles s.files) (loaded : load.run s = (.ok (), s')) :
    ∃ tree, tree ≠ [] ∧ IsTree s'.store tree := by
  cases configured : configuration s with
  | error fault =>
    obtain ⟨notes, failed⟩ := run_load_error configured
    cases loaded.symm.trans failed
  | ok store =>
    obtain ⟨notes, read⟩ := run_load_ok configured
    cases loaded.symm.trans read
    obtain ⟨paths, _, rest⟩ := Outcome.bind_eq_ok configured
    obtain ⟨more, layers, bound⟩ := Outcome.bind_eq_ok rest
    cases bound
    obtain ⟨tree, looks⟩ := isTree_builtIn.layers plain layers
    obtain ⟨S, looks⟩ := (looks.applyBindings s.bindings).behind s.store.heap
    have some := Store.entries_behind_ne_nil (configuration_ne_nil configured) s.store.heap
    exact ⟨_, (entries_ne_nil_iff looks).mp some, S, looks⟩

end ElementSearch.Settings
