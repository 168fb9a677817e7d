import ElementSearch.Proofs.Settings.Store
import ElementSearch.Proofs.Stateful
import ElementSearch.Settings

/-! What loading the settings comes to.
The settings that files and variables ask for are a function of the setup, and so are those that
a failed load leaves behind: everything up to the file that could not be read.  Neither is ever
empty, because the built-in settings are not and no layer takes a key away. -/

namespace ElementSearch

namespace Settings

open Stateful

def layer (files : Files) (store : Store) (p : Path) : Outcome Store := do
  if ← files.has p then store.merge (← files.content p >>= readable) else return store

def sources (s : Setup) : Outcome (List Path) := do
  match ← directory? s with
  | none => return []
  | some p => return [p.file "config.yaml", p.file (environment s ++ ".yaml")]

/-- The settings that the files and variables of the setup ask for. -/
def configuration (s : Setup) : Outcome Store := do
  let paths ← sources s
  let store ← paths.foldlM (layer s.files) builtIn
  return applyBindings store s.bindings

/-- The settings after the files up to the first that cannot be read. -/
def readUntilFault (files : Files) : Store → List Path → Store
  | store, [] => store
  | store, p :: rest =>
    match layer files store p with
    | .ok more => readUntilFault files more rest
    | .error _ => store

def leftover (s : Setup) : Store :=
  match sources s with
  | .ok paths => readUntilFault s.files builtIn paths
  | .error _ => builtIn

section NotEmpty

variable {files : Files} {store more : Store} {p : Path} {paths : List Path}

theorem layer_eq_ok (read : layer files store p = .ok more) :
    (files.has p = .ok false ∧ more = store) ∨
      (files.has p = .ok true ∧ ∃ sheet, (files.content p >>= readable) = .ok sheet ∧
        store.merge sheet = .ok more) := by
  obtain ⟨present, there, rest⟩ := Outcome.bind_eq_ok read
  cases present with
  | false =>
    cases rest
    exact .inl ⟨there, rfl⟩
  | true =>
    obtain ⟨sheet, content, merged⟩ := Outcome.bind_eq_ok rest
    exact .inr ⟨there, sheet, content, merged⟩

theorem layer_ne_nil (some : store.entries ≠ []) (read : layer files store p = .ok more) :
    more.entries ≠ [] := by
  rcases layer_eq_ok read with ⟨_, rfl⟩ | ⟨_, sheet, _, merged⟩
  · exact some
  · exact Store.entries_merge_ne_nil some merged

theorem builtIn_ne_nil : builtIn.entries ≠ [] := nofun

theorem layers_ne_nil (some : store.entries ≠ [])
    (read : paths.foldlM (layer files) store = .ok more) : more.entries ≠ [] := by
  induction paths generalizing store with
  | nil =>
    cases read
    exact some
  | cons p rest ih =>
    rw [List.foldlM_cons] at read
    obtain ⟨next, first, others⟩ := Outcome.bind_eq_ok read
    exact ih (layer_ne_nil some first) others

theorem readUntilFault_ne_nil (some : store.entries ≠ []) :
    (readUntilFault files store paths).entries ≠ [] := by
  induction paths generalizing store with
  | nil => exact some
  | cons p rest ih =>
    unfold readUntilFault
    split
    · exact ih (layer_ne_nil some ‹_›)
    · exact some

theorem applyBinding_ne_nil (some : store.entries ≠ []) (binding : String × String) :
    (applyBinding store binding).entries ≠ [] := by
  unfold applyBinding
  split
  · exact Store.entries_put_ne_nil some _ _
  · exact some

theorem applyBindings_ne_nil (some : store.entries ≠ []) (bindings : List (String × String)) :
    (applyBindings store bindings).entries ≠ [] := by
  unfold applyBindings
  induction bindings generalizing store with
  | nil => exact some
  | cons binding rest ih => exact ih (applyBinding_ne_nil some binding)

theorem configuration_ne_nil {s : Setup} (loaded : configuration s = .ok store) :
    store.entries ≠ [] := by
  obtain ⟨paths, _, rest⟩ := Outcome.bind_eq_ok loaded
  obtain ⟨more, read, bound⟩ := Outcome.bind_eq_ok rest
  cases bound
  exact applyBindings_ne_nil (layers_ne_nil builtIn_ne_nil read) s.bindings

theorem leftover_ne_nil (s : Setup) : (leftover s).entries ≠ [] := by
  unfold leftover
  split
  · exact readUntilFault_ne_nil builtIn_ne_nil
  · exact builtIn_ne_nil

end NotEmpty

/-- The setup after something was read: nothing but the settings and the notes is new.  What was
there before is on the heap. -/
def reading (s : Setup) (heap : Heap) (store : Store) (notes : List Note) : Setup :=
  { s with store := store.behind heap, notes := notes }

section Load

variable {s : Setup} {heap : Heap} {store more : Store} {fault : Fault} {p : Path}

@[simp] theorem files_reading (s : Setup) (heap : Heap) (store : Store) (notes : List Note) :
    (reading s heap store notes).files = s.files := rfl

@[simp] theorem bindings_reading (s : Setup) (heap : Heap) (store : Store) (notes : List Note) :
    (reading s heap store notes).bindings = s.bindings := rfl

@[simp] theorem directory?_reading (s : Setup) (heap : Heap) (store : Store)
    (notes : List Note) : directory? (reading s heap store notes) = directory? s := rfl

@[simp] theorem environment_reading (s : Setup) (heap : Heap) (store : Store)
    (notes : List Note) : environment (reading s heap store notes) = environment s := rfl

theorem run_use_bind {α : Type} (f : Unit → Configuring α) (heap : Heap) (store : Store)
    (s : Setup) : (use heap store >>= f).run s = (f ()).run (reading s heap store s.notes) := rfl

theorem run_overlay_ok (heap : Heap) (message : String) (notes : List Note)
    (read : layer s.files store p = .ok more) :
    ∃ later, (overlay heap store p message).run (reading s heap store notes) =
      (.ok more, reading s heap more later) := by
  simp only [overlay, run_get_bind, files_reading]
  rcases layer_eq_ok read with ⟨there, rfl⟩ | ⟨there, sheet, content, merged⟩
  · rw [run_lift_bind_ok there]
    exact ⟨notes, rfl⟩
  · rw [run_lift_bind_ok there, if_pos rfl,
      run_lift_bind_ok content, run_lift_bind_ok merged]
    exact ⟨_, rfl⟩

theorem run_overlay_error (heap : Heap) (message : String) (notes : List Note)
    (unread : layer s.files store p = .error fault) :
    (overlay heap store p message).run (reading s heap store notes) =
      (.error fault, reading s heap store notes) := by
  simp only [overlay, run_get_bind, files_reading]
  rcases Outcome.bind_eq_error unread with nowhere | ⟨present, there, rest⟩
  · exact run_lift_bind_error nowhere
  rw [run_lift_bind_ok there]
  cases present with
  | false => cases rest
  | true =>
    rcases Outcome.bind_eq_error rest with content | ⟨sheet, content, merged⟩
    · exact run_lift_bind_error content
    · rw [if_pos rfl, run_lift_bind_ok content]
      exact run_lift_bind_error merged

theorem run_load_missing (there : directory? s = .ok none) :
    ∃ notes, load.run s =
      (.ok (), reading s s.store.heap (applyBindings builtIn s.bindings) notes) := by
  simp only [load, run_get_bind, run_use_bind, directory?_reading]
  rw [run_lift_bind_ok there]
  exact ⟨_, rfl⟩

theorem run_load_some (there : directory? s = .ok (some p)) :
    load.run s = (readDirectory s.store.heap p >>= fun store => do
      use s.store.heap (applyBindings store (← get).bindings)).run
        (reading s s.store.heap builtIn s.notes) := by
  simp only [load, run_get_bind, run_use_bind, directory?_reading]
  rw [run_lift_bind_ok there]

theorem run_load_unknown (nowhere : directory? s = .error fault) :
    load.run s = (.error fault, reading s s.store.heap builtIn s.notes) := by
  simp only [load, run_get_bind, run_use_bind, directory?_reading]
  exact run_lift_bind_error nowhere

theorem sources_of_none (there : directory? s = .ok none) : sources s = .ok [] := by
  rw [sources, there]
  rfl

theorem sources_of_error (nowhere : directory? s = .error fault) : sources s = .error fault := by
  rw [sources, nowhere]
  rfl

theorem sources_of_some (there : directory? s = .ok (some p)) :
    sources s = .ok [p.file "config.yaml", p.file (environment s ++ ".yaml")] := by
  rw [sources, there]
  rfl

theorem run_readDirectory_ok {common all : Store} (notes : List Note)
    (first : layer s.files builtIn (p.file "config.yaml") = .ok common)
    (second : layer s.files common (p.file (environment s ++ ".yaml")) = .ok all) :
    ∃ later, (readDirectory heap p).run (reading s heap builtIn notes) =
      (.ok all, reading s heap all later) := by
  obtain ⟨between, overlaid⟩ := run_overlay_ok heap "Loaded configuration from " notes first
  obtain ⟨later, overlaid'⟩ := run_overlay_ok heap "Merged environment config: " between second
  rw [readDirectory, run_bind_ok overlaid, run_get_bind, environment_reading]
  exact ⟨later, overlaid'⟩

theorem run_readDirectory_error (heap : Heap) (notes : List Note)
    (unread : [p.file "config.yaml", p.file (environment s ++ ".yaml")].foldlM (layer s.files)
      builtIn = .error fault) :
    ∃ later, (readDirectory heap p).run (reading s heap builtIn notes) =
      (.error fault, reading s heap (readUntilFault s.files builtIn
        [p.file "config.yaml", p.file (environment s ++ ".yaml")]) later) := by
  rw [List.foldlM_cons] at unread
  rcases Outcome.bind_eq_error unread with first | ⟨common, first, rest⟩
  · have overlaid := run_overlay_error heap "Loaded configuration from " notes first
    rw [readDirectory, run_bind_error overlaid]
    exact ⟨notes, by simp only [readUntilFault, first]⟩
  rw [List.foldlM_cons] at rest
  rcases Outcome.bind_eq_error rest with second | ⟨_, _, ended⟩
  · obtain ⟨between, overlaid⟩ := run_overlay_ok heap "Loaded configuration from "
      notes first
    have overlaid' := run_overlay_error heap "Merged environment config: " between
      second
    rw [readDirectory, run_bind_ok overlaid, run_get_bind, environment_reading, overlaid']
    exact ⟨between, by simp only [readUntilFault, first, second]⟩
  · cases ended

theorem run_load_ok (loaded : configuration s = .ok store) :
    ∃ notes, load.run s = (.ok (), reading s s.store.heap store notes) := by
  obtain ⟨paths, found, rest⟩ := Outcome.bind_eq_ok loaded
  obtain ⟨read, layers, bound⟩ := Outcome.bind_eq_ok rest
  cases bound
  obtain ⟨directory, there, named⟩ := Outcome.bind_eq_ok found
  cases directory with
  | none =>
    cases named
    cases layers
    exact run_load_missing there
  | some p =>
    cases named
    rw [List.foldlM_cons] at layers
    obtain ⟨common, first, layers⟩ := Outcome.bind_eq_ok layers
    rw [List.foldlM_cons] at layers
    obtain ⟨all, second, ended⟩ := Outcome.bind_eq_ok layers
    cases ended
    obtain ⟨notes, run⟩ := run_readDirectory_ok s.notes first second
    rw [run_load_some there, run_bind_ok run]
    exact ⟨notes, rfl⟩

theorem foldlM_of_failed {paths : List Path} (found : sources s = .ok paths)
    (failed : configuration s = .error fault) :
    paths.foldlM (layer s.files) builtIn = .error fault := by
  -- The bindings are the last step of a load and cannot fail.
  rcases Outcome.bind_eq_error failed with nowhere | ⟨_, same, rest⟩
  · rw [found] at nowhere
    cases nowhere
  · cases found.symm.trans same
    rcases Outcome.bind_eq_error rest with unread | ⟨_, _, bound⟩
    · exact unread
    · cases bound

theorem run_load_error (failed : configuration s = .error fault) :
    ∃ notes, load.run s = (.error fault, reading s s.store.heap (leftover s) notes) := by
  cases there : directory? s with
  | error reason =>
    have nowhere := sources_of_error there
    rw [configuration, nowhere] at failed
    cases failed
    rw [leftover, nowhere]
    exact ⟨s.notes, run_load_unknown there⟩
  | ok directory =>
    cases directory with
    | none => cases foldlM_of_failed (sources_of_none there) failed
    | some p =>
      have found := sources_of_some there
      obtain ⟨notes, run⟩ := run_readDirectory_error s.store.heap s.notes
        (foldlM_of_failed found failed)
      rw [run_load_some there, run_bind_error run, leftover, found]
      exact ⟨notes, rfl⟩

end Load

end Settings

end ElementSearch
