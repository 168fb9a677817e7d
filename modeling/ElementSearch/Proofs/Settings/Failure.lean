import ElementSearch.Proofs.Settings.Reference

/-! After a load that failed.
A load that fails leaves what it had read so far, which is at least the built-in settings.  As
these are settings like any other, the next question is answered from them, without a fault and
without variables, and no file that is put right changes that before the settings are forgotten
or reloaded. -/

namespace ElementSearch.Settings

/-- The operation loads the settings. -/
def Loads (s : Setup) (op : Operation) : Prop :=
  op.role = .reloading ∨ (op.role = .access ∧ s.store.entries = [])

def Asks (op : Operation) : Prop := op.role = .outside ∨ ∃ key fallback, op = .get key fallback

/-- Home, files, variables and the directory that was asked for are the same. -/
structure SameSources (s s' : Setup) : Prop where
  home : s'.home = s.home
  files : s'.files = s.files
  bindings : s'.bindings = s.bindings
  directory : s'.directory = s.directory

section Failure

variable {s : Setup} {op : Operation} {fault : Fault}

theorem configuration_congr {s' : Setup} (same : SameSources s s') :
    configuration s' = configuration s := by
  cases s
  cases s'
  obtain ⟨rfl, rfl, rfl, rfl⟩ := same
  rfl

theorem record_of_failed (loads : Loads s op) (failed : configuration s = .error fault) :
    (record s op).answer = .error fault ∧
      (record s op).after.store = (leftover s).behind (record s op).heap ∧
      SameSources s (record s op).after := by
  rcases loads with reloading | ⟨access, none⟩
  · cases op with
    | reload =>
      obtain ⟨notes, stopped⟩ := run_reload_of_failed failed
      rw [record, stopped]
      exact ⟨rfl, rfl, rfl, rfl, rfl, rfl⟩
    | _ => cases reloading
  · obtain ⟨notes, stopped⟩ := run_load_error failed
    rw [heap_of_access access, record, run_access_of_failed access none stopped]
    exact ⟨rfl, rfl, rfl, rfl, rfl, rfl⟩

theorem store_of_asks (asks : Asks op) (some : s.store.entries ≠ []) :
    (record s op).after.store = s.store := by
  rcases asks with outside | ⟨key, fallback, rfl⟩
  · have after : (record s op).after.store = op.change s.store := after_of_idle (.inr outside) s
    rw [after]
    cases op with
    | edit _ | assign _ _ => rfl
    | _ => cases outside
  · exact congrArg (fun ended => ended.2.store) (run_get_of_some some key fallback)

theorem answer_of_asks (some : s.store.entries ≠ []) {ops : List Operation}
    (asks : ∀ op ∈ ops, Asks op) {e : Event} (mem : e ∈ events s ops) {key : String}
    {fallback : Item} (get : e.op = .get key fallback) :
    e.answer = .ok ((find? s.store key).getD fallback) := by
  induction ops generalizing s with
  | nil => cases mem
  | cons op rest ih =>
    rcases List.mem_cons.mp mem with rfl | later
    · obtain rfl : op = .get key fallback := get
      exact congrArg Prod.fst (run_get_of_some some key fallback)
    · have kept := store_of_asks (asks op (.head _)) some
      have answer := ih (kept ▸ some) (fun op mem => asks op (.tail _ mem)) later
      rwa [kept] at answer

theorem find?_behind (store : Store) (heap : Heap) (key : String) :
    find? (store.behind heap) key = (find? store key).map (Item.shift heap.length) :=
  Heap.lookup_append_shift heap store.heap (.dict store.root) (Cut.dotted key)

/-- A load that fails reports its fault once: what it leaves behind answers every question from
then on, whatever becomes of the files and variables.  Only when the settings are forgotten is the
fault reported again. -/
theorem leftover_answers (s : Setup) (op : Operation) (loads : Loads s op) (fault : Fault)
    (failed : configuration s = .error fault) :
    (record s op).answer = .error fault ∧
      (record s op).after.store = (leftover s).behind (record s op).heap ∧
      (leftover s).entries ≠ [] ∧ SameSources s (record s op).after ∧
      (∀ ops, (∀ later ∈ ops, Asks later) → ∀ e ∈ events (record s op).after ops,
        ∀ key fallback, e.op = .get key fallback → e.answer =
          .ok (((find? (leftover s) key).map (Item.shift (record s op).heap.length)).getD
            fallback)) ∧
      ∀ key fallback, (record (record (record s op).after .reset).after
        (.get key fallback)).answer = .error fault := by
  obtain ⟨answer, store, same⟩ := record_of_failed loads failed
  refine ⟨answer, store, leftover_ne_nil s, same, ?_, ?_⟩
  · intro ops asks e mem key fallback get
    have some : (record s op).after.store.entries ≠ [] :=
      store ▸ Store.entries_behind_ne_nil (leftover_ne_nil s) _
    rw [answer_of_asks some asks mem get, store, find?_behind]
  · intro key fallback
    have again : configuration (record (record s op).after .reset).after = .error fault :=
      (configuration_congr same).trans failed
    have reads : Loads (record (record s op).after .reset).after (.get key fallback) :=
      .inr ⟨rfl, Store.entries_forget _⟩
    exact (record_of_failed reads again).1

def unreadable : Setup :=
  { home := ⟨false, []⟩, files := (Files.write ⟨false, ["c", "config.yaml"]⟩ none).run .empty |>.2,
    bindings := [], directory := some ⟨false, ["c"]⟩, store := .empty, logging := false,
    notes := [], sinks := [] }

def repaired : Entries := [("actions", .dict [("timeout", .int 700)])]

def repair : Operation :=
  .edit (Files.write ⟨false, ["c", "config.yaml"]⟩ (some (.ofValue (.dict repaired))))

def askTimeout : Operation := .get "actions.timeout" .null

theorem leftover_answers_unreadable :
    Loads unreadable askTimeout ∧ configuration unreadable = .error .badSettings ∧
      (record unreadable askTimeout).answer = .error .badSettings ∧
      ∀ e ∈ events (record unreadable askTimeout).after [repair, askTimeout],
        ∀ key fallback, e.op = .get key fallback → e.answer =
          .ok (((find? (leftover unreadable) key).map
            (Item.shift (record unreadable askTimeout).heap.length)).getD fallback) := by
  have loads : Loads unreadable askTimeout := .inr ⟨rfl, rfl⟩
  have failed : configuration unreadable = .error .badSettings := rfl
  have left := leftover_answers unreadable askTimeout loads .badSettings failed
  refine ⟨loads, failed, left.1, left.2.2.2.2.1 [repair, askTimeout] ?_⟩
  intro later mem
  rcases List.mem_cons.mp mem with rfl | mem
  · exact .inl rfl
  · obtain rfl := List.mem_singleton.mp mem
    exact .inr ⟨_, _, rfl⟩

/-- The second question is answered although the file still cannot be read, and the third is
answered as before although the file has another answer by then. -/
theorem partial_settings_stay :
    (events unreadable [askTimeout, askTimeout, repair, askTimeout]).map Event.answer =
        [.error .badSettings, .ok (.single (.int 5000) rfl), .ok .null,
          .ok (.single (.int 5000) rfl)] ∧
      (record (record unreadable repair).after askTimeout).answer =
        .ok (.single (.int 700) rfl) := ⟨rfl, rfl⟩

end Failure

end ElementSearch.Settings
