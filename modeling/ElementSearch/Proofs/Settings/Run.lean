import ElementSearch.Proofs.Settings.Load

/-! Runs of operations on the settings.
An operation asks for a setting, puts one, makes dictionaries, forgets or reloads the settings, or
changes a file or a variable.  What it leaves of the settings follows from what was there: loaded
settings are never loaded again, and where there are none every question loads them first. -/

namespace ElementSearch.Settings

open Stateful

inductive Operation where
  | get (key : String) (fallback : Item)
  | put (key : String) (x : Item)
  /-- dictionaries that may be put somewhere afterwards -/
  | make (cells : List Cell)
  | reset
  | useDirectory (p : Option Path)
  | reload
  /-- any change of the files, from outside -/
  | edit (change : Filing Unit)
  /-- any change of a variable, from outside -/
  | assign (name : String) (value : Option String)

namespace Operation

/-- The answer is null where none is asked for. -/
def run : Operation → Configuring Item
  | get key fallback => getItem key fallback
  | put key x => do
    putItem key x
    return .null
  | make cells => do
    Settings.make cells
    return .null
  | reset => do
    Settings.reset
    return .null
  | useDirectory p => do
    Settings.useDirectory p
    return .null
  | reload => do
    Settings.reload
    return .null
  | edit change => do
    filing change
    return .null
  | assign name value => do
    setVariable name value
    return .null

/-- What the operation does to loaded settings. -/
def change : Operation → Store → Store
  | put key x, store => store.put x (Cut.dotted key)
  | make cells, store => store.extend cells
  | _, store => store

inductive Role where
  /-- needs settings that are loaded -/
  | access
  | making
  | forgetting
  | reloading
  /-- does not concern the settings themselves -/
  | outside
deriving DecidableEq

def role : Operation → Role
  | get .. | put .. => .access
  | make _ => .making
  | reset | useDirectory _ => .forgetting
  | reload => .reloading
  | edit _ | assign .. => .outside

theorem change_ne_nil (op : Operation) {store : Store} (some : store.entries ≠ []) :
    (op.change store).entries ≠ [] := by
  cases op with
  | put key x => exact Store.entries_put_ne_nil some x _
  | make cells => exact (store.entries_extend cells).symm ▸ some
  | _ => exact some

end Operation

/-- One operation of a run: the setup before and after it, and its answer. -/
structure Event where
  op : Operation
  before : Setup
  answer : Outcome Item
  after : Setup

def record (s : Setup) (op : Operation) : Event := ⟨op, s, (op.run.run s).1, (op.run.run s).2⟩

/-- A run; a fault ends the operation only. -/
def events : Setup → List Operation → List Event
  | _, [] => []
  | s, op :: rest => record s op :: events (record s op).after rest

section Steady

/-- Settings that are there stay as they are. -/
def Steady {α : Type} (x : Configuring α) : Prop :=
  ∀ s : Setup, s.store.entries ≠ [] → (x.run s).2.store = s.store

variable {α β : Type}

theorem Steady.bind {x : Configuring α} {f : α → Configuring β} (first : Steady x)
    (rest : ∀ a, Steady (f a)) : Steady (x >>= f) := by
  intro s some
  have kept := first s some
  rw [run_bind]
  cases ended : x.run s with
  | mk outcome s' =>
    rw [ended] at kept
    have some' : s'.store.entries ≠ [] := by rwa [show s'.store = s.store from kept]
    cases outcome with
    | error fault => exact kept
    | ok a => exact (rest a s' some').trans kept

theorem steady_pure (a : α) : Steady (pure a) := fun _ _ => rfl

theorem steady_throw (fault : Fault) : Steady (throw fault : Configuring α) := fun _ _ => rfl

theorem steady_lift (o : Outcome α) : Steady (liftM o : Configuring α) := by
  intro s some
  cases o <;> rfl

theorem steady_get : Steady get := fun _ _ => rfl

theorem steady_modify {change : Setup → Setup} (kept : ∀ s, (change s).store = s.store) :
    Steady (modify change) := fun s _ => kept s

theorem steady_note (level : Level) (text : String) : Steady (note level text) :=
  steady_modify fun _ => rfl

theorem steady_sink (change : Sink) : Steady (sink change) := steady_modify fun _ => rfl

theorem steady_started (text : String) : Steady (do
    modify fun s : Setup => { s with logging := true }
    note .debug text) := fun _ _ => rfl

theorem steady_filing (change : Filing α) : Steady (filing change) := fun _ _ => rfl

end Steady

section Steps

theorem after_answer {α : Type} (x : Configuring α) (answer : Item) (s : Setup) :
    ((do
      let _ ← x
      return answer : Configuring Item).run s).2 = (x.run s).2 := by
  rw [run_bind]
  cases x.run s with
  | mk outcome s' => cases outcome <;> rfl

theorem store_setVariable (name : String) (value : Option String) (s : Setup) :
    ((setVariable name value).run s).2.store = s.store := by
  cases value with
  | none => rfl
  | some value =>
    cases checked : checkVariable name value with
    | error fault =>
      rw [setVariable, run_lift_bind_error checked]
    | ok =>
      rw [setVariable, run_lift_bind_ok checked]
      rfl

variable {s : Setup} {store : Store} {fault : Fault}

theorem run_ensureLoaded_of_some (some : s.store.entries ≠ []) :
    ensureLoaded.run s = (.ok (), s) := by
  have loaded : s.store.entries.isEmpty = false := by simpa using some
  rw [ensureLoaded, run_get_bind, loaded]
  rfl

theorem run_ensureLoaded_of_none (none : s.store.entries = []) :
    ensureLoaded.run s = load.run s := by
  rw [ensureLoaded, run_get_bind, none]
  rfl

theorem run_setting?_of_some (some : s.store.entries ≠ []) (key : String) :
    (setting? key).run s = (.ok (find? s.store key), s) := by
  rw [setting?, run_bind_ok (run_ensureLoaded_of_some some)]
  rfl

theorem run_setting?_of_load (none : s.store.entries = []) {s' : Setup}
    (loaded : load.run s = (.ok (), s')) (key : String) :
    (setting? key).run s = (.ok (find? s'.store key), s') := by
  rw [setting?, run_bind_ok ((run_ensureLoaded_of_none none).trans loaded)]
  rfl

theorem run_getItem_of_some (some : s.store.entries ≠ []) (key : String) (fallback : Item) :
    (getItem key fallback).run s = (.ok ((find? s.store key).getD fallback), s) := by
  rw [getItem, run_bind_ok (run_setting?_of_some some key)]
  rfl

theorem run_getValue_of_some (some : s.store.entries ≠ []) (key : String) (fallback : Value) :
    (getValue key fallback).run s =
      (.ok ((find? s.store key).elim fallback s.store.heap.show), s) := by
  rw [getValue, run_bind_ok (run_setting?_of_some some key)]
  rfl

theorem run_putItem_of_some (some : s.store.entries ≠ []) (key : String) (x : Item) :
    (putItem key x).run s = (.ok (), { s with store := s.store.put x (Cut.dotted key) }) := by
  rw [putItem, run_bind_ok (run_ensureLoaded_of_some some)]
  rfl

theorem steady_getValue (key : String) (fallback : Value) : Steady (getValue key fallback) := by
  intro s some
  rw [run_getValue_of_some some]

theorem steady_orSetting (value : Value) (key : String) (fallback : Value) :
    Steady (orSetting value key fallback) := by
  unfold orSetting
  split
  · exact steady_pure value
  · exact steady_getValue key fallback

theorem steady_addFileSink (level format file : Value) :
    Steady (addFileSink level format file) := by
  unfold addFileSink
  split
  · exact (steady_filing _).bind fun _ => (steady_getValue _ _).bind fun _ =>
      (steady_getValue _ _).bind fun _ => steady_sink _
  · exact steady_throw _

theorem steady_startLogging (level format file : Value) :
    Steady (startLogging level format file) := by
  unfold startLogging
  refine steady_get.bind fun s => ?_
  split
  · refine (steady_orSetting _ _ _).bind fun _ => (steady_lift _).bind fun _ =>
      (steady_orSetting _ _ _).bind fun _ => (steady_sink _).bind fun _ =>
      (steady_sink _).bind fun _ => (steady_orSetting _ _ _).bind fun _ => ?_
    split
    · exact (steady_addFileSink _ _ _).bind fun _ => steady_started _
    · exact steady_started _
  · exact steady_pure ()

theorem run_get_of_some (some : s.store.entries ≠ []) (key : String) (fallback : Item) :
    (Operation.get key fallback).run.run s =
      (.ok ((find? s.store key).getD fallback), s) := run_getItem_of_some some key fallback

theorem run_put_of_some (some : s.store.entries ≠ []) (key : String) (x : Item) :
    (Operation.put key x).run.run s =
      (.ok .null, { s with store := s.store.put x (Cut.dotted key) }) := by
  rw [Operation.run, run_bind_ok (run_putItem_of_some some key x)]
  rfl

theorem run_access_of_some {op : Operation} (access : op.role = .access)
    (some : s.store.entries ≠ []) :
    ∃ answer, op.run.run s = (.ok answer, { s with store := op.change s.store }) := by
  cases op with
  | get key fallback => exact ⟨_, run_get_of_some some key fallback⟩
  | put key x => exact ⟨.null, run_put_of_some some key x⟩
  | _ => cases access

theorem run_access_of_load {op : Operation} (access : op.role = .access)
    (none : s.store.entries = []) {s' : Setup} (loaded : load.run s = (.ok (), s'))
    (some : s'.store.entries ≠ []) : op.run.run s = op.run.run s' := by
  have ensured := (run_ensureLoaded_of_none none).trans loaded
  have ensured' := run_ensureLoaded_of_some some
  cases op with
  | get key fallback =>
    rw [Operation.run, getItem, run_bind_ok (run_setting?_of_load none loaded key),
      run_bind_ok (run_setting?_of_some some key)]
  | put key x =>
    rw [Operation.run, putItem, run_bind, run_bind_ok ensured, run_bind, run_bind_ok ensured']
  | _ => cases access

theorem run_access_of_failed {op : Operation} (access : op.role = .access)
    (none : s.store.entries = []) {s' : Setup} (failed : load.run s = (.error fault, s')) :
    op.run.run s = (.error fault, s') := by
  have ensured := (run_ensureLoaded_of_none none).trans failed
  cases op with
  | get key fallback => exact run_bind_error (run_bind_error ensured)
  | put key x => exact run_bind_error (run_bind_error ensured)
  | _ => cases access

theorem after_of_idle {op : Operation} (idle : op.role = .making ∨ op.role = .outside)
    (s : Setup) : (op.run.run s).2.store = op.change s.store := by
  cases op with
  | make cells => rfl
  | edit change =>
    rw [Operation.run, after_answer]
    rfl
  | assign name value =>
    rw [Operation.run, after_answer, store_setVariable]
    rfl
  | _ => rcases idle with idle | idle <;> cases idle

theorem change_of_idle {op : Operation} (idle : op.role = .making ∨ op.role = .outside)
    (store : Store) : (op.change store).entries = store.entries := by
  cases op with
  | make cells => exact store.entries_extend cells
  | edit _ | assign _ _ => rfl
  | _ => rcases idle with idle | idle <;> cases idle

theorem after_of_forgetting {op : Operation} (forgetting : op.role = .forgetting) (s : Setup) :
    (op.run.run s).2.store.entries = [] := by
  cases op with
  | reset | useDirectory p => exact s.store.entries_forget
  | _ => cases forgetting

def forgotten (s : Setup) : Setup := { s with store := s.store.forget, logging := false }

theorem run_reload : Settings.reload.run s = (do
    load
    startLogging .null .null .null
    note .info "Configuration reloaded.").run (forgotten s) := rfl

theorem run_reload_of_failed (failed : configuration s = .error fault) :
    ∃ notes, Operation.reload.run.run s =
      (.error fault, reading (forgotten s) s.store.forget.heap (leftover s) notes) := by
  obtain ⟨notes, stopped⟩ := run_load_error (s := forgotten s) failed
  exact ⟨notes, run_bind_error (run_reload.trans (run_bind_error stopped))⟩

theorem run_reload_of_loaded (loaded : configuration s = .ok store) :
    (Operation.reload.run.run s).2.store = store.behind s.store.forget.heap := by
  obtain ⟨notes, read⟩ := run_load_ok (s := forgotten s) loaded
  have kept := (steady_startLogging .null .null .null).bind
    (fun _ => steady_note .info "Configuration reloaded.")
    (reading (forgotten s) s.store.forget.heap store notes)
    (Store.entries_behind_ne_nil (configuration_ne_nil loaded) _)
  rw [Operation.run, after_answer, run_reload, run_bind_ok read]
  exact kept

end Steps

end ElementSearch.Settings
