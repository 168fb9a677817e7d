import ElementSearch.Proofs.Settings.Run
import Mathlib.Data.List.Induction

/-! Settings as a reference to one moment.
Settings are read at the first question after they were forgotten, and at every reload.  From
then on they are what was read, with what was put since, until they are forgotten or reloaded:
files and variables may change meanwhile and are not looked at.  Whether settings are loaded shows
in nothing but their not being empty, so the invariant also says that they never become so. -/

namespace ElementSearch.Settings

open Stateful

/-- Nothing was read since the settings were last forgotten, or at all if they never were. -/
def Unread (past : List Event) : Prop :=
  ∃ older newer, past = older ++ newer ∧
    (∀ last ∈ older.getLast?, last.op.role = .forgetting) ∧
    ∀ e ∈ newer, e.op.role ≠ .access ∧ e.op.role ≠ .reloading

/-- The moments at which files and variables are read. -/
def Reads (past : List Event) (e : Event) : Prop :=
  e.op.role = .reloading ∨ (e.op.role = .access ∧ Unread past)

/-- Neither forgotten nor reloaded. -/
def Keeps (e : Event) : Prop := e.op.role ≠ .forgetting ∧ e.op.role ≠ .reloading

def changed (store : Store) (run : List Event) : Store :=
  run.foldl (fun store e => e.op.change store) store

/-- The dictionaries that are there before the settings are read. -/
def Event.heap (e : Event) : Heap :=
  match e.op with
  | .reload => e.before.store.forget.heap
  | _ => e.before.store.heap

/-- What was read at the latest such moment, with what was put since.  A dictionary that was put at
two places is one dictionary, also in a later change of it. -/
def Reference (past : List Event) (store : Store) : Prop :=
  ∃ earlier moment since loaded, past = earlier ++ moment :: since ∧ Reads earlier moment ∧
    (∀ e ∈ since, Keeps e) ∧ configuration moment.before = .ok loaded ∧
    store = changed (loaded.behind moment.heap) (moment :: since)

section Moments

variable {past : List Event} {e : Event}

theorem unread_of_forgetting (past : List Event) (forgetting : e.op.role = .forgetting) :
    Unread (past ++ [e]) :=
  ⟨past ++ [e], [], (List.append_nil _).symm, by simpa using forgetting, by simp⟩

theorem Unread.append (unread : Unread past)
    (idle : e.op.role = .making ∨ e.op.role = .outside) : Unread (past ++ [e]) := by
  obtain ⟨older, newer, rfl, ends, quiet⟩ := unread
  refine ⟨older, newer ++ [e], List.append_assoc .., ends, ?_⟩
  intro x mem
  rcases List.mem_append.mp mem with before | last
  · exact quiet x before
  · obtain rfl := List.mem_singleton.mp last
    rcases idle with role | role <;> simp [role]

theorem Reference.append {store : Store} (reference : Reference past store) (kept : Keeps e) :
    Reference (past ++ [e]) (e.op.change store) := by
  obtain ⟨earlier, moment, since, loaded, rfl, reads, quiet, configured, rfl⟩ := reference
  refine ⟨earlier, moment, since ++ [e], loaded, by simp, reads, ?_, configured, by simp [changed]⟩
  intro x mem
  rcases List.mem_append.mp mem with before | last
  · exact quiet x before
  · obtain rfl := List.mem_singleton.mp last
    exact kept

theorem Reads.reference {loaded : Store} (reads : Reads past e)
    (configured : configuration e.before = .ok loaded) :
    Reference (past ++ [e]) (e.op.change (loaded.behind e.heap)) :=
  ⟨past, e, [], loaded, rfl, reads, by simp, configured, rfl⟩

end Moments

section Unique

theorem Reads.role {past : List Event} {e : Event} (reads : Reads past e) :
    e.op.role = .reloading ∨ e.op.role = .access := by
  rcases reads with reload | ⟨access, _⟩
  · exact .inl reload
  · exact .inr access

end Unique

section Invariant

/-- Settings that are not there are unread; settings that are there are the reference. -/
def Consistent (past : List Event) (s : Setup) : Prop :=
  (s.store.entries = [] ∧ Unread past) ∨ (s.store.entries ≠ [] ∧ Reference past s.store)

variable {past : List Event} {s : Setup} {op : Operation}

theorem consistent_of_load {loaded : Store} (reads : Reads past (record s op))
    (configured : configuration s = .ok loaded)
    (after : (op.run.run s).2.store = op.change (loaded.behind (record s op).heap)) :
    Consistent (past ++ [record s op]) (record s op).after := by
  have reference := reads.reference configured
  refine .inr ⟨?_, ?_⟩
  · have some := Store.entries_behind_ne_nil (configuration_ne_nil configured) (record s op).heap
    exact after ▸ op.change_ne_nil some
  · exact after ▸ reference

theorem heap_of_access (access : op.role = .access) : (record s op).heap = s.store.heap := by
  cases op with
  | get _ _ | put _ _ => rfl
  | _ => cases access

theorem run_access_of_unread (access : op.role = .access) (none : s.store.entries = [])
    (answered : ∃ answer, (op.run.run s).1 = .ok answer) :
    ∃ loaded notes, configuration s = .ok loaded ∧
      load.run s = (.ok (), reading s s.store.heap loaded notes) ∧
      (op.run.run s).2.store = op.change (loaded.behind s.store.heap) := by
  cases configured : configuration s with
  | error fault =>
    obtain ⟨notes, failed⟩ := run_load_error configured
    obtain ⟨answer, ended⟩ := answered
    rw [run_access_of_failed access none failed] at ended
    cases ended
  | ok loaded =>
    obtain ⟨notes, read⟩ := run_load_ok configured
    have some := Store.entries_behind_ne_nil (configuration_ne_nil configured) s.store.heap
    have run := run_access_of_load access none read some
    obtain ⟨answer, ended⟩ :=
      run_access_of_some (s := reading s s.store.heap loaded notes) access some
    rw [run, ended]
    exact ⟨loaded, notes, rfl, read, rfl⟩

theorem Consistent.access (consistent : Consistent past s) (role : op.role = .access)
    (answered : ∃ answer, (record s op).answer = .ok answer) :
    Consistent (past ++ [record s op]) (record s op).after := by
  rcases consistent with ⟨none, unread⟩ | ⟨some, reference⟩
  · obtain ⟨loaded, _, configured, _, after⟩ := run_access_of_unread role none answered
    rw [← heap_of_access role] at after
    exact consistent_of_load (.inr ⟨role, unread⟩) configured after
  · obtain ⟨_, run⟩ := run_access_of_some role some
    have after : (record s op).after.store = op.change s.store :=
      congrArg (fun ended => ended.2.store) run
    have kept : Keeps (record s op) := by simp [Keeps, record, role]
    refine .inr ?_
    rw [after]
    exact ⟨op.change_ne_nil some, reference.append kept⟩

theorem Consistent.idle (consistent : Consistent past s)
    (idle : op.role = .making ∨ op.role = .outside) :
    Consistent (past ++ [record s op]) (record s op).after := by
  have after : (record s op).after.store = op.change s.store := after_of_idle idle s
  have kept : Keeps (record s op) := by
    rcases idle with role | role <;> simp [Keeps, record, role]
  have same := change_of_idle idle s.store
  unfold Consistent
  rw [after, same]
  rcases consistent with ⟨none, unread⟩ | ⟨some, reference⟩
  · exact .inl ⟨none, unread.append idle⟩
  · exact .inr ⟨some, reference.append kept⟩

theorem Consistent.reloading (past : List Event) (role : op.role = .reloading)
    (answered : ∃ answer, (record s op).answer = .ok answer) :
    Consistent (past ++ [record s op]) (record s op).after := by
  cases op with
  | reload =>
    cases configured : configuration s with
    | error fault =>
      obtain ⟨notes, failed⟩ := run_reload_of_failed configured
      obtain ⟨answer, ended⟩ := answered
      have stopped : (record s .reload).answer = .error fault := congrArg Prod.fst failed
      rw [stopped] at ended
      cases ended
    | ok loaded => exact consistent_of_load (.inl rfl) configured (run_reload_of_loaded configured)
  | _ => cases role

theorem Consistent.step (consistent : Consistent past s)
    (answered : ∃ answer, (record s op).answer = .ok answer) :
    Consistent (past ++ [record s op]) (record s op).after := by
  -- What one operation preserves; the cases are the roles of the operation.
  cases role : op.role with
  | access => exact consistent.access role answered
  | making => exact consistent.idle (.inl role)
  | forgetting => exact .inl ⟨after_of_forgetting role s, unread_of_forgetting past role⟩
  | reloading => exact .reloading past role answered
  | outside => exact consistent.idle (.inr role)

theorem Consistent.run (consistent : Consistent past s) {ops : List Operation}
    (answered : ∀ e ∈ events s ops, ∃ answer, e.answer = .ok answer) {before : List Event}
    {e : Event} {later : List Event} (split : events s ops = before ++ e :: later) :
    Consistent (past ++ before) e.before ∧ e = record e.before e.op := by
  induction ops generalizing past s before with
  | nil => cases before <;> cases split
  | cons op rest ih =>
    cases before with
    | nil =>
      obtain ⟨rfl, _⟩ := List.cons.inj split
      exact ⟨(List.append_nil past).symm ▸ consistent, rfl⟩
    | cons first before =>
      obtain ⟨rfl, rest⟩ := List.cons.inj split
      have next := consistent.step (answered (record s op) (.head _))
      have ended := ih next (fun x mem => answered x (.tail _ mem)) rest
      rwa [List.append_assoc] at ended

end Invariant

section Answers

variable {past : List Event} {s : Setup} {op : Operation}

theorem Consistent.answer (consistent : Consistent past s) {key : String} {fallback : Item}
    (answered : ∃ answer, (record s (.get key fallback)).answer = .ok answer) :
    ∃ store, Reference (past ++ [record s (.get key fallback)]) store ∧
      (record s (.get key fallback)).answer = .ok ((find? store key).getD fallback) ∧
      ∀ value, ((getValue key value).run s).1 =
        .ok ((find? store key).elim value store.heap.show) := by
  rcases consistent with ⟨none, unread⟩ | ⟨some, reference⟩
  · obtain ⟨loaded, notes, configured, read, _⟩ := run_access_of_unread rfl none answered
    have reads : Reads past (record s (.get key fallback)) := .inr ⟨rfl, unread⟩
    have found := run_setting?_of_load none read key
    exact ⟨loaded.behind s.store.heap, reads.reference configured,
      congrArg Prod.fst (run_bind_ok found), fun value => congrArg Prod.fst (run_bind_ok found)⟩
  · have kept : Keeps (record s (.get key fallback)) := ⟨nofun, nofun⟩
    exact ⟨s.store, reference.append kept, congrArg Prod.fst (run_getItem_of_some some _ _),
      fun value => congrArg Prod.fst (run_getValue_of_some some key value)⟩

def bare : Setup :=
  { home := ⟨false, []⟩, files := .empty, bindings := [("ACTIONS__TIMEOUT", "7")],
    directory := some ⟨false, ["c"]⟩, store := .empty, logging := false, notes := [], sinks := [] }

end Answers

end ElementSearch.Settings
