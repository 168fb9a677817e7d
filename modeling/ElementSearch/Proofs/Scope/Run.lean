import ElementSearch.Procedure
import ElementSearch.Proofs.Script.Run

/-! Runs of jobs that may change the context.
A run says what was asked, how the job ended and which context it left, for a fault as well as
for a value.  Each operation on scopes then has one lemma with all that its runs can do. -/

namespace ElementSearch

namespace Scoped

variable {α β : Type} {c c' : Context} {t : List Exchange}

def Run (x : Scoped α) (c : Context) (t : List Exchange) (o : Outcome α) (c' : Context) : Prop :=
  Script.Run (x.run c) t (o, c')

@[simp] theorem run_pure_iff {a : α} {o : Outcome α} :
    Run (pure a) c t o c' ↔ t = [] ∧ o = .ok a ∧ c' = c := by
  have unfolded : Run (pure a) c t o c' ↔ t = [] ∧ (o, c') = (.ok a, c) := Script.run_done_iff
  rw [unfolded, Prod.mk.injEq]

@[simp] theorem run_throw_iff {fault : Fault} {o : Outcome α} :
    Run (throw fault) c t o c' ↔ t = [] ∧ o = .error fault ∧ c' = c := by
  have unfolded : Run (throw fault : Scoped α) c t o c' ↔ t = [] ∧ (o, c') = (.error fault, c) :=
    Script.run_done_iff
  rw [unfolded, Prod.mk.injEq]

@[simp] theorem run_ofJob_iff {j : Job α} {o : Outcome α} :
    Run (ofJob j) c t o c' ↔ Job.Run j t o ∧ c' = c := by
  rw [Run, run_ofJob, Script.run_bind_iff, Job.Run]
  constructor
  · rintro ⟨t₁, t₂, o₁, rfl, run, rest⟩
    obtain ⟨rfl, same⟩ := Script.run_done_iff.mp rest
    rw [Prod.mk.injEq] at same
    rw [List.append_nil, same.1]
    exact ⟨run, same.2⟩
  · rintro ⟨run, rfl⟩
    exact ⟨t, [], o, (List.append_nil t).symm, run, .done _⟩

@[simp] theorem run_ofOutcome_iff {o o' : Outcome α} :
    Run (ofOutcome o) c t o' c' ↔ t = [] ∧ o' = o ∧ c' = c := by
  rw [ofOutcome, run_ofJob_iff, Job.run_ofOutcome_iff, and_assoc]

theorem run_bind_iff {x : Scoped α} {f : α → Scoped β} {o : Outcome β} :
    Run (x >>= f) c t o c' ↔
      (∃ fault, Run x c t (.error fault) c' ∧ o = .error fault) ∨
        ∃ t₁ t₂ a c₁, t = t₁ ++ t₂ ∧ Run x c t₁ (.ok a) c₁ ∧ Run (f a) c₁ t₂ o c' := by
  change Script.Run (x.run c >>= fun p => ExceptT.bindCont f p.1 p.2) t (o, c') ↔ _
  rw [Script.run_bind_iff]
  constructor
  · rintro ⟨t₁, t₂, ⟨first, c₁⟩, rfl, run, rest⟩
    cases first with
    | error fault =>
      obtain ⟨rfl, same⟩ := Script.run_done_iff.mp rest
      rw [Prod.mk.injEq] at same
      rw [List.append_nil, same.2]
      exact .inl ⟨fault, run, same.1⟩
    | ok a => exact .inr ⟨t₁, t₂, a, c₁, rfl, run, rest⟩
  · rintro (⟨fault, run, rfl⟩ | ⟨t₁, t₂, a, c₁, rfl, run, rest⟩)
    · exact ⟨t, [], (.error fault, c'), (List.append_nil t).symm, run, .done _⟩
    · exact ⟨t₁, t₂, (.ok a, c₁), rfl, run, rest⟩

@[simp] theorem run_caught_iff {x : Scoped α} {o : Outcome (Outcome α)} :
    Run x.caught c t o c' ↔ ∃ o', o = .ok o' ∧ Run x c t o' c' := by
  change Script.Run (x.run c >>= fun p => .done (.ok p.1, p.2)) t (o, c') ↔ _
  rw [Script.run_bind_iff]
  constructor
  · rintro ⟨t₁, t₂, ⟨o', c₁⟩, rfl, run, rest⟩
    obtain ⟨rfl, same⟩ := Script.run_done_iff.mp rest
    rw [Prod.mk.injEq] at same
    rw [List.append_nil, same.2]
    exact ⟨o', same.1, run⟩
  · rintro ⟨o', rfl, run⟩
    exact ⟨t, [], (o', c'), (List.append_nil t).symm, run, .done _⟩

theorem run_context_bind (f : Context → Scoped α) (c : Context) :
    (context >>= f).run c = (f c).run c := rfl

theorem run_setContext_bind (next c : Context) (f : Unit → Scoped α) :
    (setContext next >>= f).run c = (f ()).run next := rfl

theorem run_ok_bind (a : α) (f : α → Scoped β) (c : Context) :
    (ofOutcome (.ok a) >>= f).run c = (f a).run c := rfl

theorem run_error_bind (fault : Fault) (f : α → Scoped β) (c : Context) :
    (ofOutcome (.error fault) >>= f).run c = .done (.error fault, c) := rfl

theorem run_map_iff {x : Scoped α} {f : α → β} {o : Outcome β} :
    Run (x >>= fun a => pure (f a)) c t o c' ↔ ∃ o', Run x c t o' c' ∧ o = o'.map f := by
  rw [run_bind_iff]
  constructor
  · rintro (⟨fault, run, rfl⟩ | ⟨t₁, t₂, a, c₁, rfl, run, rest⟩)
    · exact ⟨.error fault, run, rfl⟩
    · obtain ⟨rfl, rfl, rfl⟩ := run_pure_iff.mp rest
      rw [List.append_nil]
      exact ⟨.ok a, run, rfl⟩
  · rintro ⟨o', run, rfl⟩
    cases o' with
    | error fault => exact .inl ⟨fault, run, rfl⟩
    | ok a =>
      have ending : Run (pure (f a)) c' [] (.ok (f a)) c' := run_pure_iff.mpr ⟨rfl, rfl, rfl⟩
      exact .inr ⟨t, [], a, c', (List.append_nil t).symm, run, ending⟩

end Scoped

namespace Scope

open Scoped (Run)

variable {c c' : Context} {t : List Exchange} {filters : List Filter} {d : Driver} {v : Value}

theorem push_of_refused {fault : Fault} (refused : checkNesting filters c v = .error fault) :
    (push filters d v).run c = .done (.error fault, c) := by
  rw [push, Scoped.run_context_bind, refused, Scoped.run_error_bind]

theorem push_cases {o : Outcome Handle} (run : Run (push filters d v) c t o c') :
    (∃ fault, checkNesting filters c v = .error fault ∧ t = [] ∧ o = .error fault ∧ c' = c) ∨
      ∃ l, checkNesting filters c v = .ok l ∧
        ((∃ fault, Job.Run (narrowTo d l c.root) t (.error fault) ∧ o = .error fault ∧ c' = c) ∨
          ∃ t₁ t₂ root noted, t = t₁ ++ t₂ ∧ Job.Run (narrowTo d l c.root) t₁ (.ok root) ∧
            Job.Run (depthNote "Within" l (c.depth + 1)) t₂ noted ∧
            o = noted.map (fun _ => root) ∧ c' = c.enter ⟨l, root⟩) := by
  -- The scope is open before its opening is noted, so it stays open when the note fails.
  rw [Run, push, Scoped.run_context_bind] at run
  cases checked : checkNesting filters c v with
  | error fault =>
    rw [checked, Scoped.run_error_bind, Script.run_done_iff, Prod.mk.injEq] at run
    exact .inl ⟨fault, rfl, run⟩
  | ok l =>
    rw [checked, Scoped.run_ok_bind] at run
    refine .inr ⟨l, rfl, ?_⟩
    rcases Scoped.run_bind_iff.mp run with
      ⟨fault, looked, rfl⟩ | ⟨t₁, t₂, root, c₁, rfl, looked, rest⟩
    · have ended := Scoped.run_ofJob_iff.mp looked
      exact .inl ⟨fault, ended.1, rfl, ended.2⟩
    · obtain ⟨looked, rfl⟩ := Scoped.run_ofJob_iff.mp looked
      rw [Run, Scoped.run_setContext_bind] at rest
      obtain ⟨noted, note, ends⟩ := Scoped.run_map_iff.mp rest
      obtain ⟨note, left⟩ := Scoped.run_ofJob_iff.mp note
      exact .inr ⟨t₁, t₂, root, noted, rfl, looked, note, ends, left⟩

theorem pop_cases {o : Outcome (Option Scope)} (run : Run pop c t o c') :
    (c.scopes = [] ∧ t = [] ∧ o = .ok none ∧ c' = c) ∨
      ∃ scope rest noted, c.scopes = scope :: rest ∧
        Job.Run (depthNote "Leaving" scope.locator (c.depth - 1)) t noted ∧
        o = noted.map (fun _ => some scope) ∧ c' = c.close := by
  rw [Run, pop, Scoped.run_context_bind] at run
  cases scopes : c.scopes with
  | nil =>
    rw [scopes] at run
    exact .inl ⟨rfl, Scoped.run_pure_iff.mp run⟩
  | cons scope rest =>
    rw [scopes, Scoped.run_setContext_bind] at run
    obtain ⟨noted, note, ends⟩ := Scoped.run_map_iff.mp run
    obtain ⟨note, left⟩ := Scoped.run_ofJob_iff.mp note
    exact .inr ⟨scope, rest, noted, rfl, note, ends, left⟩

theorem within_cases {α : Type} {body : Handle → Scoped α} {o : Outcome α}
    (run : Run (within filters d v body) c t o c') :
    (∃ fault, Run (push filters d v) c t (.error fault) c' ∧ o = .error fault) ∨
      ∃ t₁ t₂ t₃ root c₁ inner c₂ popped, t = t₁ ++ (t₂ ++ t₃) ∧
        Run (push filters d v) c t₁ (.ok root) c₁ ∧ Run (body root) c₁ t₂ inner c₂ ∧
        Run pop c₂ t₃ popped c' ∧
        ((∃ fault, popped = .error fault ∧ o = .error fault) ∨
          ∃ scope, popped = .ok scope ∧ o = inner) := by
  rcases Scoped.run_bind_iff.mp run with opened | ⟨t₁, _, root, c₁, rfl, opened, rest⟩
  · exact .inl opened
  · refine .inr ?_
    rcases Scoped.run_bind_iff.mp rest with
      ⟨fault, ended, _⟩ | ⟨t₂, t₃, inner, c₂, rfl, ended, rest⟩
    · obtain ⟨o', impossible, _⟩ := Scoped.run_caught_iff.mp ended
      cases impossible
    · obtain ⟨inner', same, ended⟩ := Scoped.run_caught_iff.mp ended
      obtain rfl : inner = inner' := Except.ok.inj same
      rcases Scoped.run_bind_iff.mp rest with
        ⟨fault, popped, rfl⟩ | ⟨t₄, t₅, scope, c₃, rfl, popped, rest⟩
      · exact ⟨t₁, t₂, t₃, root, c₁, inner, c₂, _, rfl, opened, ended, popped,
          .inl ⟨fault, rfl, rfl⟩⟩
      · obtain ⟨rfl, rfl, rfl⟩ := Scoped.run_ofOutcome_iff.mp rest
        rw [List.append_nil]
        exact ⟨t₁, t₂, t₄, root, c₁, o, c₂, _, rfl, opened, ended, popped, .inr ⟨scope, rfl, rfl⟩⟩

end Scope

namespace Procedure

open Scoped (Run)

variable {actor : Actor} {c c' : Context} {t : List Exchange}

theorem runMove_cases {m : Move} {o : Outcome Result} (run : Run (runMove actor m) c t o c') :
    c' = c ∨
      (∃ v l root looking, m = .push v ∧ Scope.checkNesting actor.filters c v = .ok l ∧
        Job.Run (Scope.narrowTo actor.driver l c.root) looking (.ok root) ∧
        c' = c.enter ⟨l, root⟩) ∨
      (m = .pop ∧ c' = c.close) ∨ ∃ root, m = .reset root ∧ c' = .ofBase root := by
  cases m with
  | push v =>
    rw [runMove] at run
    obtain ⟨o', pushed, _⟩ := Scoped.run_map_iff.mp run
    rcases Scope.push_cases pushed with ⟨_, _, _, _, same⟩ | ⟨l, checked, ⟨_, _, _, same⟩ |
      ⟨t₁, _, root, _, _, looked, _, _, entered⟩⟩
    · exact .inl same
    · exact .inl same
    · exact .inr (.inl ⟨v, l, root, t₁, rfl, checked, looked, entered⟩)
  | pop =>
    rw [runMove] at run
    obtain ⟨o', popped, _⟩ := Scoped.run_map_iff.mp run
    rcases Scope.pop_cases popped with ⟨_, _, _, same⟩ | ⟨_, _, _, _, _, _, closed⟩
    · exact .inl same
    · exact .inr (.inr (.inl ⟨rfl, closed⟩))
  | reset root =>
    rw [runMove, Scope.reset, Run, Scoped.run_setContext_bind] at run
    obtain ⟨_, _, based⟩ := Scoped.run_pure_iff.mp run
    exact .inr (.inr (.inr ⟨root, rfl, based⟩))
  | check v =>
    rw [runMove, Run, Scoped.run_context_bind] at run
    obtain ⟨_, checked, _⟩ := Scoped.run_map_iff.mp run
    obtain ⟨_, _, same⟩ := Scoped.run_ofOutcome_iff.mp checked
    exact .inl same
  | root =>
    rw [runMove, Run, Scoped.run_context_bind] at run
    obtain ⟨_, _, same⟩ := Scoped.run_pure_iff.mp run
    exact .inl same
  | act action =>
    rw [runMove, Run, Scoped.run_context_bind] at run
    obtain ⟨_, performed, _⟩ := Scoped.run_map_iff.mp run
    obtain ⟨_, same⟩ := Scoped.run_ofJob_iff.mp performed
    exact .inl same

theorem run_reportStage {result : Outcome Result} {o : Outcome Unit}
    (run : Run (reportStage result) c t o c') : c' = c := by
  rw [Run, reportStage, Scoped.run_context_bind] at run
  exact (Scoped.run_ofJob_iff.mp run).2

end Procedure

end ElementSearch
