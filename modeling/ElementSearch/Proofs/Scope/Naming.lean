import ElementSearch.Proofs.Scope.Layers
import ElementSearch.Proofs.Value.Named

/-! Names on the way into a scope.
A search notes what it looks for before it looks or before it answers, so whatever it finds can be
displayed.  A frame is entered without a search and noted afterwards: only there can a scope be
open that nothing can name, and its opening has then failed. -/

namespace ElementSearch

namespace Lookup

variable {l : Locator} {d : Driver} {family : Family} {root : Handle} {t : List Exchange}

theorem display_of_searchTiers {tiers : List Tier} {elements : List Handle}
    (run : Job.Run (searchTiers d l family root tiers) t (.ok elements)) :
    ∃ shown, (Value.locator l).display = .ok shown := by
  -- Every way for a walk through the tiers to end well passes a note that names the locator.
  cases named : (Value.locator l).display with
  | ok shown => exact ⟨shown, rfl⟩
  | error fault =>
    exfalso
    unfold searchTiers displayed at run
    cases tiers with
    | nil =>
      rw [Job.run_lift_bind_error named, Job.run_throw_iff] at run
      cases run.2
    | cons tier rest =>
      rcases Job.run_bind_iff.mp run with ⟨_, _, same⟩ | ⟨_, _, found, _, _, noted⟩
      · cases same
      · split at noted <;>
          rw [Job.run_lift_bind_error named, Job.run_throw_iff] at noted <;>
          cases noted.2

theorem display_of_resolveDirectly {elements : List Handle}
    (run : Job.Run (resolveDirectly d l root) t (.ok elements)) :
    ∃ shown, (Value.locator l).display = .ok shown := by
  cases named : (Value.locator l).display with
  | ok shown => exact ⟨shown, rfl⟩
  | error fault =>
    exfalso
    unfold resolveDirectly displayed at run
    rcases Job.run_bind_iff.mp run with ⟨_, _, same⟩ | ⟨_, _, query, _, _, noted⟩
    · cases same
    · rw [Job.run_lift_bind_error named, Job.run_throw_iff] at noted
      cases noted.2

theorem display_of_found {first : Handle} {others : List Handle}
    (run : Job.Run (resolveLocator d l family root) t (.ok (first :: others))) :
    ∃ shown, (Value.locator l).display = .ok shown := by
  unfold resolveLocator at run
  cases kind : l.kind with rw [kind] at run
  | frame =>
    exfalso
    unfold refuseFrame at run
    rcases Job.run_bind_iff.mp run with ⟨_, _, same⟩ | ⟨_, _, _, _, _, thrown⟩
    · cases same
    · cases (Job.run_throw_iff.mp thrown).2
  | unknown =>
    exfalso
    rcases Job.run_bind_iff.mp run with ⟨_, _, same⟩ | ⟨_, _, _, _, _, rest⟩
    · cases same
    rcases Job.run_bind_iff.mp rest with ⟨_, _, same⟩ | ⟨_, _, _, _, _, nothing⟩
    · cases same
    · cases (Job.run_pure_iff.mp nothing).2
  | fuzzy =>
    rcases Job.run_bind_iff.mp run with ⟨_, _, same⟩ | ⟨_, _, tiers, _, _, walked⟩
    · cases same
    · exact display_of_searchTiers walked
  | css | xpath | id | name | custom | react | vue | shadow => exact display_of_resolveDirectly run

end Lookup

namespace Scope

open Scoped (Run)

variable {c : Context} {t : List Exchange} {filters : List Filter} {d : Driver} {v : Value}
  {l : Locator}

/-- A frame to narrow to that nothing can name. -/
def IsNameless (filters : List Filter) (v : Value) : Prop :=
  ∃ l, classify filters v = .ok l ∧ l.kind = .frame ∧
    ∃ fault, (Value.locator l).display = .error fault

theorem display_of_narrowTo {root found : Handle} (element : l.kind ≠ .frame)
    (run : Job.Run (narrowTo d l root) t (.ok found)) :
    ∃ shown, (Value.locator l).display = .ok shown := by
  rw [narrowTo, if_neg element] at run
  rcases Job.run_bind_iff.mp run with ⟨_, _, same⟩ | ⟨_, _, elements, _, resolved, rest⟩
  · cases same
  · cases elements with
    | nil => cases (Job.run_throw_iff.mp rest).2
    | cons first others => exact Lookup.display_of_found resolved

theorem display_of_depthNote {verb : String} {depth : Nat} {fault : Fault}
    (run : Job.Run (depthNote verb l depth) t (.error fault)) :
    (Value.locator l).display = .error fault := by
  unfold depthNote Lookup.displayed at run
  cases named : (Value.locator l).display with
  | error failure =>
    rw [Job.run_lift_bind_error named, Job.run_throw_iff] at run
    cases run.2
    rfl
  | ok shown =>
    rw [Job.run_lift_bind_ok named, Job.run_log_iff] at run
    cases run.2

theorem classify_of_checked (checked : checkNesting filters c v = .ok l) :
    classify filters v = .ok l := by
  cases classified : classify filters v with
  | error fault =>
    rw [checkNesting, classified] at checked
    cases checked
  | ok l' =>
    rw [checkNesting_of_classify classified, allow] at checked
    split at checked
    · cases checked
    · exact checked

theorem ne_enter (c : Context) (scope : Scope) : c.enter scope ≠ c := by
  intro same
  have deeper : c.depth + 1 = c.depth := congrArg Context.depth same
  omega

theorem nameless_of_stranded {scope : Scope} {fault : Fault}
    (run : Run (push filters d v) c t (.error fault) (c.enter scope)) : IsNameless filters v := by
  -- Only the note about a scope can fail once it is open, and for elements a search has named them
  -- before.
  rcases push_cases run with ⟨_, _, _, _, same⟩ | ⟨l, checked, ⟨_, _, _, same⟩ |
    ⟨t₁, t₂, root, noted, _, looked, note, ends, _⟩⟩
  · exact absurd same (ne_enter c scope)
  · exact absurd same (ne_enter c scope)
  · cases noted with
    | ok _ => cases ends
    | error failure =>
      have unnamed := display_of_depthNote note
      by_cases frame : l.kind = .frame
      · exact ⟨l, classify_of_checked checked, frame, failure, unnamed⟩
      · obtain ⟨shown, named⟩ := display_of_narrowTo frame looked
        rw [unnamed] at named
        cases named

end Scope

namespace Context

def ElementsNamed (c : Context) : Prop :=
  ∀ s ∈ c.scopes, s.isFrame = false → (Value.locator s.locator).Named

theorem kept_elementsNamed : Kept ElementsNamed where
  ofBase _ := fun _ mem => nomatch mem
  enter named _ looked := by
    refine List.forall_mem_cons.mpr ⟨?_, named⟩
    intro element
    exact Scope.display_of_narrowTo (by simpa [Scope.isFrame] using element) looked
  close named := fun s mem => named s (List.mem_of_mem_tail mem)

theorem Reachable.named_onTop {c : Context} (reached : Reachable c) (inside : c.inElement = true) :
    ∃ scope, c.elementScope? = some scope ∧ c.active = some scope.locator ∧
      (Value.locator scope.locator).Named := by
  obtain ⟨scope, found, active⟩ :=
    elementScope?_of_onTop ((inElement_iff_onTop reached.layered).mp inside)
  obtain ⟨element, _⟩ := List.find?_eq_some_iff_append.mp found
  exact ⟨scope, found, active, reached.keeps kept_elementsNamed scope
    (List.mem_of_find?_eq_some found) (by simpa using element)⟩

end Context

end ElementSearch
