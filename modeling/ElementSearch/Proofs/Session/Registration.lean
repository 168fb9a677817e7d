import Mathlib.Data.List.InsertIdx
import ElementSearch.Proofs.Locator.Shorthand
import ElementSearch.Proofs.Stateful

/-! Markers registered in a session.
Every registration adds one filter under the next free number, so after any number of them the
filters in force are those of the markers in order.  Taking a number out erases one of them and
leaves the numbers of the others alone. -/

namespace ElementSearch

namespace Registry

def numbered : Nat → List Filter → Registry
  | _, [] => []
  | first, f :: rest => ⟨some first, f⟩ :: numbered (first + 1) rest

theorem filters_numbered (first : Nat) (fs : List Filter) : (numbered first fs).filters = fs := by
  induction fs generalizing first with
  | nil => rfl
  | cons f rest ih =>
    have others := ih (first + 1)
    rw [filters] at others
    rw [numbered, filters, List.map_cons, others]

theorem filters_remove_numbered (first i : Nat) (fs : List Filter) :
    ((numbered first fs).remove (first + i)).filters = fs.eraseIdx i := by
  induction fs generalizing first i with
  | nil => rfl
  | cons f rest ih =>
    cases i with
    | zero => simp [numbered, remove, filters_numbered]
    | succ i =>
      have later : first + (i + 1) = first + 1 + i := by omega
      have others := ih (first + 1) i
      rw [numbered, remove, List.eraseP_cons_of_neg (by simp)]
      rw [remove, filters, ← later] at others
      rw [filters, List.map_cons, others]
      rfl

end Registry

namespace Session

open Stateful

def registerAll : List Shorthand → Sessional Unit
  | [] => return ()
  | r :: rest => do
    let _ ← register r.marker
    registerAll rest

section Steps

variable (setup : Setup) (registry : Registry) (made : List Filter)

theorem run_register (r : Shorthand) :
    ∃ setup', (register r.marker).run ⟨setup, registry, made⟩ =
      (.ok made.length,
        ⟨setup', registry ++ Registry.numbered made.length [r.filter], made ++ [r.filter]⟩) :=
  ⟨_, rfl⟩

theorem run_registerAll (rs : List Shorthand) :
    ∃ setup', (registerAll rs).run ⟨setup, registry, made⟩ =
      (.ok (),
        ⟨setup', registry ++ Registry.numbered made.length (Shorthand.filters rs),
          made ++ Shorthand.filters rs⟩) := by
  induction rs generalizing setup registry made with
  | nil =>
    refine ⟨setup, ?_⟩
    simp only [Shorthand.filters, List.map_nil, Registry.numbered, List.append_nil]
    rfl
  | cons r rest ih =>
    obtain ⟨setup₁, first⟩ := run_register setup registry made r
    obtain ⟨setup₂, others⟩ := ih setup₁ (registry ++ Registry.numbered made.length [r.filter])
      (made ++ [r.filter])
    refine ⟨setup₂, ?_⟩
    rw [registerAll, run_bind_ok first, others]
    simp [Shorthand.filters, Registry.numbered]

theorem run_remove {n : Nat} (known : n < made.length) :
    (remove n).run ⟨setup, registry, made⟩ = (.ok (), ⟨setup, registry.remove n, made⟩) := by
  have looked : (do
      let handle ← handleOf? made.length n
      return (handle, ← made[handle]?) : Option (Nat × Filter)) = some (n, made[n]) := by
    simp [handleOf?_natural, List.getElem?_eq_getElem known]
  have found : (filterOf n).run ⟨setup, registry, made⟩ =
      (.ok (n, made[n]), ⟨setup, registry, made⟩) := by
    rw [filterOf, run_get_bind]
    simp only [looked]
    rfl
  rw [remove, run_bind_ok found]
  rfl

end Steps

theorem registerAll_ok (rs : List Shorthand) (setup : Setup) (made : List Filter) :
    ∃ s, (registerAll rs).run ⟨setup, [], made⟩ = (.ok (), s) ∧
      s.filters = Shorthand.filters rs := by
  obtain ⟨setup', done⟩ := run_registerAll setup [] made rs
  exact ⟨_, done, Registry.filters_numbered made.length (Shorthand.filters rs)⟩

def takingOut (rs : List Shorthand) (number : Nat) (later : List Shorthand) : Sessional Unit := do
  registerAll rs
  remove number
  registerAll later

theorem takingOut_ok (rs later : List Shorthand) (i : Fin rs.length) (setup : Setup)
    (made : List Filter) :
    ∃ s, (takingOut rs (made.length + i) later).run ⟨setup, [], made⟩ = (.ok (), s) ∧
      s.filters = Shorthand.filters (rs.eraseIdx i ++ later) := by
  have known : made.length + i < (made ++ Shorthand.filters rs).length := by
    rw [List.length_append, Shorthand.filters, List.length_map]
    exact Nat.add_lt_add_left i.isLt _
  obtain ⟨setup₁, registered⟩ := run_registerAll setup [] made rs
  rw [List.nil_append] at registered
  have removed := run_remove setup₁ (Registry.numbered made.length (Shorthand.filters rs)) _ known
  obtain ⟨setup₂, again⟩ := run_registerAll setup₁
    ((Registry.numbered made.length (Shorthand.filters rs)).remove (made.length + i))
    (made ++ Shorthand.filters rs) later
  have done : (takingOut rs (made.length + i) later).run ⟨setup, [], made⟩ =
      (registerAll later).run ⟨setup₁,
        (Registry.numbered made.length (Shorthand.filters rs)).remove (made.length + i),
        made ++ Shorthand.filters rs⟩ := by
    rw [takingOut, run_bind_ok registered, run_bind_ok removed]
  rw [again] at done
  refine ⟨_, done, ?_⟩
  have left := Registry.filters_remove_numbered made.length i (Shorthand.filters rs)
  have added := Registry.filters_numbered (made ++ Shorthand.filters rs).length
    (Shorthand.filters later)
  rw [Registry.filters] at left added
  rw [filters, Registry.filters, List.map_append, left, added]
  simp only [Shorthand.filters, List.map_append, List.eraseIdx_map]

/-- Of markers in a session without other filters the last one that begins a text decides.  Two
neighbours of which neither begins the other may change places, and one that is taken out again
might as well not have been registered, whatever is classified. -/
theorem last_mark_decides (setup : Setup) (made : List Filter) :
    (∀ rs : List Shorthand, ∃ s, (registerAll rs).run ⟨setup, [], made⟩ = (.ok (), s) ∧
      ∀ (text : String) (fallback : Kind) (strict : Bool),
        LocatorOf.classify s.filters fallback strict (.text text) =
          match Shorthand.last? rs text with
          | none => LocatorOf.classify [] fallback strict (.text text)
          | some r => .ok (r.rewrite text)) ∧
    (∀ (before after : List Shorthand) (a b : Shorthand), Shorthand.Apart a b →
      ∃ s s',
        (registerAll (before ++ a :: b :: after)).run ⟨setup, [], made⟩ = (.ok (), s) ∧
        (registerAll (before ++ b :: a :: after)).run ⟨setup, [], made⟩ = (.ok (), s') ∧
        ∀ (v : Value) (fallback : Kind) (strict : Bool),
          LocatorOf.classify s.filters fallback strict v =
            LocatorOf.classify s'.filters fallback strict v) ∧
    ∀ (rs later : List Shorthand) (i : Fin rs.length), ∃ s s',
      (takingOut rs (made.length + i) later).run ⟨setup, [], made⟩ = (.ok (), s) ∧
      (registerAll (rs.eraseIdx i ++ later)).run ⟨setup, [], made⟩ = (.ok (), s') ∧
      ∀ (v : Value) (fallback : Kind) (strict : Bool),
        LocatorOf.classify s.filters fallback strict v =
          LocatorOf.classify s'.filters fallback strict v := by
  refine ⟨fun rs => ?_, fun before after a b apart => ?_, fun rs later i => ?_⟩
  · obtain ⟨s, done, inForce⟩ := registerAll_ok rs setup made
    refine ⟨s, done, fun text fallback strict => ?_⟩
    rw [inForce]
    exact Shorthand.classify_text_filters rs text fallback strict
  · obtain ⟨s, done, inForce⟩ := registerAll_ok (before ++ a :: b :: after) setup made
    obtain ⟨s', done', inForce'⟩ := registerAll_ok (before ++ b :: a :: after) setup made
    refine ⟨s, s', done, done', fun v fallback strict => ?_⟩
    rw [inForce, inForce']
    exact LocatorOf.classify_congr (Shorthand.applyAll_swap apart before after) fallback strict v
  · obtain ⟨s, done, inForce⟩ := takingOut_ok rs later i setup made
    obtain ⟨s', done', inForce'⟩ := registerAll_ok (rs.eraseIdx i ++ later) setup made
    refine ⟨s, s', done, done', fun v fallback strict => ?_⟩
    rw [inForce, inForce']

theorem last_mark_decides_dollar_hash :
    let dollar : Shorthand := ⟨"$", "data-test-id", .path, false⟩
    let hash : Shorthand := ⟨"#", "id", .selector, true⟩
    Shorthand.Apart dollar hash ∧ ∃ s s',
      (registerAll [dollar, hash]).run (initial (.ofText "/home")) = (.ok (), s) ∧
      (registerAll [hash, dollar]).run (initial (.ofText "/home")) = (.ok (), s') ∧
      ∀ (v : Value) (fallback : Kind) (strict : Bool),
        LocatorOf.classify s.filters fallback strict v =
          LocatorOf.classify s'.filters fallback strict v := by
  intro dollar hash
  have apart : Shorthand.Apart dollar hash := by
    constructor <;> decide
  have swap := (last_mark_decides (Settings.initial (.ofText "/home")) []).2.1
  exact ⟨apart, swap [] [] dollar hash apart⟩

end Session

end ElementSearch
