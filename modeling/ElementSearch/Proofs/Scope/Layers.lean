import ElementSearch.Proofs.Scope.Run

/-! The order of the open scopes.
However a context is used, no frame is ever opened above an element: seen from the innermost
scope outwards there are scopes of elements first and then scopes of frames.  What the guard
looks for in all the scopes is therefore decided by the innermost one. -/

namespace ElementSearch

namespace Context

/-- Scopes of elements, and below them scopes of frames. -/
def Layered (c : Context) : Prop :=
  ∃ elements frames, c.scopes = elements ++ frames ∧ (∀ s ∈ elements, s.isFrame = false) ∧
    ∀ s ∈ frames, s.isFrame = true

def ElementOnTop (c : Context) : Prop :=
  ∃ scope rest, c.scopes = scope :: rest ∧ scope.isFrame = false

variable {c : Context}

theorem layered_ofBase (base : Handle) : (ofBase base).Layered :=
  ⟨[], [], rfl, by simp, by simp⟩

theorem inElement_eq_false (h : c.inElement = false) : ∀ s ∈ c.scopes, s.isFrame = true := by
  simpa [inElement] using h

theorem layered_enter {scope : Scope} (layered : c.Layered)
    (guarded : scope.isFrame = true → c.inElement = false) : (c.enter scope).Layered := by
  by_cases frame : scope.isFrame = true
  · refine ⟨[], scope :: c.scopes, rfl, by simp, ?_⟩
    exact List.forall_mem_cons.mpr ⟨frame, inElement_eq_false (guarded frame)⟩
  · obtain ⟨elements, frames, shape, above, below⟩ := layered
    refine ⟨scope :: elements, frames, ?_, ?_, below⟩
    · rw [enter, shape, List.cons_append]
    · exact List.forall_mem_cons.mpr ⟨by simpa using frame, above⟩

theorem layered_close (layered : c.Layered) : c.close.Layered := by
  obtain ⟨elements, frames, shape, above, below⟩ := layered
  cases elements with
  | nil =>
    refine ⟨[], frames.tail, ?_, by simp, ?_⟩
    · rw [close, shape, List.nil_append, List.nil_append]
    · exact fun s mem => below s (List.mem_of_mem_tail mem)
  | cons scope elements =>
    refine ⟨elements, frames, ?_, (List.forall_mem_cons.mp above).2, below⟩
    rw [close, shape, List.cons_append, List.tail_cons]

theorem inElement_iff_onTop (layered : c.Layered) : c.inElement = true ↔ c.ElementOnTop := by
  obtain ⟨elements, frames, shape, above, below⟩ := layered
  cases elements with
  | nil =>
    rw [List.nil_append] at shape
    have outside : c.inElement = false := by simpa [inElement, shape] using below
    constructor
    · intro inside
      rw [outside] at inside
      contradiction
    · rintro ⟨scope, rest, top, element⟩
      have frame := below scope (by rw [← shape, top]; exact List.mem_cons_self)
      rw [element] at frame
      contradiction
  | cons scope elements =>
    have element := above scope List.mem_cons_self
    constructor
    · exact fun _ => ⟨scope, elements ++ frames, shape, element⟩
    · intro _
      simp [inElement, shape, element]

theorem elementScope?_of_onTop (top : c.ElementOnTop) :
    ∃ scope, c.elementScope? = some scope ∧ c.active = some scope.locator := by
  obtain ⟨scope, rest, shape, element⟩ := top
  exact ⟨scope, by simp [elementScope?, shape, element], by simp [active, shape]⟩

/-- From `c` to a context that operations lead to, one after another, each by an actor, with
answers and with an end of its own; what runs inside a scope may be any job that does no more to
the context than that. -/
inductive Reaches : Context → Context → Prop
  | stay (c : Context) : Reaches c c
  | move {c c₁ c₂ : Context} {actor : Actor} {m : Move} {t : List Exchange} {o : Outcome Result}
      (earlier : Reaches c c₁) (run : Scoped.Run (Procedure.runMove actor m) c₁ t o c₂) :
      Reaches c c₂
  | within {c c₁ c₂ : Context} {α : Type} {actor : Actor} {v : Value} {body : Handle → Scoped α}
      {t : List Exchange} {o : Outcome α} (earlier : Reaches c c₁)
      (inside : ∀ root b t o b', Scoped.Run (body root) b t o b' → Reaches b b')
      (run : Scoped.Run (Scope.within actor.filters actor.driver v body) c₁ t o c₂) :
      Reaches c c₂

/-- A context reached from one in which no scope is open. -/
def Reachable (c : Context) : Prop := ∃ base, Reaches (.ofBase base) c

theorem Reaches.trans {c c₁ c₂ : Context} (first : Reaches c c₁) (second : Reaches c₁ c₂) :
    Reaches c c₂ := by
  induction second with
  | stay => exact first
  | move _ run ih => exact .move (ih first) run
  | within _ inside run ih _ => exact .within (ih first) inside run

end Context

namespace Scope

open Scoped (Run)

variable {c c' : Context} {t : List Exchange} {filters : List Filter} {d : Driver} {v : Value}

theorem checkNesting_of_classify {l : Locator} (h : classify filters v = .ok l) :
    checkNesting filters c v = allow c l := by
  rw [checkNesting, h]
  rfl

theorem allow_of_outside {l : Locator} (h : ¬ (l.kind = .frame ∧ c.inElement = true)) :
    allow c l = .ok l := by
  rw [allow, if_neg (by simpa using h)]

theorem allow_of_inside {l : Locator} (frame : l.kind = .frame) (inside : c.inElement = true)
    {scope : Scope} (found : c.elementScope? = some scope) :
    allow c l = .error (Cause.nestedScope (.locator l) (.locator scope.locator)).fault := by
  rw [allow, if_pos (by simp [frame, inside]), found]

theorem outside_of_checked {l : Locator} (checked : checkNesting filters c v = .ok l)
    (frame : l.kind = .frame) : c.inElement = false := by
  cases classified : classify filters v with
  | error fault =>
    rw [checkNesting, classified] at checked
    cases checked
  | ok l' =>
    rw [checkNesting_of_classify classified, allow] at checked
    split at checked
    · cases checked
    · rename_i outside
      obtain rfl : l' = l := Except.ok.inj checked
      simpa [frame] using outside

theorem layered_of_checked {l : Locator} (root : Handle) (layered : c.Layered)
    (checked : checkNesting filters c v = .ok l) : (c.enter ⟨l, root⟩).Layered := by
  apply Context.layered_enter layered
  intro frame
  exact outside_of_checked checked (by simpa [isFrame] using frame)

end Scope

namespace Context

open Scoped (Run)

/-- A property that holds when no scope is open and that opening and closing a scope keep. -/
structure Kept (P : Context → Prop) : Prop where
  ofBase : ∀ base, P (ofBase base)
  enter : ∀ {filters d v c l root t}, P c → Scope.checkNesting filters c v = .ok l →
    Job.Run (Scope.narrowTo d l c.root) t (.ok root) → P (c.enter ⟨l, root⟩)
  close : ∀ {c}, P c → P c.close

namespace Kept

variable {P : Context → Prop} {c c' : Context} {t : List Exchange} {filters : List Filter}
  {d : Driver} {v : Value}

theorem push {o : Outcome Handle} (kept : Kept P) (holds : P c)
    (run : Run (Scope.push filters d v) c t o c') : P c' := by
  rcases Scope.push_cases run with ⟨_, _, _, _, rfl⟩ | ⟨l, checked, ⟨_, _, _, rfl⟩ |
    ⟨_, _, root, _, _, looked, _, _, rfl⟩⟩
  · exact holds
  · exact holds
  · exact kept.enter holds checked looked

theorem pop {o : Outcome (Option Scope)} (kept : Kept P) (holds : P c)
    (run : Run Scope.pop c t o c') : P c' := by
  rcases Scope.pop_cases run with ⟨_, _, _, rfl⟩ | ⟨_, _, _, _, _, _, rfl⟩
  · exact holds
  · exact kept.close holds

theorem within {α : Type} {body : Handle → Scoped α} {o : Outcome α} (kept : Kept P)
    (inside : ∀ root b t o b', Run (body root) b t o b' → P b → P b') (holds : P c)
    (run : Run (Scope.within filters d v body) c t o c') : P c' := by
  rcases Scope.within_cases run with ⟨_, opened, _⟩ |
    ⟨_, _, _, root, c₁, _, c₂, _, _, opened, ended, closed, _⟩
  · exact kept.push holds opened
  · have entered : P c₁ := kept.push holds opened
    have left : P c₂ := inside root _ _ _ _ ended entered
    exact kept.pop left closed

theorem move {actor : Actor} {m : Move} {o : Outcome Result} (kept : Kept P) (holds : P c)
    (run : Run (Procedure.runMove actor m) c t o c') : P c' := by
  rcases Procedure.runMove_cases run with rfl | ⟨_, l, root, _, _, checked, looked, rfl⟩ |
    ⟨_, rfl⟩ | ⟨root, _, rfl⟩
  · exact holds
  · exact kept.enter holds checked looked
  · exact kept.close holds
  · exact kept.ofBase root

end Kept

variable {P : Context → Prop} {c c' : Context}

theorem Reaches.keeps (kept : Kept P) (reached : Reaches c c') (holds : P c) : P c' := by
  induction reached with
  | stay => exact holds
  | move _ run ih => exact kept.move (ih holds) run
  | within _ _ run ih inside =>
    exact kept.within (fun root b t o b' ended => inside root b t o b' ended) (ih holds) run

theorem Reachable.keeps (kept : Kept P) (reached : Reachable c) : P c := by
  obtain ⟨base, reached⟩ := reached
  exact reached.keeps kept (kept.ofBase base)

theorem kept_layered : Kept Layered where
  ofBase := layered_ofBase
  enter layered checked _ := Scope.layered_of_checked _ layered checked
  close := layered_close

theorem Reachable.layered (reached : Reachable c) : c.Layered := reached.keeps kept_layered

end Context

namespace Procedure

variable {actor : Actor} {c c' : Context} {t : List Exchange}

theorem reaches_of_run {p : Procedure} {o : Outcome Result}
    (run : Scoped.Run (p.run actor) c t o c') : Context.Reaches c c' := by
  induction p generalizing c c' t o with
  | skip =>
    obtain ⟨_, _, rfl⟩ := Scoped.run_pure_iff.mp run
    exact .stay c'
  | move m => exact .move (.stay c) run
  | fail fault =>
    obtain ⟨_, _, rfl⟩ := Scoped.run_throw_iff.mp run
    exact .stay c'
  | seq first second ihFirst ihSecond =>
    rcases Scoped.run_bind_iff.mp run with ⟨_, ended, _⟩ | ⟨_, _, _, c₁, _, ended, rest⟩
    · exact ihFirst ended
    · exact (ihFirst ended).trans (ihSecond rest)
  | attempt body ih =>
    rcases Scoped.run_bind_iff.mp run with ⟨_, tried, _⟩ | ⟨_, _, _, c₁, _, tried, rest⟩
    · obtain ⟨_, _, ended⟩ := Scoped.run_caught_iff.mp tried
      exact ih ended
    · obtain ⟨_, _, ended⟩ := Scoped.run_caught_iff.mp tried
      obtain ⟨_, reported, _⟩ := Scoped.run_map_iff.mp rest
      rw [run_reportStage reported]
      exact ih ended
  | within v body ih =>
    refine .within (.stay c) ?_ run
    intro root b t o b' ended
    rcases Scoped.run_bind_iff.mp ended with ⟨_, reported, _⟩ | ⟨_, _, _, c₁, _, reported, rest⟩
    · rw [run_reportStage reported]
      exact .stay b
    · obtain rfl := run_reportStage reported
      obtain ⟨_, finished, _⟩ := Scoped.run_map_iff.mp rest
      exact ih finished

end Procedure

namespace Context

/-- What the order of the scopes comes to: the innermost scope decides whether a frame may be
opened, and it is the one that a refusal names. -/
theorem Reachable.innermost_decides {c : Context} (reached : Reachable c) :
    c.Layered ∧ (c.inElement = true ↔ c.ElementOnTop) ∧
      ∀ (filters : List Filter) (v : Value) (l : Locator), Scope.classify filters v = .ok l →
        (¬ (l.kind = .frame ∧ c.ElementOnTop) → Scope.checkNesting filters c v = .ok l) ∧
        (l.kind = .frame → c.ElementOnTop → ∃ active, c.active = some active ∧
          Scope.checkNesting filters c v =
            .error (Cause.nestedScope (.locator l) (.locator active)).fault ∧
          ∀ d : Driver, (Scope.push filters d v).run c =
            .done (.error (Cause.nestedScope (.locator l) (.locator active)).fault, c)) := by
  have layered := reached.layered
  refine ⟨layered, inElement_iff_onTop layered, ?_⟩
  intro filters v l classified
  rw [Scope.checkNesting_of_classify classified]
  constructor
  · intro allowed
    exact Scope.allow_of_outside (by rwa [inElement_iff_onTop layered])
  · intro frame top
    obtain ⟨scope, found, active⟩ := elementScope?_of_onTop top
    have inside : c.inElement = true := (inElement_iff_onTop layered).mpr top
    have refused := Scope.allow_of_inside frame inside found
    refine ⟨scope.locator, active, refused, ?_⟩
    intro d
    exact Scope.push_of_refused ((Scope.checkNesting_of_classify classified).trans refused)

def obliging : Responder := fun _ r =>
  match r with
  | .query .. => .ok (some [.element "card"])
  | .enterFrames .. => .ok (.place "inner")
  | .frameAt .. => .place "inner"
  | .isVisible _ => .ok true
  | .optionValue _ => .ok .null
  | .gesture _ => .ok ()
  | .log _ | .attach _ | .stepStarts _ | .stepEnds _ | .report .. => ()

def innerFrame : Locator := LocatorOf.make .frame "#inner" .null

def card : Locator := LocatorOf.make .css ".card" .null

def openCard : Procedure :=
  .seq (.move (.push (.locator innerFrame))) (.move (.push (.locator card)))

def cardInFrame : Context :=
  ⟨.place "page", [⟨card, .element "card"⟩, ⟨innerFrame, .place "inner"⟩]⟩

theorem innermost_decides_cardInFrame :
    Reachable cardInFrame ∧ cardInFrame.Layered ∧
      ∃ active, cardInFrame.active = some active ∧
        Scope.checkNesting [] cardInFrame (.locator innerFrame) =
          .error (Cause.nestedScope (.locator innerFrame) (.locator active)).fault := by
  have run : Scoped.Run (openCard.run ⟨[], .direct, 0⟩) (.ofBase (.place "page")) _ _ cardInFrame :=
    Script.run_against obliging [] _
  have reached : Reachable cardInFrame := ⟨.place "page", Procedure.reaches_of_run run⟩
  have top : cardInFrame.ElementOnTop := ⟨_, _, rfl, rfl⟩
  obtain ⟨layered, _, decides⟩ := reached.innermost_decides
  obtain ⟨active, named, refused, _⟩ := (decides [] (.locator innerFrame) innerFrame rfl).2 rfl top
  exact ⟨reached, layered, active, named, refused⟩

end Context

end ElementSearch
