import ElementSearch.Css.Path

/-! Why a selector has no query.
In a generic document a translation stops at a construct that is not supported, at a number that is
too long to be written, or at an attribute test without a name. -/

namespace ElementSearch.Css

/-- What can stop a translation for a generic document. -/
def Refusal.IsGeneric : Refusal → Prop
  | .unsupported _ | .longNumber | .namelessGeneric => True
  | .noLanguage | .namelessHtml => False

def Excused {α : Type} (t : Translated α) : Prop :=
  ∀ refusal, t = .error refusal → refusal.IsGeneric

section Closure

variable {α β : Type} {t : Translated α}

theorem excused_ok (a : α) : Excused (.ok a : Translated α) := by
  intro refusal impossible
  cases impossible

theorem excused_unsupported (message : String) :
    Excused (.error (.unsupported message) : Translated α) := by
  intro refusal given
  cases given
  exact trivial

theorem Excused.bind {f : α → Translated β} (first : Excused t) (rest : ∀ a, Excused (f a)) :
    Excused (t >>= f) := by
  intro refusal given
  cases ended : t with
  | error reason =>
    rw [ended] at given
    cases given
    exact first _ ended
  | ok a =>
    rw [ended] at given
    exact rest a refusal given

theorem excused_mapM {f : α → Translated β} (each : ∀ a, Excused (f a)) (items : List α) :
    Excused (items.mapM f) := by
  induction items with
  | nil => exact excused_ok []
  | cons a rest ih =>
    rw [List.mapM_cons]
    exact (each a).bind fun _ => ih.bind fun _ => excused_ok _

end Closure

section Pseudo

variable {name : String} {arguments : List Token} {apply : Step → Translated Step}

theorem excused_checkNamed (s : Step) (pseudo : String) : Excused (checkNamed s pseudo) := by
  unfold checkNamed
  split
  · exact excused_unsupported _
  · exact excused_ok ()

theorem excused_onlyArgument (name : String) (arguments : List Token) :
    Excused (onlyArgument name arguments) := by
  unfold onlyArgument
  split
  · split
    · exact excused_ok _
    · exact excused_unsupported _
  · exact excused_unsupported _

theorem excused_nthStep (s : Step) (arguments : List Token) (last byName : Bool) :
    Excused (nthStep s arguments last byName) := by
  unfold nthStep
  split
  · exact excused_unsupported _
  · dsimp only
    split
    · exact excused_ok _
    split
    · exact excused_ok _
    split
    · split
      · exact excused_ok _
      · intro refusal given
        cases given
        exact trivial
    · exact excused_ok _

theorem excused_pseudo (known : pseudoStep? .generic name = some apply) (s : Step) :
    Excused (apply s) := by
  unfold pseudoStep? at known
  dsimp only at known
  split at known <;> cases known
  all_goals first
    | exact excused_ok _
    | exact (excused_checkNamed s _).bind fun _ => excused_ok _

theorem excused_function (known : functionStep? .generic name arguments = some apply) (s : Step) :
    Excused (apply s) := by
  unfold functionStep? at known
  split at known <;> cases known
  · exact excused_nthStep s arguments false false
  · exact excused_nthStep s arguments true false
  · exact (excused_checkNamed s _).bind fun _ => excused_nthStep s arguments false true
  · exact (excused_checkNamed s _).bind fun _ => excused_nthStep s arguments true true
  · exact (excused_onlyArgument _ arguments).bind fun _ => excused_ok _
  · exact (excused_onlyArgument _ arguments).bind fun _ => excused_ok _

theorem excused_attributeName (test : AttributeTest) : Excused (attributeName .generic test) := by
  unfold attributeName
  split
  · intro refusal given
    cases given
    exact trivial
  · dsimp only
    split <;> exact excused_ok _

end Pseudo

mutual

theorem excused_meaning : (selector : Selector) → Excused (meaning .generic selector)
  | .element _ _ => by
    rw [meaning]
    exact excused_ok _
  | .hash base _ | .cls base _ => by
    rw [meaning]
    exact (excused_meaning base).bind fun _ => excused_ok _
  | .attrib base test => by
    rw [meaning]
    exact (excused_attributeName test).bind fun _ =>
      (excused_meaning base).bind fun _ => excused_ok _
  | .pseudo base name => by
    rw [meaning]
    split
    · exact excused_unsupported _
    · rename_i apply known
      exact (excused_meaning base).bind fun b =>
        (excused_pseudo known b.step).bind fun _ => excused_ok _
  | .function base name arguments => by
    rw [meaning]
    split
    · exact excused_unsupported _
    · rename_i apply known
      exact (excused_meaning base).bind fun b =>
        (excused_function known b.step).bind fun _ => excused_ok _
  | .negation base inner => by
    rw [meaning]
    exact (excused_meaning base).bind fun _ => (excused_meaning inner).bind fun _ => excused_ok _
  | .relation base inner => by
    rw [meaning]
    exact (excused_relatedCondition "" inner).bind fun _ =>
      (excused_meaning base).bind fun _ => excused_ok _
  | .matching base inner => by
    rw [meaning]
    exact (excused_meaning base).bind fun b =>
      (excused_optionStep b.step "" inner).bind fun _ => excused_ok _
  | .combined left _ right => by
    rw [meaning]
    exact (excused_meaning left).bind fun _ => (excused_meaning right).bind fun _ => excused_ok _

theorem excused_relatedCondition (condition : String) :
    (inner : List (Combinator × Selector)) → Excused (relatedCondition .generic condition inner)
  | [] => by
    rw [relatedCondition]
    exact excused_ok _
  | (_, selector) :: rest => by
    rw [relatedCondition]
    exact (excused_meaning selector).bind fun _ => excused_relatedCondition _ rest

theorem excused_optionStep (s : Step) (condition : String) :
    (inner : List Selector) → Excused (optionStep .generic s condition inner)
  | [] => by
    rw [optionStep]
    exact excused_ok _
  | option :: rest => by
    rw [optionStep]
    refine (excused_meaning option).bind fun m => ?_
    split
    · split
      · exact excused_ok _
      · exact excused_optionStep s _ rest
    · exact excused_unsupported _

end

theorem excused_toPath (text : String) : Excused (toPath .generic text) := by
  unfold toPath
  split
  · exact excused_unsupported _
  · refine (excused_mapM (fun chosen => ?_) _).bind fun _ => excused_ok _
    unfold chosenPath
    refine (excused_meaning chosen.selector).bind fun _ => ?_
    split
    · exact excused_unsupported _
    · exact excused_ok _

end ElementSearch.Css
