import ElementSearch.Fault

/-! Computations with a state that may end in a fault.
A fault keeps the state that it was met in.  A run in two steps goes on with what the first one
left, or ends with its fault. -/

namespace ElementSearch.Stateful

variable {σ α β : Type} {x : ExceptT Fault (StateM σ) α} {f : α → ExceptT Fault (StateM σ) β}
  {s s' : σ}

theorem run_bind (x : ExceptT Fault (StateM σ) α) (f : α → ExceptT Fault (StateM σ) β) (s : σ) :
    (x >>= f).run s =
      match x.run s with
      | (.ok a, s') => (f a).run s'
      | (.error fault, s') => (.error fault, s') := by
  change (ExceptT.bindCont f (x.run s).1) (x.run s).2 = _
  cases x.run s with
  | mk outcome next => cases outcome <;> rfl

theorem run_bind_ok {a : α} (first : x.run s = (.ok a, s')) : (x >>= f).run s = (f a).run s' := by
  rw [run_bind, first]

theorem run_bind_error {fault : Fault} (first : x.run s = (.error fault, s')) :
    (x >>= f).run s = (.error fault, s') := by
  rw [run_bind, first]

theorem run_get_bind (g : σ → ExceptT Fault (StateM σ) β) (s : σ) :
    ((get : ExceptT Fault (StateM σ) σ) >>= g).run s = (g s).run s := rfl

theorem run_lift_bind_ok {o : Outcome α} {a : α} (lifted : o = .ok a) :
    ((liftM o : ExceptT Fault (StateM σ) α) >>= f).run s = (f a).run s := by
  subst lifted
  rfl

theorem run_lift_bind_error {o : Outcome α} {fault : Fault} (lifted : o = .error fault) :
    ((liftM o : ExceptT Fault (StateM σ) α) >>= f).run s = (.error fault, s) := by
  subst lifted
  rfl

end ElementSearch.Stateful
