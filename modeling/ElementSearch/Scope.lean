import ElementSearch.Lookup

/-! Opening and leaving scopes.
An element narrows the search to what is below it, a frame to what is inside it; a frame cannot
be entered from inside the scope of an element.  What a failing operation has done to the
context stays done, so the context is an answer beside the outcome. -/

namespace ElementSearch

/-- A job that may change the context, whether it ends in a fault or not. -/
abbrev Scoped := ExceptT Fault (StateT Context Script)

namespace Scoped

variable {α β : Type}

def ofJob (t : Job α) : Scoped α :=
  ExceptT.mk fun c => do return (← t.run, c)

instance : MonadLift Job Scoped := ⟨ofJob⟩

def ofOutcome (outcome : Outcome α) : Scoped α := ofJob (.ofOutcome outcome)

def context : Scoped Context := ExceptT.mk fun c => pure (.ok c, c)

def setContext (c : Context) : Scoped Unit := ExceptT.mk fun _ => pure (.ok (), c)

/-- The outcome of the job as a value; faults end here and the context stays. -/
def caught (t : Scoped α) : Scoped (Outcome α) :=
  ExceptT.mk fun c => do
    let (outcome, c) ← t.run c
    return (.ok outcome, c)

@[simp] theorem run_ofJob (t : Job α) (c : Context) :
    (ofJob t).run c = t.run >>= fun outcome => .done (outcome, c) := rfl

end Scoped

namespace Scope

def frameChain (l : Locator) : List Value :=
  match l.value with
  | .tuple frames => frames
  | frame => [frame]

/-- Strings that narrow a search are selectors unless they look like XPath. -/
def classify (filters : List Filter) (v : Value) : Outcome Locator :=
  LocatorOf.classify filters .css false v

def notFound (l : Locator) : Fault :=
  (Cause.elementNotFound (.locator l) defaultRole defaultClause).fault

def narrowTo (d : Driver) (l : Locator) (root : Handle) : Job Handle :=
  if l.kind = .frame then d.enter root (frameChain l)
  else do
    match ← Lookup.resolveLocator d l .element root with
    | [] => throw (notFound l)
    | first :: _ => return first

def narrow (filters : List Filter) (d : Driver) (v : Value) (root : Handle) : Job Handle := do
  let l ← (classify filters v : Outcome Locator)
  narrowTo d l root

/-- A frame is refused inside the scope of an element. -/
def allow (c : Context) (l : Locator) : Outcome Locator :=
  if l.kind = .frame && c.inElement then
    .error (Cause.nestedScope (.locator l)
      (match c.elementScope? with
        | some scope => .locator scope.locator
        | none => .null)).fault
  else .ok l

def checkNesting (filters : List Filter) (c : Context) (v : Value) : Outcome Locator := do
  let l ← classify filters v
  allow c l

def depthNote (verb : String) (l : Locator) (depth : Nat) : Job Unit := do
  let shown ← Lookup.displayed l
  Job.log .debug (verb ++ " " ++ shown ++ " (depth " ++ toString depth ++ ")")

def push (filters : List Filter) (d : Driver) (v : Value) : Scoped Handle := do
  let c ← Scoped.context
  let l ← Scoped.ofOutcome (checkNesting filters c v)
  let root ← Scoped.ofJob (narrowTo d l c.root)
  Scoped.setContext (c.enter ⟨l, root⟩)
  Scoped.ofJob (depthNote "Within" l (c.depth + 1))
  return root

def pop : Scoped (Option Scope) := do
  let c ← Scoped.context
  match c.scopes with
  | [] => return none
  | scope :: _ =>
    Scoped.setContext c.close
    Scoped.ofJob (depthNote "Leaving" scope.locator (c.depth - 1))
    return some scope

def reset (root : Handle) : Scoped Unit := Scoped.setContext (.ofBase root)

/-- The body inside a scope, which is left however the body ends. -/
def within {α : Type} (filters : List Filter) (d : Driver) (v : Value) (body : Handle → Scoped α) :
    Scoped α := do
  let root ← push filters d v
  let outcome ← (body root).caught
  let _ ← pop
  Scoped.ofOutcome outcome

end Scope

end ElementSearch
