import ElementSearch.Action

/-! Procedures.
A procedure puts moves one after another and nests them in scopes.  A fault leaves every block
around it up to the nearest attempt, which reports what became of its body and goes on. -/

namespace ElementSearch

inductive Move where
  | push (v : Value)
  | pop
  | reset (root : Handle)
  | check (v : Value)
  | root
  | act (action : Action)

inductive Procedure where
  | skip
  | move (m : Move)
  | fail (fault : Fault)
  | seq (first second : Procedure)
  | attempt (body : Procedure)
  | within (v : Value) (body : Procedure)

namespace Procedure

instance : Inhabited Procedure := ⟨skip⟩

def ofList : List Procedure → Procedure
  | [] => skip
  | p :: rest => seq p (ofList rest)

def runMove (actor : Actor) : Move → Scoped Result
  | .push v => do return .root (← Scope.push actor.filters actor.driver v)
  | .pop => do return .dropped (← Scope.pop)
  | .reset root => do
    Scope.reset root
    return .nothing
  | .check v => do
    let l ← Scoped.ofOutcome (Scope.checkNesting actor.filters (← Scoped.context) v)
    return .checked l.kind
  | .root => do return .root (← Scoped.context).root
  | .act action => do return .value (← Scoped.ofJob (actor.perform (← Scoped.context) action))

def reportStage (result : Outcome Result) : Scoped Unit := do
  let c ← Scoped.context
  Scoped.ofJob (ExceptT.lift (.request (.report result c)))

def run (actor : Actor) : Procedure → Scoped Result
  | skip => return .nothing
  | move m => runMove actor m
  | fail fault => throw fault
  | seq first second => do
    let _ ← run actor first
    run actor second
  | attempt body => do
    let outcome ← (run actor body).caught
    reportStage outcome
    return .nothing
  | within v body => Scope.within actor.filters actor.driver v fun root => do
    reportStage (.ok (.entered root))
    let _ ← run actor body
    return .left

end Procedure

end ElementSearch
