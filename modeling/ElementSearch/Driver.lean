import ElementSearch.Script

/-! Drivers.
A driver runs one query at a time and enters frames.  The browser's own driver writes queries as
selectors of the browser, names frames one below the other, and turns a refusal of the browser
into a failed query. -/

namespace ElementSearch

structure Driver where
  execute : (kind value : Value) → (root : Handle) → Job (Option (List Handle))
  enter : (root : Handle) → (frames : List Value) → Job Handle

namespace Driver

/-- The driver that hands everything to the world as it is. -/
def direct : Driver := ⟨Job.query, Job.enterFrames⟩

def hostsText (v : Value) : Outcome String := do
  let hosts ← LocatorOf.membersOf v
  let shown ← hosts.mapM Value.display
  return " ".intercalate shown

def selectorOf (kind value : Value) : Outcome String :=
  match kind with
  | .text "css" => do return "css=" ++ (← value.display)
  | .text "xpath" => do return "xpath=" ++ (← value.display)
  | .text "react" => do return "_react=" ++ (← value.display)
  | .text "vue" => do return "_vue=" ++ (← value.display)
  | .text "shadow" => do return "css=" ++ (← hostsText value)
  | kind => do
    let kind ← kind.display
    return kind ++ "=" ++ (← value.display)

def browserKind : Value := .text "pw"

def browserExecute (kind value : Value) (root : Handle) : Job (Option (List Handle)) := do
  let selector ← (selectorOf kind value : Outcome String)
  match ← (Job.query browserKind (.text selector) root).caught with
  | .ok elements => return elements
  | .error (.browser message) => do
    Job.log .debug ("Playwright failed on " ++ selector ++ ": " ++ message)
    throw (Cause.queryFailed kind value (.text message)).fault
  | .error fault => throw fault

def frameSelector (frame : Value) : Outcome String :=
  match frame with
  | .locator l => do
    let query ← l.toQuery
    selectorOf query.kind query.value
  | _ => .error .missingAttribute

def browserEnterAll (root : Handle) : List Value → Job Handle
  | [] => return root
  | frame :: rest => do
    let selector ← (frameSelector frame : Outcome String)
    browserEnterAll (← Job.frameAt root selector) rest

def browserEnter (root : Handle) (frames : List Value) : Job Handle := do
  let last ← browserEnterAll root frames
  let shown ← (frames.mapM Value.display : Outcome (List String))
  Job.log .debug ("Entered frame chain: " ++ Value.listed shown)
  return last

def browser : Driver := ⟨browserExecute, browserEnter⟩

end Driver

end ElementSearch
