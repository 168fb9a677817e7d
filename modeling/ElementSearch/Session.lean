import ElementSearch.Locator.Marker
import ElementSearch.Locator.Template
import ElementSearch.Settings

/-! Sessions.
A session is a setup and the filters that its locators go through.  Filters are numbered as they
are made; a number stands for the filter when it is registered again or taken out.  A marker that
cannot be announced is in force all the same, but no number stands for it. -/

namespace ElementSearch

structure Session where
  setup : Setup
  registry : Registry
  /-- all filters ever made, in order -/
  made : List Filter

abbrev Sessional := ExceptT Fault (StateM Session)

namespace Session

variable {α : Type}

def initial (home : Path) : Session := ⟨Settings.initial home, [], []⟩

def filters (s : Session) : List Filter := s.registry.filters

def configuring (change : Configuring α) : Sessional α :=
  ExceptT.mk fun s =>
    let (outcome, setup) := change.run s.setup
    (outcome, { s with setup := setup })

def make (filter : Filter) : Sessional Nat := do
  let handle := (← get).made.length
  modify fun s => { s with
    made := s.made ++ [filter], registry := s.registry.add ⟨some handle, filter⟩ }
  return handle

/-- Registers a filter without a number. -/
def putInForce (filter : Filter) : Sessional Unit :=
  modify fun s => { s with registry := s.registry.add ⟨none, filter⟩ }

def register (m : Marker) : Sessional Nat := do
  match m.announcement with
  | .ok message =>
    configuring (Settings.note .debug message)
    make m.filter
  | .error fault =>
    putInForce m.filter
    throw fault

def markerOf : List (Value × Value) → Value → Marker → Outcome Marker
  | [], strategy, m => do return { m with strategy := ← Strategy.read strategy }
  | (.text "prefix", v) :: rest, strategy, m => markerOf rest strategy { m with mark := v }
  | (.text "attribute", v) :: rest, strategy, m =>
    markerOf rest strategy { m with attributeName := v }
  | (.text "strategy", v) :: rest, _, m => markerOf rest v m
  | (.text "show_actual", v) :: rest, strategy, m =>
    markerOf rest strategy { m with showActual := v.isTruthy }
  | _ :: _, _, _ => .error .wrongType

def custom (arguments : Value) : Sessional Nat := do
  match arguments with
  | .dict entries =>
    let m ← (markerOf entries (.text Strategy.path.label) .standard : Outcome Marker)
    register m
  | _ => throw .wrongType

/-- Registers the marker of the settings if it is switched on there. -/
def install : Sessional (Option Nat) := do
  let setting (name : String) (fallback : Value) : Sessional Value :=
    configuring (Settings.getValue ("locator.custom." ++ name) fallback)
  if Settings.isOn (← setting "enabled" (.bool false)) then
    let mark ← setting "prefix" Marker.defaultMark
    let name ← setting "attribute" Marker.defaultAttribute
    let strategy ← setting "strategy" Strategy.path.label
    let showActual ← setting "show_actual" (.bool false)
    let strategy ← (Strategy.read strategy : Outcome Strategy)
    return some (← register ⟨mark, name, strategy, Settings.isOn showActual⟩)
  else return none

def count : Sessional Nat := do return (← get).registry.length

def addTemplate (t : Template) : Sessional Nat := do
  let _ ← make t.filter
  count

/-- The place of a number among the filters made; negative ones count from the latest. -/
def handleOf? (made : Nat) (n : Int) : Option Nat :=
  let place := if n < 0 then made + n else n
  if 0 ≤ place then some place.toNat else none

def filterOf (n : Int) : Sessional (Nat × Filter) := do
  let made := (← get).made
  let found := do
    let handle ← handleOf? made.length n
    return (handle, ← made[handle]?)
  match found with
  | some numbered => return numbered
  | none => throw .unknownNumber

def addAgain (n : Int) : Sessional Nat := do
  let (handle, filter) ← filterOf n
  modify fun s => { s with registry := s.registry.add ⟨some handle, filter⟩ }
  count

def remove (n : Int) : Sessional Unit := do
  let (handle, _) ← filterOf n
  modify fun s => { s with registry := s.registry.remove handle }

def clear : Sessional Unit := modify fun s => { s with registry := [] }

theorem handleOf?_natural (made n : Nat) : handleOf? made n = some n := by
  have natural : ¬(n : Int) < 0 := by omega
  simp [handleOf?, natural]

end Session

end ElementSearch
