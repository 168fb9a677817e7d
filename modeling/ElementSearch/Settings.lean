import ElementSearch.Script
import ElementSearch.Settings.Files
import ElementSearch.Value.Whole

/-! Settings.
Settings are read when they are first asked for: built-in ones, a file for all, a file for the
present environment, and environment variables, each winning over the ones before it.  Whatever
fails, what was done up to that point stays done. -/

namespace ElementSearch

/-- What is done to the places where log messages go. -/
inductive Sink where
  | removeAll
  /-- options in the order of their names -/
  | add (options : List (String × Value))

structure Setup where
  /-- where the settings are that come with the library -/
  home : Path
  files : Files
  /-- environment variables in the order in which they were first set -/
  bindings : List (String × String)
  /-- the settings directory that was asked for -/
  directory : Option Path
  /-- the settings; there are none until something is loaded -/
  store : Store
  logging : Bool
  /-- latest first -/
  notes : List Note
  /-- latest first -/
  sinks : List Sink

abbrev Configuring := ExceptT Fault (StateM Setup)

namespace Settings

def defaultFormat : String :=
  "<green>\x7btime:YYYY-MM-DD HH:mm:ss\x7d</green> | <level>\x7blevel: <8\x7d</level> | " ++
    "<cyan>\x7bname\x7d</cyan>:<cyan>\x7bfunction\x7d</cyan>:<cyan>\x7bline\x7d</cyan> | " ++
    "<level>\x7bmessage\x7d</level>"

def defaultTimeout : Int := 5000

def markerDefaults : Value :=
  .dict [(.text "enabled", .bool false), (.text "prefix", .text "$"),
    (.text "attribute", .text "data-test-id"), (.text "strategy", .text "xpath"),
    (.text "show_actual", .bool false)]

def defaults : Entries :=
  [(.text "logging", .dict [(.text "level", .text "INFO"), (.text "format", .text defaultFormat)]),
    (.text "locator", .dict [(.text "custom", markerDefaults)]),
    (.text "actions", .dict [(.text "timeout", .int defaultTimeout)])]

/-- The settings file that comes with the library. -/
def standardDocument : Value :=
  .dict
    [(.text "logging", .dict [(.text "level", .text "INFO"), (.text "rotation", .text "10 MB"),
        (.text "retention", .text "7 days")]),
      (.text "locator", .dict [(.text "custom", markerDefaults)]),
      (.text "actions", .dict [(.text "timeout", .int defaultTimeout)])]

def standardDirectory (home : Path) : Path := home.file "config"

def standardFile (home : Path) : Path := (standardDirectory home).file "config.yaml"

def standardFiles (home : Path) : Files :=
  ((Files.write (standardFile home) (some (Sheet.ofValue standardDocument))).run Files.empty).2

def initial (home : Path) : Setup :=
  { home := home
    files := standardFiles home
    bindings := [], directory := none, store := .empty, logging := false, notes := [], sinks := [] }

def note (level : Level) (text : String) : Configuring Unit :=
  modify fun s => { s with notes := ⟨level, text⟩ :: s.notes }

def sink (change : Sink) : Configuring Unit :=
  modify fun s => { s with sinks := change :: s.sinks }

def variableValue? (s : Setup) (name : String) : Option String :=
  (s.bindings.find? fun entry => entry.1 == name).map Prod.snd

def filing {α : Type} (change : Filing α) : Configuring α :=
  ExceptT.mk fun s =>
    let (outcome, files) := change.run s.files
    (outcome, { s with files := files })

def firstThere (files : Files) : List Path → Outcome (Option Path)
  | [] => .ok none
  | p :: rest => do
    if ← files.has p then return some p else firstThere files rest

def directory? (s : Setup) : Outcome (Option Path) :=
  firstThere s.files (match s.directory with
    | some p => [p]
    | none => [Path.ofText "config", standardDirectory s.home])

def environment (s : Setup) : String :=
  match variableValue? s "ENVIRONMENT" with
  | some name => name
  | none => (variableValue? s "ENV").getD "dev"

def builtIn : Store := .ofEntries defaults

/-- A text that cannot be read is an error. -/
def readable (content : Option Sheet) : Outcome Sheet :=
  match content with
  | none => .error .badSettings
  | some sheet => .ok sheet

/-- Uses other settings; the dictionaries that were there before come first. -/
def use (heap : Heap) (store : Store) : Configuring Unit :=
  modify fun s => { s with store := store.behind heap }

/-- Reads a file over settings, if the file exists. -/
def overlay (heap : Heap) (store : Store) (p : Path) (message : String) : Configuring Store := do
  let files := (← get).files
  if ← (files.has p : Outcome Bool) then
    let sheet ← (files.content p >>= readable : Outcome Sheet)
    let merged ← (store.merge sheet : Outcome Store)
    use heap merged
    note .debug (message ++ p.text)
    return merged
  else return store

/-- The keys of a setting that a variable names. -/
def variableKeys (name : String) : Option (List String) :=
  let parts := (Cut.cutPairs '_' name.toList).map String.ofList
  if parts.length > 1 && !"__".toList.isPrefixOf name.toList then
    some (parts.map LetterCase.lower)
  else none

def applyBinding (store : Store) (entry : String × String) : Store :=
  match variableKeys entry.1 with
  | some keys => store.put (.text entry.2) keys
  | none => store

def applyBindings (store : Store) (bindings : List (String × String)) : Store :=
  bindings.foldl applyBinding store

def readDirectory (heap : Heap) (p : Path) : Configuring Store := do
  let store ← overlay heap builtIn (p.file "config.yaml") "Loaded configuration from "
  overlay heap store (p.file (environment (← get) ++ ".yaml")) "Merged environment config: "

def load : Configuring Unit := do
  let heap := (← get).store.heap
  use heap builtIn
  let store ← match ← (directory? (← get) : Outcome (Option Path)) with
    | none => do
      note .debug "No configuration directory found. Using defaults."
      pure builtIn
    | some p => readDirectory heap p
  use heap (applyBindings store (← get).bindings)

def ensureLoaded : Configuring Unit := do
  if (← get).store.entries.isEmpty then load

def find? (store : Store) (key : String) : Option Item :=
  store.heap.lookup (.dict store.root) (Cut.dotted key)

def setting? (key : String) : Configuring (Option Item) := do
  ensureLoaded
  return find? (← get).store key

def getItem (key : String) (fallback : Item) : Configuring Item := do
  return (← setting? key).getD fallback

/-- What a setting looks like. -/
def getValue (key : String) (fallback : Value) : Configuring Value := do
  let found ← setting? key
  return found.elim fallback (← get).store.heap.show

def putItem (key : String) (x : Item) : Configuring Unit := do
  ensureLoaded
  modify fun s => { s with store := s.store.put x (Cut.dotted key) }

/-- New dictionaries, to which nothing leads yet. -/
def make (cells : List Cell) : Configuring Unit :=
  modify fun s => { s with store := s.store.extend cells }

/-- Puts a value whose dictionaries are new. -/
def setValue (key : String) (value : Value) : Configuring Unit := do
  let heap := (← get).store.heap
  let sheet := Sheet.ofValue value
  make (sheet.heap.shift heap.length)
  putItem key (sheet.top.shift heap.length)

def reset : Configuring Unit := modify fun s => { s with store := s.store.forget }

def useDirectory (p : Option Path) : Configuring Unit :=
  modify fun s => { s with directory := p, store := s.store.forget }

/-- A value or, if it is not truthy, the setting under the key. -/
def orSetting (value : Value) (key : String) (fallback : Value) : Configuring Value :=
  if value.isTruthy then return value else getValue key fallback

def capitals (v : Value) : Outcome String :=
  match v with
  | .text s => .ok (LetterCase.upper s)
  | _ => .error .missingAttribute

def addFileSink (level format file : Value) : Configuring Unit :=
  match file with
  | .text name => do
    filing (Files.makeDirectory (Path.ofText name).parent)
    let rotation ← getValue "logging.rotation" "10 MB"
    let retention ← getValue "logging.retention" "7 days"
    sink (.add [("format", format), ("level", level), ("retention", retention),
      ("rotation", rotation), ("sink", file)])
  | _ => throw .wrongType

/-- Sets up logging; only the first time counts. -/
def startLogging (level format file : Value) : Configuring Unit := do
  if !(← get).logging then
    let level ← orSetting level "logging.level" "INFO"
    let level ← (capitals level : Outcome String)
    let format ← orSetting format "logging.format" defaultFormat
    sink .removeAll
    sink (.add [("colorize", .bool true), ("format", format), ("level", level),
      ("sink", .text "stderr")])
    let file ← orSetting file "logging.file" .null
    if file.isTruthy then addFileSink level format file
    modify fun s => { s with logging := true }
    note .debug ("Logger initialized with level: " ++ level)

def reload : Configuring Unit := do
  reset
  modify fun s => { s with logging := false }
  load
  startLogging .null .null .null
  note .info "Configuration reloaded."

def checkVariable (name value : String) : Outcome Unit :=
  if Path.hasNul name || Path.hasNul value then .error (.badValue "embedded null byte")
  else if name.toList.contains '=' then .error (.badValue "illegal environment variable name")
  else if name.isEmpty then .error (.file .refused)
  else .ok ()

/-- A variable that is set again keeps its place. -/
def bind (bindings : List (String × String)) (name value : String) : List (String × String) :=
  if bindings.any fun entry => entry.1 == name then
    bindings.map fun entry => if entry.1 == name then (name, value) else entry
  else bindings ++ [(name, value)]

def setVariable (name : String) (value : Option String) : Configuring Unit := do
  match value with
  | none =>
    modify fun s => { s with bindings := s.bindings.filter fun entry => entry.1 != name }
  | some value =>
    (checkVariable name value : Outcome Unit)
    modify fun s => { s with bindings := Settings.bind s.bindings name value }

def timeout (said : Value) : Configuring Int := do
  let v ← orSetting said "actions.timeout" (.int defaultTimeout)
  (v.whole : Outcome Int)

/-- A switch; as a text it is on for a few words only. -/
def isOn (v : Value) : Bool :=
  match v with
  | .text s => ["true", "1", "yes", "on"].contains (LetterCase.lower s)
  | v => v.isTruthy

end Settings

end ElementSearch
