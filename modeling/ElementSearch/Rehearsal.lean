import ElementSearch.Procedure

/-! Rehearsals.
A rehearsal plays a script against a world that is written down beforehand: rules that answer
queries by their place in the run, kind, text and root, and elements with their properties.
Everything the script does is recorded, stage by stage. -/

namespace ElementSearch.Rehearsal

inductive Reply where
  | give (names : Option (List String))
  | fail (message : String)
  | raise (fault : Fault)

/-- A condition that is missing holds of every query. -/
structure Rule where
  kind : Option Value
  position : Option Int
  whole : Option String
  part : Option String
  root : Option String
  reply : Reply

structure Properties where
  visible : Bool
  value : Value
  broken : Option String

structure World where
  rules : List Rule
  elements : List (String × Properties)

structure Call where
  root : Handle
  kind : Value
  value : Value

/-- What a script did in one stage, each list latest first. -/
structure Record where
  calls : List Call
  gestures : List Gesture
  /-- starts and ends of report steps -/
  steps : List (String ⊕ Option Fault)
  attachments : List Attachment
  notes : List Note

def Record.empty : Record := ⟨[], [], [], [], []⟩

structure Stage where
  result : Outcome Result
  context : Context
  record : Record

structure Stance where
  world : World
  /-- every stage has a record of its own -/
  separate : Bool
  record : Record
  stages : List Stage

def holdsOf {α : Type} (condition : Option α) (test : α → Bool) : Bool :=
  match condition with
  | none => true
  | some a => test a

def textTest (v : Value) (test : String → Bool) : Bool :=
  match v with
  | .text s => test s
  | _ => false

def Rule.holds (rule : Rule) (position : Nat) (call : Call) : Bool :=
  holdsOf rule.kind (fun kind => kind.same call.kind) &&
    holdsOf rule.position (fun n => n == (position : Int)) &&
    holdsOf rule.whole (fun s => textTest call.value fun t => t == s) &&
    holdsOf rule.part (fun s => textTest call.value fun t => Actor.occursIn s.toList t.toList) &&
    holdsOf rule.root (fun s => s == call.root.shown)

def World.answer (w : World) (position : Nat) (call : Call) : Outcome (Option (List Handle)) :=
  match w.rules.find? fun rule => rule.holds position call with
  | none => .ok (some [])
  | some rule =>
    match rule.reply with
    | .give names => .ok (names.map fun names => names.map .element)
    | .fail message =>
      .error (Cause.queryFailed call.kind call.value (.text message)).fault
    | .raise fault => .error fault

def World.properties (w : World) (element : Handle) : Properties :=
  match element with
  | .element name => ((w.elements.find? fun entry => entry.1 == name).map Prod.snd).getD
      ⟨true, .text name, none⟩
  | .place name => ⟨true, .text name, none⟩

def World.gesture (w : World) (g : Gesture) : Outcome Unit :=
  match (w.properties g.element).broken with
  | some message => .error (.lost message)
  | none => .ok ()

def Stance.recording (s : Stance) (f : Record → Record) : Stance := { s with record := f s.record }

def framesText (root : Handle) (frames : List Value) : Outcome Handle := do
  let shown ← frames.mapM Value.display
  return .place (root.shown ++ "/frame(" ++ ",".intercalate shown ++ ")")

def Stance.stage (s : Stance) (result : Outcome Result) (c : Context) : Stance :=
  { s with
    stages := ⟨result, c, s.record⟩ :: s.stages
    record := if s.separate then .empty else s.record }

def Stance.respond (s : Stance) : (r : Request) → r.Answer × Stance
  | .query kind value root =>
    let call : Call := ⟨root, kind, value⟩
    (s.world.answer s.record.calls.length call,
      s.recording fun record => { record with calls := call :: record.calls })
  | .enterFrames root frames => (framesText root frames, s)
  | .frameAt root selector => (.place (root.shown ++ " >> " ++ selector), s)
  | .isVisible element => (.ok (s.world.properties element).visible, s)
  | .optionValue element => (.ok (s.world.properties element).value, s)
  | .gesture g =>
    (s.world.gesture g, s.recording fun record => { record with gestures := g :: record.gestures })
  | .log note => ((), s.recording fun record => { record with notes := note :: record.notes })
  | .attach attachment =>
    ((), s.recording fun record => { record with attachments := attachment :: record.attachments })
  | .stepStarts title =>
    ((), s.recording fun record => { record with steps := .inl title :: record.steps })
  | .stepEnds fault =>
    ((), s.recording fun record => { record with steps := .inr fault :: record.steps })
  | .report result c => ((), s.stage result c)

def play {α : Type} (script : Script α) (s : Stance) : α × Stance :=
  match script with
  | .done a => (a, s)
  | .ask r next =>
    let (answer, s) := s.respond r
    play (next answer) s

def start (w : World) (separate : Bool) (notes : List Note) : Stance :=
  ⟨w, separate, { Record.empty with notes := notes.reverse }, []⟩

end ElementSearch.Rehearsal
