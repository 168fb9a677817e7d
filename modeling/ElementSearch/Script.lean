import ElementSearch.Report
import ElementSearch.Scope.Context

/-! Scripts.
A script asks the outside world for one thing after another and goes on from the answer; what
the world answers is not its concern, so a statement about a script holds for every browser.
A job is a script that may end in a fault. -/

namespace ElementSearch

inductive Level where
  | debug
  | info
  | warning
  | error
deriving DecidableEq

def Level.label : Level → String
  | debug => "DEBUG"
  | info => "INFO"
  | warning => "WARNING"
  | error => "ERROR"

structure Note where
  level : Level
  text : String
deriving DecidableEq

inductive Verb where
  | click
  | doubleClick
  | fill
  | clear
  | check
  | uncheck
  | selectOption
deriving DecidableEq

def Verb.label : Verb → String
  | click => "click"
  | doubleClick => "dblclick"
  | fill => "fill"
  | clear => "clear"
  | check => "check"
  | uncheck => "uncheck"
  | selectOption => "select_option"

/-- An interaction with an element; options stand in the order of their names. -/
structure Gesture where
  element : Handle
  verb : Verb
  arguments : List Value
  options : List (String × Value)

inductive Result where
  | nothing
  | entered (root : Handle)
  | left
  | root (root : Handle)
  | dropped (scope : Option Scope)
  | checked (kind : Kind)
  | value (v : Value)

inductive Request where
  | query (kind value : Value) (root : Handle)
  /-- a driver of its own enters a chain of frames -/
  | enterFrames (root : Handle) (frames : List Value)
  /-- the frame that a selector names below a place -/
  | frameAt (root : Handle) (selector : String)
  | isVisible (element : Handle)
  | optionValue (element : Handle)
  | gesture (g : Gesture)
  | log (note : Note)
  | attach (attachment : Attachment)
  | stepStarts (title : String)
  | stepEnds (fault : Option Fault)
  /-- a stage of a procedure is over -/
  | report (result : Outcome Result) (context : Context)

/-- The world's answers; nothing found may be said in two ways. -/
@[reducible] def Request.Answer : Request → Type
  | query .. => Outcome (Option (List Handle))
  | enterFrames .. => Outcome Handle
  | frameAt .. => Handle
  | isVisible _ => Outcome Bool
  | optionValue _ => Outcome Value
  | gesture _ => Outcome Unit
  | log _ => Unit
  | attach _ => Unit
  | stepStarts _ => Unit
  | stepEnds _ => Unit
  | report .. => Unit

inductive Script (α : Type) where
  | done (a : α)
  | ask (r : Request) (next : r.Answer → Script α)

namespace Script

variable {α β γ : Type}

def bind (s : Script α) (f : α → Script β) : Script β :=
  match s with
  | done a => f a
  | ask r next => ask r fun answer => (next answer).bind f

instance : Monad Script where
  pure := done
  bind := bind

def request (r : Request) : Script r.Answer := ask r done

@[simp] theorem done_bind (a : α) (f : α → Script β) : done a >>= f = f a := rfl

@[simp] theorem ask_bind (r : Request) (next : r.Answer → Script α) (f : α → Script β) :
    ask r next >>= f = ask r fun answer => next answer >>= f := rfl

theorem bind_done (s : Script α) : s >>= done = s := by
  induction s with
  | done a => rfl
  | ask r next ih => exact congrArg (ask r) (funext ih)

theorem bind_assoc (s : Script α) (f : α → Script β) (g : β → Script γ) :
    s >>= f >>= g = s >>= fun a => f a >>= g := by
  induction s with
  | done a => rfl
  | ask r next ih => exact congrArg (ask r) (funext ih)

instance : LawfulMonad Script :=
  LawfulMonad.mk' Script bind_done (fun _ _ => rfl) bind_assoc

end Script

abbrev Job := ExceptT Fault Script

namespace Job

variable {α : Type}

def ofOutcome (outcome : Outcome α) : Job α := ExceptT.mk (pure outcome)

instance : MonadLift Outcome Job := ⟨ofOutcome⟩

def asking (s : Script (Outcome α)) : Job α := ExceptT.mk s

def query (kind value : Value) (root : Handle) : Job (Option (List Handle)) :=
  asking (.request (.query kind value root))

def enterFrames (root : Handle) (frames : List Value) : Job Handle :=
  asking (.request (.enterFrames root frames))

def frameAt (root : Handle) (selector : String) : Job Handle :=
  ExceptT.lift (.request (.frameAt root selector))

def isVisible (element : Handle) : Job Bool := asking (.request (.isVisible element))

def optionValue (element : Handle) : Job Value := asking (.request (.optionValue element))

def gesture (g : Gesture) : Job Unit := asking (.request (.gesture g))

def log (level : Level) (text : String) : Job Unit :=
  ExceptT.lift (.request (.log ⟨level, text⟩))

def attach (attachment : Attachment) : Job Unit := ExceptT.lift (.request (.attach attachment))

/-- The job's outcome as a value; faults end here. -/
def caught (t : Job α) : Job (Outcome α) := ExceptT.lift t.run

def titled (title : String) (t : Job α) : Job α := do
  ExceptT.lift (.request (.stepStarts title))
  match ← t.caught with
  | .ok a =>
    ExceptT.lift (.request (.stepEnds none))
    return a
  | .error fault =>
    ExceptT.lift (.request (.stepEnds (some fault)))
    throw fault

end Job

end ElementSearch
