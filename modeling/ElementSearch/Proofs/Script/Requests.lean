import ElementSearch.Proofs.Script.Run

/-! What a job may ask.
`Asks P` says that every request of a job has the property `P`, whatever the world answers.  It is
closed under all that jobs are built with, so it is read off a job's text, and it holds of every
exchange in a run.  Two properties matter: a search asks the driver at one place only, and what is
done to elements does not ask the driver at all. -/

namespace ElementSearch

namespace Request

def place? : Request → Option Handle
  | query _ _ root | enterFrames root _ | frameAt root _ => some root
  | _ => none

def attachment? : Request → Option Attachment
  | attach attachment => some attachment
  | _ => none

/-- Calls of the driver are at the one place, and nothing is attached to the report. -/
def Searches (root : Handle) (r : Request) : Prop :=
  (∀ place, r.place? = some place → place = root) ∧ r.attachment? = none

def Quiet (r : Request) : Prop := r.place? = none ∧ r.attachment? = none

theorem Quiet.searches {r : Request} (quiet : r.Quiet) (root : Handle) : r.Searches root := by
  refine ⟨?_, quiet.2⟩
  intro place called
  rw [quiet.1] at called
  cases called

end Request

namespace Script

variable {α β : Type} {P : Request → Prop} {s : Script α}

def Asks (P : Request → Prop) : Script α → Prop
  | done _ => True
  | ask r next => P r ∧ ∀ answer, Asks P (next answer)

theorem Asks.bind {f : α → Script β} (first : Asks P s) (others : ∀ a, Asks P (f a)) :
    Asks P (s >>= f) := by
  induction s with
  | done a => exact others a
  | ask r next ih => exact ⟨first.1, fun answer => ih answer (first.2 answer)⟩

theorem asks_request {r : Request} (allowed : P r) : Asks P (request r) :=
  ⟨allowed, fun _ => trivial⟩

theorem Asks.of_run (asks : Asks P s) {t : List Exchange} {a : α} (run : Run s t a) :
    ∀ e ∈ t, P e.request := by
  induction run with
  | done a => exact fun _ mem => nomatch mem
  | ask answer rest ih => exact List.forall_mem_cons.mpr ⟨asks.1, ih (asks.2 answer)⟩

end Script

namespace Job

variable {α β : Type} {P : Request → Prop} {j : Job α}

def Asks (P : Request → Prop) (j : Job α) : Prop := Script.Asks P j.run

theorem Asks.of_run (asks : Asks P j) {t : List Exchange} {o : Outcome α} (run : Run j t o) :
    ∀ e ∈ t, P e.request :=
  Script.Asks.of_run asks run

theorem asks_pure (a : α) : Asks P (pure a : Job α) := trivial

theorem asks_throw (fault : Fault) : Asks P (throw fault : Job α) := trivial

theorem asks_lift (o : Outcome α) : Asks P (liftM o : Job α) := trivial

theorem Asks.bind {f : α → Job β} (first : Asks P j) (others : ∀ a, Asks P (f a)) :
    Asks P (j >>= f) := by
  refine Script.Asks.bind (f := ExceptT.bindCont f) first ?_
  rintro (fault | a)
  · trivial
  · exact others a

theorem asks_asking {s : Script (Outcome α)} (asks : Script.Asks P s) : Asks P (asking s) := asks

theorem asks_report {r : Request} (allowed : P r) :
    Asks P (ExceptT.lift (.request r) : Job r.Answer) :=
  ⟨allowed, fun _ => trivial⟩

theorem Asks.caught (asks : Asks P j) : Asks P j.caught :=
  Script.Asks.bind asks fun _ => trivial

theorem asks_mapM {f : α → Job β} (each : ∀ a, Asks P (f a)) (l : List α) :
    Asks P (l.mapM f) := by
  induction l with
  | nil => exact asks_pure []
  | cons a rest ih =>
    rw [List.mapM_cons]
    exact (each a).bind fun _ => ih.bind fun _ => asks_pure _

theorem asks_filterAuxM {p : α → Job Bool} (each : ∀ a, Asks P (p a)) (l kept : List α) :
    Asks P (List.filterAuxM p l kept) := by
  induction l generalizing kept with
  | nil => exact asks_pure kept
  | cons a rest ih => exact (each a).bind fun _ => ih _

theorem asks_filterM {p : α → Job Bool} (each : ∀ a, Asks P (p a)) (l : List α) :
    Asks P (l.filterM p) :=
  (asks_filterAuxM each l []).bind fun _ => asks_pure _

theorem run_lift_bind_cases {outcome : Outcome α} {f : α → Job β} {t : List Exchange}
    {o : Outcome β} (run : Run ((liftM outcome : Job α) >>= f) t o) :
    (∃ fault, outcome = .error fault ∧ t = [] ∧ o = .error fault) ∨
      ∃ a, outcome = .ok a ∧ Run (f a) t o := by
  cases outcome with
  | error fault =>
    rw [run_lift_bind_error rfl, run_throw_iff] at run
    exact .inl ⟨fault, rfl, run⟩
  | ok a => exact .inr ⟨a, rfl, run⟩

theorem run_lift_bind_ends {outcome : Outcome α} {f : α → Job β} {t : List Exchange} {b : β}
    (run : Run ((liftM outcome : Job α) >>= f) t (.ok b)) :
    ∃ a, outcome = .ok a ∧ Run (f a) t (.ok b) := by
  rcases run_lift_bind_cases run with ⟨_, _, _, impossible⟩ | given
  · cases impossible
  · exact given

theorem run_report_bind {r : Request} {f : r.Answer → Job β} {t : List Exchange}
    {o : Outcome β} :
    Run ((ExceptT.lift (.request r) : Job r.Answer) >>= f) t o ↔
      ∃ answer rest, t = ⟨r, answer⟩ :: rest ∧ Run (f answer) rest o :=
  Script.run_ask_iff

def faultOf (o : Outcome α) : Option Fault :=
  match o with
  | .ok _ => none
  | .error fault => some fault

theorem faultOf_map (f : α → β) (o : Outcome α) : faultOf (o.map f) = faultOf o := by
  cases o <;> rfl

theorem run_titled {title : String} {t : List Exchange} {o : Outcome α}
    (run : Run (titled title j) t o) :
    ∃ inner, t = ⟨.stepStarts title, ()⟩ :: (inner ++ [⟨.stepEnds (faultOf o), ()⟩]) ∧
      Run j inner o := by
  obtain ⟨_, _, rfl, started⟩ := run_report_bind.mp run
  rcases run_bind_iff.mp started with ⟨_, ended, _⟩ | ⟨inner, last, ended, rfl, caught, rest⟩
  · obtain ⟨_, impossible, _⟩ := run_caught_iff.mp ended
    cases impossible
  obtain ⟨ended', same, held⟩ := run_caught_iff.mp caught
  obtain rfl : ended = ended' := Except.ok.inj same
  cases ended with
  | ok a =>
    obtain ⟨_, _, rfl, finished⟩ := run_report_bind.mp rest
    obtain ⟨rfl, rfl⟩ := run_pure_iff.mp finished
    exact ⟨inner, rfl, held⟩
  | error fault =>
    obtain ⟨_, _, rfl, finished⟩ := run_report_bind.mp rest
    obtain ⟨rfl, rfl⟩ := run_throw_iff.mp finished
    exact ⟨inner, rfl, held⟩

theorem against_titled {world : Responder} {past t : List Exchange} {o : Outcome α}
    {title : String}
    (inner : j.run.against world (past ++ [⟨.stepStarts title, ()⟩]) = (t, o)) :
    (titled title j).run.against world past =
      (⟨.stepStarts title, ()⟩ :: (t ++ [⟨.stepEnds (faultOf o), ()⟩]), o) := by
  have started : (ExceptT.lift (.request (.stepStarts title)) : Job Unit).run.against world past =
      ([⟨.stepStarts title, ()⟩], .ok ()) := rfl
  refine against_bind_ok started (against_bind_ok (against_caught inner) ?_)
  cases o <;> rfl

end Job

end ElementSearch
