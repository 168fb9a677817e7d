import ElementSearch.Scope

/-! Runs of scripts.
A run is one path through a script: what was asked, what was answered, and the value at its end.
Every sequence of answers is some run, so a statement about all runs holds whatever the world
does; `against` is the run in which a given world answers, which may look at all that was asked
before. -/

namespace ElementSearch

structure Exchange where
  request : Request
  answer : request.Answer

/-- Answers to requests, each of which may depend on the exchanges before it, earliest first. -/
abbrev Responder := List Exchange → (r : Request) → r.Answer

namespace Script

variable {α β : Type}

inductive Run : Script α → List Exchange → α → Prop
  | done (a : α) : Run (done a) [] a
  | ask {r : Request} {next : r.Answer → Script α} {t : List Exchange} {a : α}
      (answer : r.Answer) (rest : Run (next answer) t a) : Run (ask r next) (⟨r, answer⟩ :: t) a

def against (world : Responder) (past : List Exchange) : Script α → List Exchange × α
  | done a => ([], a)
  | ask r next =>
    let answer := world past r
    let rest := against world (past ++ [⟨r, answer⟩]) (next answer)
    (⟨r, answer⟩ :: rest.1, rest.2)

theorem run_against (world : Responder) (past : List Exchange) (s : Script α) :
    Run s (against world past s).1 (against world past s).2 := by
  induction s generalizing past with
  | done a => exact .done a
  | ask r next ih => exact .ask (world past r) (ih (world past r) _)

@[simp] theorem run_done_iff {a b : α} {t : List Exchange} :
    Run (done a) t b ↔ t = [] ∧ b = a := by
  constructor
  · intro run
    cases run
    exact ⟨rfl, rfl⟩
  · rintro ⟨rfl, rfl⟩
    exact .done b

theorem run_ask_iff {r : Request} {next : r.Answer → Script α} {t : List Exchange} {a : α} :
    Run (ask r next) t a ↔
      ∃ answer rest, t = ⟨r, answer⟩ :: rest ∧ Run (next answer) rest a := by
  constructor
  · intro run
    cases run with
    | ask answer rest => exact ⟨answer, _, rfl, rest⟩
  · rintro ⟨answer, rest, rfl, run⟩
    exact .ask answer run

@[simp] theorem run_request_iff {r : Request} {t : List Exchange} {answer : r.Answer} :
    Run (request r) t answer ↔ t = [⟨r, answer⟩] := by
  simp only [request, run_ask_iff, run_done_iff]
  constructor
  · rintro ⟨answer', rest, rfl, rfl, rfl⟩
    rfl
  · intro h
    exact ⟨answer, [], h, rfl, rfl⟩

theorem run_bind_iff {s : Script α} {f : α → Script β} {t : List Exchange} {b : β} :
    Run (s >>= f) t b ↔ ∃ t₁ t₂ a, t = t₁ ++ t₂ ∧ Run s t₁ a ∧ Run (f a) t₂ b := by
  induction s generalizing t with
  | done a =>
    simp only [done_bind, run_done_iff]
    constructor
    · intro run
      exact ⟨[], t, a, rfl, ⟨rfl, rfl⟩, run⟩
    · rintro ⟨t₁, t₂, a', rfl, ⟨rfl, rfl⟩, run⟩
      exact run
  | ask r next ih =>
    simp only [ask_bind, run_ask_iff, ih]
    constructor
    · rintro ⟨answer, rest, rfl, t₁, t₂, a, rfl, first, second⟩
      exact ⟨⟨r, answer⟩ :: t₁, t₂, a, rfl, ⟨answer, t₁, rfl, first⟩, second⟩
    · rintro ⟨_, t₂, a, rfl, ⟨answer, t₁, rfl, first⟩, second⟩
      exact ⟨answer, t₁ ++ t₂, rfl, t₁, t₂, a, rfl, first, second⟩

theorem against_bind {world : Responder} {past t t' : List Exchange} {s : Script α}
    {f : α → Script β} {a : α} {b : β} (first : against world past s = (t, a))
    (second : against world (past ++ t) (f a) = (t', b)) :
    against world past (s >>= f) = (t ++ t', b) := by
  induction s generalizing past t with
  | done a' =>
    cases first
    simpa using second
  | ask r next ih =>
    obtain ⟨asked, ended⟩ := Prod.mk.inj first
    subst asked
    rw [← List.singleton_append, ← List.append_assoc] at second
    have later := ih (world past r) (Prod.ext rfl ended) second
    rw [ask_bind, against, later, List.cons_append]

theorem Run.unique {s : Script α} {t t' u u' : List Exchange} {a a' : α} (run : Run s t a)
    (run' : Run s t' a') (same : t ++ u = t' ++ u') : t = t' ∧ a = a' := by
  induction run generalizing t' with
  | done a =>
    obtain ⟨rfl, rfl⟩ := run_done_iff.mp run'
    exact ⟨rfl, rfl⟩
  | ask answer rest ih =>
    obtain ⟨answer', _, rfl, rest'⟩ := run_ask_iff.mp run'
    obtain ⟨first, others⟩ := List.cons.inj same
    cases first
    obtain ⟨rfl, rfl⟩ := ih rest' others
    exact ⟨rfl, rfl⟩

end Script

namespace Job

variable {α β : Type}

def Run (j : Job α) (t : List Exchange) (o : Outcome α) : Prop := Script.Run j.run t o

theorem run_ofOutcome_iff {o o' : Outcome α} {t : List Exchange} :
    Run (ofOutcome o) t o' ↔ t = [] ∧ o' = o := Script.run_done_iff

@[simp] theorem run_pure_iff {a : α} {t : List Exchange} {o : Outcome α} :
    Run (pure a) t o ↔ t = [] ∧ o = .ok a := Script.run_done_iff

@[simp] theorem run_throw_iff {fault : Fault} {t : List Exchange} {o : Outcome α} :
    Run (throw fault) t o ↔ t = [] ∧ o = .error fault := Script.run_done_iff

theorem run_bind_iff {j : Job α} {f : α → Job β} {t : List Exchange} {o : Outcome β} :
    Run (j >>= f) t o ↔
      (∃ fault, Run j t (.error fault) ∧ o = .error fault) ∨
        ∃ t₁ t₂ a, t = t₁ ++ t₂ ∧ Run j t₁ (.ok a) ∧ Run (f a) t₂ o := by
  change Script.Run (j.run >>= ExceptT.bindCont f) t o ↔ _
  rw [Script.run_bind_iff]
  constructor
  · rintro ⟨t₁, t₂, first, rfl, run, rest⟩
    cases first with
    | error fault =>
      obtain ⟨rfl, rfl⟩ := Script.run_done_iff.mp rest
      exact .inl ⟨fault, by rwa [List.append_nil], rfl⟩
    | ok a => exact .inr ⟨t₁, t₂, a, rfl, run, rest⟩
  · rintro (⟨fault, run, rfl⟩ | ⟨t₁, t₂, a, rfl, run, rest⟩)
    · exact ⟨t, [], .error fault, by simp, run, Script.run_done_iff.mpr ⟨rfl, rfl⟩⟩
    · exact ⟨t₁, t₂, .ok a, rfl, run, rest⟩

theorem against_bind_ok {world : Responder} {past t t' : List Exchange} {j : Job α}
    {f : α → Job β} {a : α} {o : Outcome β} (first : j.run.against world past = (t, .ok a))
    (second : (f a).run.against world (past ++ t) = (t', o)) :
    (j >>= f).run.against world past = (t ++ t', o) :=
  Script.against_bind (f := ExceptT.bindCont f) first second

theorem against_bind_error {world : Responder} {past t : List Exchange} {j : Job α} {fault : Fault}
    (first : j.run.against world past = (t, .error fault)) (f : α → Job β) :
    (j >>= f).run.against world past = (t, .error fault) := by
  have ended : Script.against world (past ++ t) (ExceptT.bindCont f (.error fault)) =
      ([], .error fault) := rfl
  have both := Script.against_bind first ended
  rwa [List.append_nil] at both

theorem run_lift_bind_ok {o : Outcome α} {a : α} (h : o = .ok a) {f : α → Job β} :
    (liftM o : Job α) >>= f = f a := by
  subst h
  rfl

theorem run_lift_bind_error {o : Outcome α} {fault : Fault} (h : o = .error fault)
    {f : α → Job β} : (liftM o : Job α) >>= f = throw fault := by
  subst h
  rfl

theorem Run.unique {j : Job α} {t t' u u' : List Exchange} {o o' : Outcome α} (run : Run j t o)
    (run' : Run j t' o') (same : t ++ u = t' ++ u') : t = t' ∧ o = o' :=
  Script.Run.unique run run' same

@[simp] theorem run_caught_iff {j : Job α} {t : List Exchange} {o : Outcome (Outcome α)} :
    Run j.caught t o ↔ ∃ o', o = .ok o' ∧ Run j t o' := by
  change Script.Run (j.run >>= fun a => .done (.ok a)) t o ↔ _
  rw [Script.run_bind_iff]
  constructor
  · rintro ⟨t₁, t₂, o', rfl, run, rest⟩
    obtain ⟨rfl, rfl⟩ := Script.run_done_iff.mp rest
    exact ⟨o', rfl, by simpa [Run] using run⟩
  · rintro ⟨o', rfl, run⟩
    exact ⟨t, [], o', by simp, run, .done _⟩

theorem against_caught {world : Responder} {past t : List Exchange} {j : Job α} {o : Outcome α}
    (first : j.run.against world past = (t, o)) : j.caught.run.against world past = (t, .ok o) := by
  rw [← List.append_nil t]
  exact Script.against_bind (f := fun o => .done (Except.ok o)) first rfl

@[simp] theorem run_log_iff {level : Level} {text : String} {t : List Exchange}
    {o : Outcome Unit} :
    Run (log level text) t o ↔ t = [⟨.log ⟨level, text⟩, ()⟩] ∧ o = .ok () := by
  change Script.Run (Script.request (.log ⟨level, text⟩) >>= fun a => .done (.ok a)) t o ↔ _
  rw [Script.run_bind_iff]
  constructor
  · rintro ⟨t₁, t₂, answer, rfl, run, rest⟩
    obtain ⟨rfl, rfl⟩ := Script.run_done_iff.mp rest
    rw [List.append_nil]
    exact ⟨Script.run_request_iff.mp run, rfl⟩
  · rintro ⟨rfl, rfl⟩
    exact ⟨_, [], (), rfl, Script.run_request_iff.mpr rfl, .done _⟩

section Asked

variable {put : α → Outcome β → Exchange} {l : List α}

def answered (put : α → Outcome β → Exchange) (l : List α) (bs : List β) : List Exchange :=
  (l.zip bs).map fun asked => put asked.1 (.ok asked.2)

/-- Something was asked for the members of the list in turn, up to one where the answer is a
fault. -/
def BreaksOff (put : α → Outcome β → Exchange) (l : List α) (t : List Exchange) (fault : Fault) :
    Prop :=
  ∃ before a after bs, l = before ++ a :: after ∧ bs.length = before.length ∧
    t = answered put before bs ++ [put a (.error fault)]

theorem BreaksOff.cons {t : List Exchange} {fault : Fault} (broken : BreaksOff put l t fault)
    (a : α) (b : β) : BreaksOff put (a :: l) (put a (.ok b) :: t) fault := by
  obtain ⟨before, x, after, bs, rfl, long, rfl⟩ := broken
  exact ⟨a :: before, x, after, b :: bs, rfl, by simp [long], rfl⟩

theorem run_mapM_cases {f : α → Job β} (single : ∀ a t o, Run (f a) t o ↔ t = [put a o])
    {t : List Exchange} {o : Outcome (List β)} (run : Run (l.mapM f) t o) :
    (∃ bs, bs.length = l.length ∧ t = answered put l bs ∧ o = .ok bs) ∨
      ∃ fault, BreaksOff put l t fault ∧ o = .error fault := by
  induction l generalizing t o with
  | nil =>
    obtain ⟨rfl, rfl⟩ := run_pure_iff.mp run
    exact .inl ⟨[], rfl, rfl, rfl⟩
  | cons a l ih =>
    rw [List.mapM_cons] at run
    rcases run_bind_iff.mp run with ⟨fault, first, rfl⟩ | ⟨t₁, t₂, b, rfl, first, rest⟩
    · exact .inr ⟨fault, ⟨[], a, l, [], rfl, rfl, (single ..).mp first⟩, rfl⟩
    obtain rfl := (single ..).mp first
    rcases run_bind_iff.mp rest with ⟨fault, others, rfl⟩ | ⟨t₂, t₃, bs, rfl, others, last⟩
    · obtain ⟨_, broken, same⟩ := (ih others).resolve_left (by simp)
      cases same
      exact .inr ⟨fault, broken.cons a b, rfl⟩
    · obtain ⟨rfl, rfl⟩ := run_pure_iff.mp last
      obtain ⟨bs', long, rfl, same⟩ := (ih others).resolve_right (by simp)
      cases same
      exact .inl ⟨b :: bs, by simp [long], by simp [answered], rfl⟩

end Asked

@[simp] theorem run_isVisible_iff {element : Handle} {t : List Exchange} {o : Outcome Bool} :
    Run (isVisible element) t o ↔ t = [⟨.isVisible element, o⟩] := Script.run_request_iff

@[simp] theorem run_optionValue_iff {element : Handle} {t : List Exchange} {o : Outcome Value} :
    Run (optionValue element) t o ↔ t = [⟨.optionValue element, o⟩] := Script.run_request_iff

@[simp] theorem run_gesture_iff {g : Gesture} {t : List Exchange} {o : Outcome Unit} :
    Run (gesture g) t o ↔ t = [⟨.gesture g, o⟩] := Script.run_request_iff

@[simp] theorem run_query_iff {kind value : Value} {root : Handle} {t : List Exchange}
    {o : Outcome (Option (List Handle))} :
    Run (query kind value root) t o ↔ t = [⟨.query kind value root, o⟩] :=
  Script.run_request_iff

end Job

end ElementSearch
