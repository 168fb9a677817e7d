import ElementSearch.Proofs.Locator.Classify
import ElementSearch.Proofs.Script.Run
import Mathlib.Data.List.Forall2

/-! What a search asks and what it comes to.
The driver is the one that hands every query to the world, so its answers are any answers: they
may differ from call to call, find nothing in either of the two ways, or be faults.  The main
result fixes the queries and the outcome together, for every value and every world. -/

namespace ElementSearch

/-- A query that reached the driver, and the answer to it. -/
structure Inquiry where
  query : Query
  root : Handle
  answer : Outcome (Option (List Handle))

namespace Inquiry

/-- The elements of the answer; nothing found is the empty list, however it was said. -/
def found (a : Inquiry) : Outcome (List Handle) := a.answer.map fun elements => elements.getD []

def exchange (a : Inquiry) : Exchange := ⟨.query a.query.kind a.query.value a.root, a.answer⟩

def ofExchange? : Exchange → Option Inquiry
  | ⟨.query kind value root, answer⟩ => some ⟨⟨kind, value⟩, root, answer⟩
  | _ => none

def listOf (t : List Exchange) : List Inquiry := t.filterMap ofExchange?

@[simp] theorem listOf_append (t₁ t₂ : List Exchange) :
    listOf (t₁ ++ t₂) = listOf t₁ ++ listOf t₂ := List.filterMap_append

@[simp] theorem listOf_exchange (a : Inquiry) : listOf [a.exchange] = [a] := rfl

end Inquiry

/-- The answer ends the walk through the tiers: something was found, or a failure counts. -/
def Tier.isSettledBy (t : Tier) : Outcome (List Handle) → Bool
  | .ok elements => !elements.isEmpty
  | .error _ => !t.bestEffort

namespace Lookup

def Put (root : Handle) (t : Tier) (a : Inquiry) : Prop := a.query = t.query ∧ a.root = root

/-- The tier was put to the driver and the walk went on. -/
def Passed (root : Handle) (t : Tier) (a : Inquiry) : Prop :=
  Put root t a ∧ t.isSettledBy a.found = false

/-- The tiers are put to the driver in order, each once, up to the first that is settled; its
answer is the outcome, and the empty list if there is none. -/
def Walked (tiers : List Tier) (root : Handle) (asked : List Inquiry)
    (o : Outcome (List Handle)) : Prop :=
  ∃ passed before, List.Forall₂ (Passed root) passed before ∧
    ((∃ t rest a, tiers = passed ++ t :: rest ∧ asked = before ++ [a] ∧ Put root t a ∧
        t.isSettledBy a.found = true ∧ o = a.found) ∨
      (tiers = passed ∧ asked = before ∧ o = .ok []))

/-- The first tier alone: the search cannot say what it is looking for and ends with `fault`. -/
def CutShort (tiers : List Tier) (root : Handle) (fault : Fault) (asked : List Inquiry)
    (o : Outcome (List Handle)) : Prop :=
  ∃ t rest a, tiers = t :: rest ∧ asked = [a] ∧ Put root t a ∧
    o = match a.found with
      | .error failure => .error (if t.bestEffort then fault else failure)
      | .ok _ => .error fault

def announced (l : Locator) (q : Query) : Outcome String := do
  let shown ← (Value.locator l).display
  let kind ← q.kind.display
  let value ← q.value.display
  return "Resolving " ++ shown ++ " as " ++ kind ++ ": " ++ value

def Refused (l : Locator) (o : Outcome (List Handle)) : Prop :=
  match (Value.locator l).display with
  | .ok shown =>
    let message := "Frame locator " ++ shown ++ " can only be used to narrow a search"
    o = .error (.search (.invalidKind l.raw (.text message)) message)
  | .error fault => o = .error fault

/-- One query, whatever comes of it; none if there is no query or its note cannot be worded. -/
def AskedOnce (l : Locator) (root : Handle) (asked : List Inquiry)
    (o : Outcome (List Handle)) : Prop :=
  match l.toQuery with
  | .error fault => asked = [] ∧ o = .error fault
  | .ok q =>
    match announced l q with
    | .error fault => asked = [] ∧ o = .error fault
    | .ok _ => ∃ a : Inquiry, asked = [a] ∧ a.query = q ∧ a.root = root ∧ o = a.found

def SearchedInTiers (l : Locator) (family : Family) (root : Handle) (asked : List Inquiry)
    (o : Outcome (List Handle)) : Prop :=
  match Tier.tiersOf l family with
  | .error fault => asked = [] ∧ o = .error fault
  | .ok tiers =>
    match (Value.locator l).display with
    | .error fault => CutShort tiers root fault asked o
    | .ok _ => Walked tiers root asked o

/-- The queries of a search for `l`, and its outcome.  Without a kind there are none, and the note
about it writes out what the locator was classified from. -/
def Searched (l : Locator) (family : Family) (root : Handle) (asked : List Inquiry)
    (o : Outcome (List Handle)) : Prop :=
  match l.kind with
  | .unknown => asked = [] ∧ o = l.raw.inspect.map fun _ => []
  | .frame => asked = [] ∧ Refused l o
  | .fuzzy => SearchedInTiers l family root asked o
  | _ => AskedOnce l root asked o

section Runs

variable {l : Locator} {family : Family} {root : Handle} {tr : List Exchange}
  {o : Outcome (List Handle)}

theorem run_runQuery_iff {q : Query} :
    Job.Run (runQuery .direct q root) tr o ↔
      ∃ a : Inquiry, a.query = q ∧ a.root = root ∧ tr = [a.exchange] ∧ o = a.found := by
  unfold runQuery
  rw [Job.run_bind_iff]
  constructor
  · rintro (⟨fault, run, rfl⟩ | ⟨t₁, t₂, answer, rfl, run, rest⟩)
    · exact ⟨⟨q, root, .error fault⟩, rfl, rfl, Job.run_query_iff.mp run, rfl⟩
    · obtain ⟨rfl, rfl⟩ := Job.run_pure_iff.mp rest
      have asked := Job.run_query_iff.mp run
      exact ⟨⟨q, root, .ok answer⟩, rfl, rfl, (List.append_nil t₁).trans asked, rfl⟩
  · rintro ⟨⟨q, root, answer⟩, rfl, rfl, rfl, rfl⟩
    cases answer with
    | error fault => exact .inl ⟨fault, Job.run_query_iff.mpr rfl, rfl⟩
    | ok elements =>
      exact .inr ⟨_, [], elements, by simp [Inquiry.exchange], Job.run_query_iff.mpr rfl,
        Job.run_pure_iff.mpr ⟨rfl, rfl⟩⟩

theorem run_runTier {t : Tier} {found : Outcome (Outcome (List Handle))}
    (run : Job.Run (runTier .direct t root) tr found) :
    ∃ a, Put root t a ∧ tr = [a.exchange] ∧
      ((∃ fault, found = .error fault ∧ a.found = .error fault ∧ t.bestEffort = false) ∨
        (found = .ok a.found ∧ ∀ fault, a.found = .error fault → t.bestEffort = true)) := by
  unfold runTier at run
  split at run
  · rename_i lenient
    obtain ⟨o, rfl, asking⟩ := Job.run_caught_iff.mp run
    obtain ⟨a, query, place, rfl, rfl⟩ := run_runQuery_iff.mp asking
    exact ⟨a, ⟨query, place⟩, rfl, .inr ⟨rfl, fun _ _ => lenient⟩⟩
  · rename_i strict
    rcases Job.run_bind_iff.mp run with
      ⟨fault, asking, rfl⟩ | ⟨t₁, t₂, elements, rfl, asking, rest⟩
    · obtain ⟨a, query, place, rfl, failed⟩ := run_runQuery_iff.mp asking
      exact ⟨a, ⟨query, place⟩, rfl, .inl ⟨fault, rfl, failed.symm, by simpa using strict⟩⟩
    · obtain ⟨rfl, rfl⟩ := Job.run_pure_iff.mp rest
      obtain ⟨a, query, place, rfl, given⟩ := run_runQuery_iff.mp asking
      exact ⟨a, ⟨query, place⟩, rfl, .inr ⟨by rw [← given], by simp [← given]⟩⟩

theorem run_noted {level : Level} {text : String} {rest : Job (List Handle)}
    (run : Job.Run (do
      Job.log level text
      rest) tr o) :
    ∃ tail, Inquiry.listOf tr = Inquiry.listOf tail ∧ Job.Run rest tail o := by
  rcases Job.run_bind_iff.mp run with ⟨fault, noting, _⟩ | ⟨t₁, t₂, _, rfl, noting, rest⟩
  · exact absurd (Job.run_log_iff.mp noting).2 (by simp)
  · obtain ⟨rfl, -⟩ := Job.run_log_iff.mp noting
    exact ⟨t₂, rfl, rest⟩

theorem run_worded {shown : Outcome String} {s : String} (named : shown = .ok s)
    {words : String → String} {rest : Job (List Handle)}
    (run : Job.Run (do
      Job.log .debug (words (← (liftM shown : Job String)))
      rest) tr o) :
    ∃ tail, Inquiry.listOf tr = Inquiry.listOf tail ∧ Job.Run rest tail o := by
  rw [Job.run_lift_bind_ok named] at run
  exact run_noted run

theorem run_unworded {shown : Outcome String} {fault : Fault} (unnamed : shown = .error fault)
    {words : String → String} {rest : Job (List Handle)}
    (run : Job.Run (do
      Job.log .debug (words (← (liftM shown : Job String)))
      rest) tr o) :
    tr = [] ∧ o = .error fault := by
  rwa [Job.run_lift_bind_error unnamed, Job.run_throw_iff] at run

theorem walked_cons {t : Tier} {tiers : List Tier} {a : Inquiry} {asked : List Inquiry}
    (head : Passed root t a) (tail : Walked tiers root asked o) :
    Walked (t :: tiers) root (a :: asked) o := by
  obtain ⟨passed, before, all, ending⟩ := tail
  refine ⟨t :: passed, a :: before, .cons head all, ?_⟩
  rcases ending with ⟨t', rest, last, rfl, rfl, ending⟩ | ⟨rfl, rfl, rfl⟩
  · exact .inl ⟨t', rest, last, rfl, rfl, ending⟩
  · exact .inr ⟨rfl, rfl, rfl⟩

theorem walked_of_settled {t : Tier} {rest : List Tier} {a : Inquiry} (put : Put root t a)
    (settled : t.isSettledBy a.found = true) : Walked (t :: rest) root [a] a.found :=
  ⟨[], [], .nil, .inl ⟨t, rest, a, rfl, rfl, put, settled, rfl⟩⟩

theorem walked_of_run {shown : String} (named : (Value.locator l).display = .ok shown)
    {tiers : List Tier} (run : Job.Run (searchTiers .direct l family root tiers) tr o) :
    Walked tiers root (Inquiry.listOf tr) o := by
  -- The induction is on the tiers that are left; what was asked before them is not looked at.
  induction tiers generalizing tr with
  | nil =>
    rw [searchTiers] at run
    obtain ⟨tail, same, rest⟩ := run_worded named run
    obtain ⟨rfl, rfl⟩ := Job.run_pure_iff.mp rest
    exact ⟨[], [], .nil, .inr ⟨rfl, same, rfl⟩⟩
  | cons t tiers ih =>
    rw [searchTiers] at run
    rcases Job.run_bind_iff.mp run with ⟨fault, trying, rfl⟩ | ⟨t₁, t₂, found, rfl, trying, rest⟩
    · obtain ⟨a, put, rfl, ⟨_, same, failed, strict⟩ | ⟨given, _⟩⟩ := run_runTier trying
      · cases same
        rw [← failed]
        exact walked_of_settled put (by simp [failed, Tier.isSettledBy, strict])
      · cases given
    · obtain ⟨a, put, rfl, ⟨_, same, _⟩ | ⟨given, lenient⟩⟩ := run_runTier trying
      · cases same
      cases given
      rw [Inquiry.listOf_append, Inquiry.listOf_exchange, List.singleton_append]
      split at rest
      · rename_i fault failed
        obtain ⟨tail, same, going⟩ := run_worded named rest
        rw [same]
        exact walked_cons ⟨put, by simp [failed, Tier.isSettledBy, lenient fault failed]⟩
          (ih going)
      · rename_i empty
        obtain ⟨tail, same, going⟩ := run_worded named rest
        rw [same]
        exact walked_cons ⟨put, by simp [empty, Tier.isSettledBy]⟩ (ih going)
      · rename_i elements nonempty hit
        obtain ⟨tail, same, ending⟩ := run_worded named rest
        obtain ⟨rfl, rfl⟩ := Job.run_pure_iff.mp ending
        rw [same, ← hit]
        refine walked_of_settled put ?_
        cases elements with
        | nil => exact absurd rfl nonempty
        | cons first others => simp [hit, Tier.isSettledBy]

theorem cutShort_of_run {fault : Fault} (unnamed : (Value.locator l).display = .error fault)
    {t : Tier} {rest : List Tier}
    (run : Job.Run (searchTiers .direct l family root (t :: rest)) tr o) :
    CutShort (t :: rest) root fault (Inquiry.listOf tr) o := by
  rw [searchTiers] at run
  rcases Job.run_bind_iff.mp run with ⟨failure, trying, rfl⟩ | ⟨t₁, t₂, found, rfl, trying, going⟩
  · obtain ⟨a, put, rfl, ⟨_, same, failed, strict⟩ | ⟨given, _⟩⟩ := run_runTier trying
    · cases same
      exact ⟨t, rest, a, rfl, rfl, put, by simp [failed, strict]⟩
    · cases given
  · obtain ⟨a, put, rfl, ⟨_, same, _⟩ | ⟨given, lenient⟩⟩ := run_runTier trying
    · cases same
    cases given
    refine ⟨t, rest, a, rfl, ?_⟩
    split at going
    · rename_i failure failed
      obtain ⟨rfl, rfl⟩ := run_unworded unnamed going
      exact ⟨rfl, put, by simp [failed, lenient failure failed]⟩
    · rename_i empty
      obtain ⟨rfl, rfl⟩ := run_unworded unnamed going
      exact ⟨rfl, put, by simp [empty]⟩
    · rename_i hit
      obtain ⟨rfl, rfl⟩ := run_unworded unnamed going
      exact ⟨rfl, put, by simp [hit]⟩

theorem run_refuseFrame (run : Job.Run (refuseFrame l) tr o) : tr = [] ∧ Refused l o := by
  unfold refuseFrame displayed at run
  unfold Refused
  cases shown : (Value.locator l).display with
  | error fault =>
    rwa [Job.run_lift_bind_error shown, Job.run_throw_iff] at run
  | ok s =>
    rw [Job.run_lift_bind_ok shown, Job.run_throw_iff] at run
    exact run

theorem resolveDirectly_eq (d : Driver) {q : Query} (compiled : l.toQuery = .ok q) :
    resolveDirectly d l root = (do
      Job.log .debug (← (liftM (announced l q) : Job String))
      runQuery d q root) := by
  unfold resolveDirectly displayed announced
  rw [Job.run_lift_bind_ok compiled]
  cases (Value.locator l).display with
  | error fault => rfl
  | ok shown =>
    cases q.kind.display with
    | error fault => rfl
    | ok kind =>
      cases q.value.display with
      | error fault => rfl
      | ok value => rfl

theorem askedOnce_of_run (run : Job.Run (resolveDirectly .direct l root) tr o) :
    AskedOnce l root (Inquiry.listOf tr) o := by
  unfold AskedOnce
  split
  · rename_i fault refused
    unfold resolveDirectly at run
    rw [Job.run_lift_bind_error refused, Job.run_throw_iff] at run
    obtain ⟨rfl, rfl⟩ := run
    exact ⟨rfl, rfl⟩
  rename_i q compiled
  rw [resolveDirectly_eq .direct compiled] at run
  split
  · rename_i fault unworded
    obtain ⟨rfl, rfl⟩ := run_unworded unworded run
    exact ⟨rfl, rfl⟩
  · rename_i words worded
    obtain ⟨tail, same, asking⟩ := run_worded worded run
    obtain ⟨a, query, place, rfl, ending⟩ := run_runQuery_iff.mp asking
    exact ⟨a, same, query, place, ending⟩

theorem familyTiers_ne_nil {raw : String} {tiers : List Tier}
    (built : Tier.familyTiers family raw = .ok tiers) : tiers ≠ [] := by
  cases family with
  | element | clickable | checkable =>
    cases built
    simp [Tier.rawTiers, Tier.clickableTiers, Tier.checkableTiers]
  | field =>
    simp only [Tier.familyTiers, Tier.fieldTiers, bind, Except.bind, pure, Except.pure] at built
    split at built
    · cases built
    · cases built
      simp

theorem tiersOf_ne_nil (fuzzy : l.kind = .fuzzy) {tiers : List Tier}
    (built : Tier.tiersOf l family = .ok tiers) : tiers ≠ [] := by
  simp only [Tier.tiersOf, fuzzy, bind, Except.bind] at built
  split at built
  · cases built
  · exact familyTiers_ne_nil built

theorem searchedInTiers_of_run (fuzzy : l.kind = .fuzzy)
    (run : Job.Run (do
      let tiers ← (liftM (Tier.tiersOf l family) : Job (List Tier))
      searchTiers .direct l family root tiers) tr o) :
    SearchedInTiers l family root (Inquiry.listOf tr) o := by
  unfold SearchedInTiers
  split
  · rename_i fault refused
    rw [Job.run_lift_bind_error refused, Job.run_throw_iff] at run
    obtain ⟨rfl, rfl⟩ := run
    exact ⟨rfl, rfl⟩
  rename_i tiers built
  rw [Job.run_lift_bind_ok built] at run
  split
  · rename_i fault unnamed
    obtain ⟨t, rest, rfl⟩ := List.exists_cons_of_ne_nil (tiersOf_ne_nil fuzzy built)
    exact cutShort_of_run unnamed run
  · rename_i shown named
    exact walked_of_run named run

theorem searched_of_run (run : Job.Run (resolveLocator .direct l family root) tr o) :
    Searched l family root (Inquiry.listOf tr) o := by
  unfold resolveLocator at run
  unfold Searched
  cases kind : l.kind with rw [kind] at run
  | frame =>
    obtain ⟨rfl, refused⟩ := run_refuseFrame run
    exact ⟨rfl, refused⟩
  | unknown =>
    cases written : l.raw.inspect with
    | error fault =>
      obtain ⟨rfl, rfl⟩ := run_unworded written run
      exact ⟨rfl, rfl⟩
    | ok raw =>
      obtain ⟨tail, same, rest⟩ := run_worded written run
      obtain ⟨rfl, rfl⟩ := Job.run_pure_iff.mp rest
      exact ⟨same, rfl⟩
  | fuzzy => exact searchedInTiers_of_run kind run
  | css | xpath | id | name | custom | react | vue | shadow => exact askedOnce_of_run run

end Runs

/-- In every world a search for a value asks and ends as `Searched` says of its locator.  Only a
value that cannot be written out has none, and nothing is asked for it. -/
theorem resolve_searched (v : Value) (family : Family) (root : Handle) (world : Responder) :
    let play := (resolve [] .direct v family root).run.against world []
    match LocatorOf.classify [] .fuzzy false v with
    | .ok l => Searched l family root (Inquiry.listOf play.1) play.2
    | .error fault => (fault = .longNumber ∧ ¬v.Spelled) ∧
      Inquiry.listOf play.1 = [] ∧ play.2 = .error fault := by
  intro play
  have run : Job.Run (resolve [] .direct v family root) play.1 play.2 :=
    Script.run_against world [] (resolve [] .direct v family root).run
  unfold resolve at run
  cases classified : LocatorOf.classify [] .fuzzy false v with
  | ok l =>
    rw [Job.run_lift_bind_ok classified] at run
    exact searched_of_run run
  | error fault =>
    rw [Job.run_lift_bind_error classified, Job.run_throw_iff] at run
    rw [run.1, run.2]
    exact ⟨LocatorOf.longNumber_of_classify .fuzzy v classified, rfl, rfl⟩

def unnamable : Locator := { LocatorOf.make .css "a" .null with output := .int 5 }

/-- A selector that compiles to a query and yet asks nothing: its note comes first. -/
theorem no_query_for_unnamable :
    LocatorOf.classify [] .fuzzy false (.locator unnamable) = .ok unnamable ∧
      unnamable.kind = .css ∧ unnamable.toQuery = .ok ⟨"css", "a"⟩ ∧
      ∀ (family : Family) (root : Handle) (world : Responder),
        let play := (resolve [] .direct (.locator unnamable) family root).run.against world []
        Inquiry.listOf play.1 = [] ∧ play.2 = .error .wrongType := by
  refine ⟨rfl, rfl, rfl, ?_⟩
  intro family root world
  exact ⟨rfl, rfl⟩

end Lookup

end ElementSearch
