import ElementSearch.Proofs.Scope.Naming

/-! What blocks leave behind.
The scopes of a context are numbered in the order in which they are opened, so that it can be said
which of them a block closes.  A history lists the blocks that a run went through, innermost first,
and the resets that ran.  The main result: a block gives back the scopes it found, unless the
context was reset on the way or a frame was entered that nothing can name. -/

namespace ElementSearch

/-- A context whose open scopes carry numbers; `next` is the number of the next one. -/
structure Numbered where
  base : Handle
  scopes : List (Nat × Scope)
  next : Nat

namespace Numbered

def plain (s : Numbered) : Context := ⟨s.base, s.scopes.map Prod.snd⟩

/-- Numbers from the outermost scope on. -/
def numbering : List Scope → List (Nat × Scope)
  | [] => []
  | scope :: outer => (outer.length, scope) :: numbering outer

def ofContext (c : Context) : Numbered := ⟨c.base, numbering c.scopes, c.depth⟩

def enter (s : Numbered) (scope : Scope) : Numbered :=
  { s with scopes := (s.next, scope) :: s.scopes, next := s.next + 1 }

def close (s : Numbered) : Numbered := { s with scopes := s.scopes.tail }

def reset (s : Numbered) (root : Handle) : Numbered := { s with base := root, scopes := [] }

def top? (s : Numbered) : Option Nat := s.scopes.head?.map Prod.fst

theorem map_numbering (scopes : List Scope) : (numbering scopes).map Prod.snd = scopes := by
  induction scopes with
  | nil => rfl
  | cons scope outer ih => rw [numbering, List.map_cons, ih]

@[simp] theorem plain_ofContext (c : Context) : (ofContext c).plain = c := by
  rw [plain, ofContext, map_numbering]

@[simp] theorem plain_close (s : Numbered) : s.close.plain = s.plain.close := by
  rw [plain, plain, close, Context.close, List.map_tail]

/-- All but the number that is next. -/
def standing (s : Numbered) : Handle × List (Nat × Scope) := (s.base, s.scopes)

/-- What remains of it after resets to the given roots. -/
def resettled (start : Handle × List (Nat × Scope)) (roots : List Handle) :
    Handle × List (Nat × Scope) :=
  roots.foldl (fun _ root => (root, [])) start

theorem resettled_append (start : Handle × List (Nat × Scope)) (earlier later : List Handle) :
    resettled start (earlier ++ later) = resettled (resettled start earlier) later :=
  List.foldl_append

theorem resettled_concat (start : Handle × List (Nat × Scope)) (earlier : List Handle)
    (root : Handle) : resettled start (earlier ++ [root]) = (root, []) :=
  resettled_append start earlier [root]

theorem plain_eq_of_standing {s s' : Numbered} (same : s'.standing = s.standing) :
    s'.plain = s.plain := by
  obtain ⟨base, scopes⟩ := Prod.mk.inj same
  rw [plain, plain, base, scopes]

theorem plain_eq_ofBase {s : Numbered} {root : Handle} (bare : s.standing = (root, [])) :
    s.plain = .ofBase root := by
  obtain ⟨base, scopes⟩ := Prod.mk.inj bare
  rw [plain, base, scopes]
  rfl

theorem standing_close {s s' : Numbered} {scope : Scope} {roots : List Handle}
    (inside : s'.standing = resettled (s.enter scope).standing roots) :
    s'.close.standing = resettled s.standing roots ∧ (s'.top? = none ∨ s'.top? = some s.next) := by
  rcases List.eq_nil_or_concat roots with rfl | ⟨earlier, root, rfl⟩
  · obtain ⟨base, scopes⟩ := Prod.mk.inj inside
    rw [standing, close, base, scopes, top?, scopes]
    exact ⟨rfl, .inr rfl⟩
  · rw [List.concat_eq_append, resettled_concat] at inside
    obtain ⟨base, scopes⟩ := Prod.mk.inj inside
    rw [List.concat_eq_append, resettled_concat, standing, close, base, scopes, top?, scopes]
    exact ⟨rfl, .inl rfl⟩

end Numbered

inductive Ending where
  /-- the block could not be entered -/
  | refused
  /-- the block could not be entered, and the scope opened for it stays open -/
  | stranded
  /-- the block was left, and the scope of the number was closed if one was open -/
  | left (closed : Option Nat)

/-- A block that is over. -/
structure Block where
  value : Value
  before : Numbered
  after : Numbered
  ending : Ending
  /-- where the resets in the block led, in order -/
  resets : List Handle
  /-- what the stranded blocks in it narrow to, the block itself among them -/
  stranded : List Value

namespace Block

/-- Without a reset the block gives back what it found, and else what the last one left. -/
def Restores (b : Block) : Prop :=
  (b.resets = [] → b.after.plain = b.before.plain) ∧
    ∀ earlier root, b.resets = earlier ++ [root] → b.after.plain = .ofBase root

/-- No scope is closed but the one that was opened for the block. -/
def ClosesOwn (b : Block) : Prop :=
  ∀ number, b.ending = .left (some number) → number = b.before.next

structure Sound (filters : List Filter) (b : Block) : Prop where
  nameless : ∀ v ∈ b.stranded, Scope.IsNameless filters v
  restores : b.stranded = [] → b.Restores ∧ b.ClosesOwn
  stays : b.ending = .stranded → ∃ scope, b.after.plain = b.before.plain.enter scope

theorem restores_of_standing {b : Block}
    (same : b.after.standing = Numbered.resettled b.before.standing b.resets) : b.Restores := by
  constructor
  · intro none
    rw [none] at same
    exact Numbered.plain_eq_of_standing same
  · intro earlier root last
    rw [last, Numbered.resettled_concat] at same
    exact Numbered.plain_eq_ofBase same

end Block

/-- What a run did to scopes; a block comes before those around it. -/
structure History where
  blocks : List Block
  resets : List Handle
  stranded : List Value

namespace History

def nothing : History := ⟨[], [], []⟩

def append (h k : History) : History :=
  ⟨h.blocks ++ k.blocks, h.resets ++ k.resets, h.stranded ++ k.stranded⟩

def around (h : History) (value : Value) (before after : Numbered) (ending : Ending) : History :=
  { h with blocks := h.blocks ++ [⟨value, before, after, ending, h.resets, h.stranded⟩] }

/-- What holds of the history of a run from `s` to `s'`. -/
structure Sound (filters : List Filter) (h : History) (s s' : Numbered) : Prop where
  nameless : ∀ v ∈ h.stranded, Scope.IsNameless filters v
  standing : h.stranded = [] → s'.standing = Numbered.resettled s.standing h.resets
  blocks : ∀ b ∈ h.blocks, b.Sound filters

variable {filters : List Filter} {h k : History} {s s₁ s' : Numbered}

theorem sound_nothing (s : Numbered) : nothing.Sound filters s s :=
  ⟨by simp [nothing], fun _ => rfl, by simp [nothing]⟩

theorem sound_reset (s : Numbered) (root : Handle) :
    Sound filters ⟨[], [root], []⟩ s (s.reset root) :=
  ⟨by simp, fun _ => rfl, by simp⟩

theorem Sound.append (earlier : h.Sound filters s s₁) (later : k.Sound filters s₁ s') :
    (h.append k).Sound filters s s' := by
  refine ⟨?_, ?_, ?_⟩
  · exact List.forall_mem_append.mpr ⟨earlier.nameless, later.nameless⟩
  · intro none
    obtain ⟨noneEarlier, noneLater⟩ := List.append_eq_nil_iff.mp none
    calc s'.standing = Numbered.resettled s₁.standing k.resets := later.standing noneLater
      _ = Numbered.resettled (Numbered.resettled s.standing h.resets) k.resets := by
        rw [earlier.standing noneEarlier]
      _ = Numbered.resettled s.standing (h.resets ++ k.resets) :=
        (Numbered.resettled_append _ _ _).symm
  · exact List.forall_mem_append.mpr ⟨earlier.blocks, later.blocks⟩

theorem sound_around {v : Value} {ending : Ending}
    (nameless : ∀ w ∈ h.stranded, Scope.IsNameless filters w)
    (blocks : ∀ b ∈ h.blocks, b.Sound filters)
    (standing : h.stranded = [] → s'.standing = Numbered.resettled s.standing h.resets)
    (own : h.stranded = [] → ∀ number, ending = .left (some number) → number = s.next)
    (stays : ending = .stranded → ∃ scope, s'.plain = s.plain.enter scope) :
    (h.around v s s' ending).Sound filters s s' := by
  refine ⟨nameless, standing, ?_⟩
  refine List.forall_mem_append.mpr ⟨blocks, List.forall_mem_singleton.mpr ?_⟩
  exact ⟨nameless, fun none => ⟨Block.restores_of_standing (standing none), own none⟩, stays⟩

end History

def Move.isQuiet : Move → Bool
  | .check _ | .root | .act _ => true
  | .push _ | .pop | .reset _ => false

namespace Procedure

open Scoped (Run)

/-- Scopes are opened and closed by blocks only. -/
def IsStructured : Procedure → Prop
  | skip => True
  | move (.reset _) => True
  | move m => m.isQuiet = true
  | fail _ => True
  | seq first second => first.IsStructured ∧ second.IsStructured
  | attempt body => body.IsStructured
  | within _ body => body.IsStructured

def told (result : Outcome Result) (s : Numbered) : Exchange := ⟨.report result s.plain, ()⟩

/-- A run of a structured procedure, with its history. -/
inductive Performed (actor : Actor) :
    Procedure → Numbered → List Exchange → History → Outcome Result → Numbered → Prop
  | skip (s : Numbered) : Performed actor skip s [] .nothing (.ok .nothing) s
  | fail (fault : Fault) (s : Numbered) :
      Performed actor (fail fault) s [] .nothing (.error fault) s
  | reset (root : Handle) (s : Numbered) :
      Performed actor (move (.reset root)) s [] ⟨[], [root], []⟩ (.ok .nothing) (s.reset root)
  | quiet {m : Move} {s : Numbered} {t : List Exchange} {o : Outcome Result}
      (isQuiet : m.isQuiet = true) (run : Run (runMove actor m) s.plain t o s.plain) :
      Performed actor (move m) s t .nothing o s
  | seqFails {first second : Procedure} {s s' : Numbered} {t : List Exchange} {h : History}
      {fault : Fault} (fails : Performed actor first s t h (.error fault) s') :
      Performed actor (seq first second) s t h (.error fault) s'
  | seq {first second : Procedure} {s s₁ s' : Numbered} {t₁ t₂ : List Exchange} {h₁ h₂ : History}
      {r : Result} {o : Outcome Result} (earlier : Performed actor first s t₁ h₁ (.ok r) s₁)
      (later : Performed actor second s₁ t₂ h₂ o s') :
      Performed actor (seq first second) s (t₁ ++ t₂) (h₁.append h₂) o s'
  | attempt {body : Procedure} {s s' : Numbered} {t : List Exchange} {h : History}
      {o : Outcome Result} (tried : Performed actor body s t h o s') :
      Performed actor (attempt body) s (t ++ [told o s']) h (.ok .nothing) s'
  | refused {v : Value} {body : Procedure} {s : Numbered} {t : List Exchange} {fault : Fault}
      (opening : Run (Scope.push actor.filters actor.driver v) s.plain t (.error fault) s.plain) :
      Performed actor (within v body) s t (History.nothing.around v s s .refused)
        (.error fault) s
  | stranded {v : Value} {body : Procedure} {s : Numbered} {t : List Exchange} {fault : Fault}
      {scope : Scope}
      (opening : Run (Scope.push actor.filters actor.driver v) s.plain t (.error fault)
        (s.enter scope).plain) :
      Performed actor (within v body) s t
        (History.around ⟨[], [], [v]⟩ v s (s.enter scope) .stranded) (.error fault)
        (s.enter scope)
  | within {v : Value} {body : Procedure} {s s' : Numbered} {t₁ t₂ t₃ : List Exchange}
      {h : History} {scope : Scope} {root : Handle} {inner : Outcome Result}
      {popped : Outcome (Option Scope)}
      (opening : Run (Scope.push actor.filters actor.driver v) s.plain t₁ (.ok root)
        (s.enter scope).plain)
      (inside : Performed actor body (s.enter scope) t₂ h inner s')
      (closing : Run Scope.pop s'.plain t₃ popped s'.close.plain) :
      Performed actor (within v body) s
        (t₁ ++ (told (.ok (.entered root)) (s.enter scope) :: t₂ ++ t₃))
        (h.around v s s'.close (.left s'.top?))
        (popped.bind fun _ => inner.map fun _ => .left) s'.close

section Runs

variable {actor : Actor} {c c' : Context} {t : List Exchange}

theorem run_reportStage_iff {result : Outcome Result} {o : Outcome Unit} :
    Run (reportStage result) c t o c' ↔ t = [⟨.report result c, ()⟩] ∧ o = .ok () ∧ c' = c := by
  rw [Run, reportStage, Scoped.run_context_bind, ← Run, Scoped.run_ofJob_iff, ← and_assoc]
  refine and_congr_left fun _ => ?_
  change Script.Run (Script.request (.report result c) >>= fun a => .done (.ok a)) t o ↔ _
  rw [Script.run_bind_iff]
  constructor
  · rintro ⟨t₁, t₂, answer, rfl, asked, rest⟩
    obtain ⟨rfl, rfl⟩ := Script.run_done_iff.mp rest
    rw [List.append_nil]
    exact ⟨Script.run_request_iff.mp asked, rfl⟩
  · rintro ⟨rfl, rfl⟩
    exact ⟨_, [], (), rfl, Script.run_request_iff.mpr rfl, .done _⟩

theorem run_move_reset {root : Handle} {o : Outcome Result} :
    Run (runMove actor (.reset root)) c t o c' ↔
      t = [] ∧ o = .ok .nothing ∧ c' = .ofBase root := by
  rw [runMove, Scope.reset, Run, Scoped.run_setContext_bind]
  exact Scoped.run_pure_iff

theorem same_of_quiet {m : Move} {o : Outcome Result} (isQuiet : m.isQuiet = true)
    (run : Run (runMove actor m) c t o c') : c' = c := by
  rcases runMove_cases run with same | ⟨_, _, _, _, rfl, _⟩ | ⟨rfl, _⟩ | ⟨_, rfl, _⟩
  · exact same
  · cases isQuiet
  · cases isQuiet
  · cases isQuiet

theorem entered_of_push {s : Numbered} {v : Value} {root : Handle}
    (run : Run (Scope.push actor.filters actor.driver v) s.plain t (.ok root) c') :
    ∃ scope, c' = (s.enter scope).plain := by
  rcases Scope.push_cases run with ⟨_, _, _, fails, _⟩ | ⟨l, _, ⟨_, _, fails, _⟩ |
    ⟨_, _, found, _, _, _, _, _, entered⟩⟩
  · cases fails
  · cases fails
  · exact ⟨⟨l, found⟩, entered⟩

theorem left_of_pop {s : Numbered} {o : Outcome (Option Scope)}
    (run : Run Scope.pop s.plain t o c') : c' = s.close.plain := by
  rw [Numbered.plain_close]
  rcases Scope.pop_cases run with ⟨bare, _, _, same⟩ | ⟨_, _, _, _, _, _, closed⟩
  · rw [same, Context.close, bare, List.tail_nil, ← bare]
  · exact closed

theorem run_entered {v : Value} {body : Handle → Scoped Result} {t₁ t₂ t₃ : List Exchange}
    {c₁ c₂ : Context} {root : Handle} {inner : Outcome Result} {popped : Outcome (Option Scope)}
    (opening : Run (Scope.push actor.filters actor.driver v) c t₁ (.ok root) c₁)
    (inside : Run (body root) c₁ t₂ inner c₂) (closing : Run Scope.pop c₂ t₃ popped c') :
    Run (Scope.within actor.filters actor.driver v body) c (t₁ ++ (t₂ ++ t₃))
      (popped.bind fun _ => inner) c' := by
  refine Scoped.run_bind_iff.mpr (.inr ⟨t₁, _, root, c₁, rfl, opening, ?_⟩)
  have caught : Run (body root).caught c₁ t₂ (.ok inner) c₂ :=
    Scoped.run_caught_iff.mpr ⟨inner, rfl, inside⟩
  refine Scoped.run_bind_iff.mpr (.inr ⟨t₂, t₃, inner, c₂, rfl, caught, ?_⟩)
  cases popped with
  | error fault => exact Scoped.run_bind_iff.mpr (.inl ⟨fault, closing, rfl⟩)
  | ok scope =>
    have ending : Run (Scoped.ofOutcome inner) c' [] inner c' :=
      Scoped.run_ofOutcome_iff.mpr ⟨rfl, rfl, rfl⟩
    exact Scoped.run_bind_iff.mpr
      (.inr ⟨t₃, [], scope, c', (List.append_nil t₃).symm, closing, ending⟩)

theorem run_body {p : Procedure} {root : Handle} {o : Outcome Result} :
    Run (do
        reportStage (.ok (.entered root))
        let _ ← p.run actor
        return .left) c t o c' ↔
      ∃ t' inner, t = ⟨.report (.ok (.entered root)) c, ()⟩ :: t' ∧
        Run (p.run actor) c t' inner c' ∧ o = inner.map fun _ => .left := by
  rw [Scoped.run_bind_iff]
  constructor
  · rintro (⟨fault, reported, _⟩ | ⟨t₁, t₂, _, c₁, rfl, reported, rest⟩)
    · cases (run_reportStage_iff.mp reported).2.1
    · obtain ⟨rfl, _, rfl⟩ := run_reportStage_iff.mp reported
      obtain ⟨inner, run, ends⟩ := Scoped.run_map_iff.mp rest
      exact ⟨t₂, inner, rfl, run, ends⟩
  · rintro ⟨t', inner, rfl, run, ends⟩
    exact .inr ⟨[_], t', (), c, rfl, run_reportStage_iff.mpr ⟨rfl, rfl, rfl⟩,
      Scoped.run_map_iff.mpr ⟨inner, run, ends⟩⟩

theorem run_attempt_iff {p : Procedure} {o : Outcome Result} :
    Run ((attempt p).run actor) c t o c' ↔
      ∃ t' tried, t = t' ++ [⟨.report tried c', ()⟩] ∧ Run (p.run actor) c t' tried c' ∧
        o = .ok .nothing := by
  change Run ((p.run actor).caught >>= fun outcome => do
    reportStage outcome
    return .nothing) c t o c' ↔ _
  rw [Scoped.run_bind_iff]
  constructor
  · rintro (⟨fault, caught, _⟩ | ⟨t₁, t₂, outcome, c₁, rfl, caught, rest⟩)
    · obtain ⟨_, impossible, _⟩ := Scoped.run_caught_iff.mp caught
      cases impossible
    · obtain ⟨tried, same, run⟩ := Scoped.run_caught_iff.mp caught
      obtain rfl : outcome = tried := Except.ok.inj same
      obtain ⟨_, reported, ends⟩ := Scoped.run_map_iff.mp rest
      obtain ⟨rfl, rfl, rfl⟩ := run_reportStage_iff.mp reported
      exact ⟨t₁, outcome, rfl, run, ends⟩
  · rintro ⟨t', tried, rfl, run, rfl⟩
    refine .inr ⟨t', _, tried, c', rfl, Scoped.run_caught_iff.mpr ⟨tried, rfl, run⟩, ?_⟩
    exact Scoped.run_map_iff.mpr ⟨.ok (), run_reportStage_iff.mpr ⟨rfl, rfl, rfl⟩, rfl⟩

end Runs

section Performances

variable {actor : Actor} {p : Procedure} {t : List Exchange} {o : Outcome Result}

theorem run_of_performed {s s' : Numbered} {h : History} (done : Performed actor p s t h o s') :
    Run (p.run actor) s.plain t o s'.plain := by
  induction done with
  | skip s => exact Scoped.run_pure_iff.mpr ⟨rfl, rfl, rfl⟩
  | fail fault s => exact Scoped.run_throw_iff.mpr ⟨rfl, rfl, rfl⟩
  | reset root s => exact run_move_reset.mpr ⟨rfl, rfl, rfl⟩
  | quiet _ run => exact run
  | seqFails _ ih => exact Scoped.run_bind_iff.mpr (.inl ⟨_, ih, rfl⟩)
  | seq _ _ ihFirst ihSecond =>
    exact Scoped.run_bind_iff.mpr (.inr ⟨_, _, _, _, rfl, ihFirst, ihSecond⟩)
  | attempt _ ih => exact run_attempt_iff.mpr ⟨_, _, rfl, ih, rfl⟩
  | refused opening => exact Scoped.run_bind_iff.mpr (.inl ⟨_, opening, rfl⟩)
  | stranded opening => exact Scoped.run_bind_iff.mpr (.inl ⟨_, opening, rfl⟩)
  | within opening _ closing ih =>
    refine run_entered opening ?_ closing
    exact run_body.mpr ⟨_, _, rfl, ih, rfl⟩

theorem performed_of_run (structured : p.IsStructured) {s : Numbered} {c' : Context}
    (run : Run (p.run actor) s.plain t o c') :
    ∃ h s', Performed actor p s t h o s' ∧ s'.plain = c' := by
  induction p generalizing s c' t o with
  | skip =>
    obtain ⟨rfl, rfl, rfl⟩ := Scoped.run_pure_iff.mp run
    exact ⟨_, s, .skip s, rfl⟩
  | fail fault =>
    obtain ⟨rfl, rfl, rfl⟩ := Scoped.run_throw_iff.mp run
    exact ⟨_, s, .fail fault s, rfl⟩
  | move m =>
    cases m with
    | push _ | pop => cases structured
    | reset root =>
      obtain ⟨rfl, rfl, rfl⟩ := run_move_reset.mp run
      exact ⟨_, s.reset root, .reset root s, rfl⟩
    | check _ | root | act _ =>
      obtain rfl := same_of_quiet structured run
      exact ⟨_, s, .quiet structured run, rfl⟩
  | seq first second ihFirst ihSecond =>
    rcases Scoped.run_bind_iff.mp run with ⟨fault, fails, rfl⟩ | ⟨t₁, t₂, r, c₁, rfl, ended, rest⟩
    · obtain ⟨h, s', done, same⟩ := ihFirst structured.1 fails
      exact ⟨h, s', .seqFails done, same⟩
    · obtain ⟨h₁, s₁, earlier, rfl⟩ := ihFirst structured.1 ended
      obtain ⟨h₂, s', later, same⟩ := ihSecond structured.2 rest
      exact ⟨_, s', .seq earlier later, same⟩
  | attempt body ih =>
    obtain ⟨t', tried, rfl, ended, rfl⟩ := run_attempt_iff.mp run
    obtain ⟨h, s', done, rfl⟩ := ih structured ended
    exact ⟨h, s', .attempt done, rfl⟩
  | within v body ih =>
    rcases Scope.within_cases run with ⟨fault, opening, rfl⟩ |
      ⟨t₁, t₂, t₃, root, c₁, inner, c₂, popped, rfl, opening, ended, closing, ends⟩
    · rcases Scope.push_cases opening with ⟨_, _, _, _, rfl⟩ | ⟨l, _, ⟨_, _, _, rfl⟩ |
        ⟨_, _, root, _, _, _, _, _, rfl⟩⟩
      · exact ⟨_, s, .refused opening, rfl⟩
      · exact ⟨_, s, .refused opening, rfl⟩
      · exact ⟨_, s.enter ⟨l, root⟩, .stranded opening, rfl⟩
    · obtain ⟨scope, rfl⟩ := entered_of_push opening
      obtain ⟨t', result, rfl, body, rfl⟩ := run_body.mp ended
      obtain ⟨h, s', done, rfl⟩ := ih structured body
      obtain rfl := left_of_pop closing
      obtain rfl : o = popped.bind fun _ => result.map fun _ => .left := by
        rcases ends with ⟨fault, rfl, rfl⟩ | ⟨_, rfl, rfl⟩ <;> rfl
      exact ⟨_, s'.close, .within opening done closing, rfl⟩

theorem Performed.sound {s s' : Numbered} {h : History} (done : Performed actor p s t h o s') :
    h.Sound actor.filters s s' := by
  -- The induction is on the run; what a body leaves is compared with the scopes after the opening
  -- of its block, so closing one scope more gets back to the scopes before it.
  induction done with
  | skip s => exact History.sound_nothing s
  | fail fault s => exact History.sound_nothing s
  | reset root s => exact History.sound_reset s root
  | quiet _ _ => exact History.sound_nothing _
  | seqFails _ ih => exact ih
  | seq _ _ ihFirst ihSecond => exact ihFirst.append ihSecond
  | attempt _ ih => exact ih
  | refused _ =>
    refine History.sound_around (by simp [History.nothing]) (by simp [History.nothing])
      (fun _ => rfl) ?_ ?_
    · intro _ number left
      cases left
    · intro stranded
      cases stranded
  | @stranded v _ s _ _ scope opening =>
    have nameless : Scope.IsNameless actor.filters v := Scope.nameless_of_stranded opening
    refine History.sound_around (by simpa using nameless) (by simp) ?_ ?_ ?_
    · intro none
      cases none
    · intro none
      cases none
    · exact fun _ => ⟨scope, rfl⟩
  | @within _ _ s s₂ _ _ _ h _ _ _ _ _ _ _ ih =>
    refine History.sound_around ih.nameless ih.blocks ?_ ?_ ?_
    · exact fun none => (Numbered.standing_close (ih.standing none)).1
    · intro none number left
      have closed : s₂.top? = some number := Ending.left.inj left
      rcases (Numbered.standing_close (ih.standing none)).2 with bare | own
      · rw [bare] at closed
        cases closed
      · rw [own] at closed
        exact (Option.some.inj closed).symm
    · intro stranded
      cases stranded

end Performances

/-- The runs of a structured procedure are those with a history, and each block in it restores the
scopes and closes none but its own, unless a nameless frame was entered in the block: then the
scope of that frame stays open. -/
theorem blocks_restore_scopes (actor : Actor) (p : Procedure) (structured : p.IsStructured)
    (c : Context) :
    (∀ t o c', Run (p.run actor) c t o c' ↔
        ∃ h s', Performed actor p (.ofContext c) t h o s' ∧ s'.plain = c') ∧
      ∀ t h o s', Performed actor p (.ofContext c) t h o s' → ∀ b ∈ h.blocks,
        (b.stranded = [] → b.Restores ∧ b.ClosesOwn) ∧
          (∀ v ∈ b.stranded, Scope.IsNameless actor.filters v) ∧
          (b.ending = .stranded → ∃ scope, b.after.plain = b.before.plain.enter scope) := by
  constructor
  · intro t o c'
    constructor
    · intro run
      exact performed_of_run structured (by rwa [Numbered.plain_ofContext])
    · rintro ⟨h, s', done, rfl⟩
      have run := run_of_performed done
      rwa [Numbered.plain_ofContext] at run
  · intro t h o s' done b mem
    have sound := done.sound.blocks b mem
    exact ⟨sound.restores, sound.nameless, sound.stays⟩

/-- A fault leaves two blocks at once, and after that a reset runs in a third one. -/
def interrupted : Procedure :=
  .seq (.attempt (.within (.locator Context.innerFrame)
      (.within (.locator Context.card) (.fail (.lost "gone")))))
    (.within (.locator Context.card) (.move (.reset (.place "elsewhere"))))

theorem blocks_restore_interrupted :
    interrupted.IsStructured ∧ ∃ t o h s',
      Run (interrupted.run ⟨[], .direct, 0⟩) (.ofBase (.place "page")) t o
        (.ofBase (.place "elsewhere")) ∧
      Performed ⟨[], .direct, 0⟩ interrupted (.ofContext (.ofBase (.place "page"))) t h o s' ∧
      ∀ b ∈ h.blocks, b.stranded = [] → b.Restores ∧ b.ClosesOwn := by
  have structured : interrupted.IsStructured := ⟨⟨⟩, ⟨⟩⟩
  have run : Run (interrupted.run ⟨[], .direct, 0⟩) (.ofBase (.place "page")) _ _
      (.ofBase (.place "elsewhere")) := Script.run_against Context.obliging [] _
  have restore := blocks_restore_scopes ⟨[], .direct, 0⟩ interrupted structured
    (.ofBase (.place "page"))
  obtain ⟨h, s', done, _⟩ := (restore.1 _ _ _).mp run
  exact ⟨structured, _, _, h, s', run, done, fun b mem => (restore.2 _ h _ s' done b mem).1⟩

def namelessFrame : Locator := { Context.innerFrame with output := .int 5 }

def Leads (p : Procedure) (c c' : Context) : Prop :=
  ∃ t o, Run (p.run ⟨[], .direct, 0⟩) c t o c'

theorem leads_against (world : Responder) (p : Procedure) (c : Context) :
    Leads p c (Script.against world [] ((p.run ⟨[], .direct, 0⟩).run c)).2.2 :=
  ⟨_, _, Script.run_against world [] _⟩

/-- No reset runs in either procedure, and yet scopes stay open: the one of a block that was never
entered, or, if there is a block around it, the one of that block, which has closed the other. -/
theorem scope_left_open :
    let alone := within (.locator namelessFrame) skip
    let nested := within (.locator Context.innerFrame) alone
    alone.IsStructured ∧ nested.IsStructured ∧
      Leads alone (.ofBase (.place "page"))
        ⟨.place "page", [⟨namelessFrame, .place "inner"⟩]⟩ ∧
      Leads nested (.ofBase (.place "page"))
        ⟨.place "page", [⟨Context.innerFrame, .place "inner"⟩]⟩ := by
  refine ⟨⟨⟩, ⟨⟩, ?_, ?_⟩
  · exact leads_against Context.obliging _ _
  · exact leads_against Context.obliging _ _

end Procedure

end ElementSearch
