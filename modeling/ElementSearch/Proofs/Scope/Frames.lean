import ElementSearch.Proofs.Locator.Interchange
import ElementSearch.Proofs.Locator.Restate
import ElementSearch.Proofs.Scope.Opening

/-! Chains of frames.
Frames inside frames can be entered at once, as a chain, or one scope after the other.  In a browser
that gives the same frame for the same selector at the same place, both ways lead to one root or end
in one fault.  They say the names of the frames at different times, though: a chain looks for the
selectors of all its frames before it names the first, and the scopes name each frame before they
look for the next selector.  So a frame without a name and a later one without a selector end the
two ways in different faults. -/

namespace ElementSearch

namespace Value

variable {items : List Value}

theorem displayItems_eq_mapM (items : List Value) : displayItems items = items.mapM display := by
  induction items with
  | nil => rfl
  | cons x xs ih =>
    rw [List.mapM_cons, displayItems, ih]
    rfl

theorem named_of_wellShownItems (shown : wellShownItems items = true) : ∀ x ∈ items, x.Named := by
  exact exists_displayItems_iff.mp (displayItems_of_wellShown items shown)

end Value

namespace Driver

/-- A selector at a place stands for one frame, however often the browser is asked for it. -/
def FramesBy (inside : Handle → String → Handle) (t : List Exchange) : Prop :=
  ∀ (root answer : Handle) (selector : String),
    (⟨.frameAt root selector, answer⟩ : Exchange) ∈ t → answer = inside root selector

variable {inside : Handle → String → Handle} {t t₁ t₂ : List Exchange} {root : Handle}
  {members : List Value}

theorem framesBy_append :
    FramesBy inside (t₁ ++ t₂) ↔ FramesBy inside t₁ ∧ FramesBy inside t₂ := by
  simp only [FramesBy, List.mem_append]
  constructor
  · intro alike
    exact ⟨fun _ _ _ mem => alike _ _ _ (.inl mem), fun _ _ _ mem => alike _ _ _ (.inr mem)⟩
  · rintro ⟨first, second⟩ root answer selector (mem | mem)
    · exact first root answer selector mem
    · exact second root answer selector mem

theorem framesBy_against {α : Type} {world : Responder}
    (same : ∀ past root selector, world past (.frameAt root selector) = inside root selector)
    (past : List Exchange) (s : Script α) : FramesBy inside (s.against world past).1 := by
  induction s generalizing past with
  | done a => exact fun _ _ _ mem => nomatch mem
  | ask r next ih =>
    intro root answer selector mem
    rcases List.mem_cons.mp mem with first | later
    · cases first
      exact same past root selector
    · exact ih _ _ root answer selector later

/-- The innermost frame of a chain, by the selectors of its members. -/
def descend (inside : Handle → String → Handle) (root : Handle) : List Value → Outcome Handle
  | [] => .ok root
  | frame :: rest => do
    let selector ← frameSelector frame
    descend inside (inside root selector) rest

theorem descend_of_run {o : Outcome Handle} (alike : FramesBy inside t)
    (run : Job.Run (browserEnterAll root members) t o) : o = descend inside root members := by
  induction members generalizing root t with
  | nil => exact (Job.run_pure_iff.mp run).2
  | cons frame rest ih =>
    rw [descend]
    rcases Job.run_lift_bind_cases run with ⟨fault, failed, rfl, rfl⟩ | ⟨selector, named, run⟩
    · rw [failed]
      rfl
    · rw [Outcome.bind_of_ok named]
      obtain ⟨answer, _, rfl, inner⟩ := Job.run_report_bind.mp run
      obtain rfl := alike root answer selector List.mem_cons_self
      exact ih (fun _ _ _ mem => alike _ _ _ (List.mem_cons_of_mem _ mem)) inner

/-- A chain is entered when all its selectors are known, and then its members are named. -/
def enters (inside : Handle → String → Handle) (root : Handle) (members : List Value) :
    Outcome Handle := do
  let last ← descend inside root members
  let _ ← Value.displayItems members
  return last

theorem enters_of_run {o : Outcome Handle} (alike : FramesBy inside t)
    (run : Job.Run (browserEnter root members) t o) : o = enters inside root members := by
  rw [enters, Value.displayItems_eq_mapM]
  rcases Job.run_bind_iff.mp run with ⟨fault, entered, rfl⟩ | ⟨t₁, t₂, last, rfl, entered, rest⟩
  · rw [← descend_of_run alike entered]
    rfl
  rw [← descend_of_run (framesBy_append.mp alike).1 entered, Outcome.bind_of_ok rfl]
  rcases Job.run_lift_bind_cases rest with ⟨fault, unnamed, rfl, rfl⟩ | ⟨shown, named, rest⟩
  · rw [unnamed]
    rfl
  · rw [named]
    obtain ⟨_, _, rfl, done⟩ := Job.run_report_bind.mp rest
    exact (Job.run_pure_iff.mp done).2

/-- The members entered one by one, each as a chain of its own. -/
def entersInTurn (inside : Handle → String → Handle) (root : Handle) (members : List Value) :
    Outcome Handle :=
  members.foldlM (fun root member => enters inside root [member]) root

theorem enters_single (member : Value) :
    enters inside root [member] = do
      let selector ← frameSelector member
      let _ ← member.display
      return inside root selector := by
  rw [enters, descend, Value.displayItems, Value.display]
  cases frameSelector member with
  | error fault => rfl
  | ok selector => cases Value.displayAt .alone member <;> rfl

/-- The first member without a selector, after these, and the fault that says so. -/
def Stuck (members before : List Value) (fault : Fault) : Prop :=
  ∃ member after, members = before ++ member :: after ∧
    (∀ x ∈ before, ∃ selector, frameSelector x = .ok selector) ∧
    frameSelector member = .error fault

/-- The first member without a selector, which `fault` says, comes after one without a name, and
naming the members before it ends in `unnamed`. -/
def Overtaken (members : List Value) (fault unnamed : Fault) : Prop :=
  ∃ before, Stuck members before fault ∧ Value.displayItems before = .error unnamed

theorem Stuck.cons {before : List Value} {member : Value} {selector : String} {fault : Fault}
    (selects : frameSelector member = .ok selector) (stuck : Stuck members before fault) :
    Stuck (member :: members) (member :: before) fault := by
  obtain ⟨m, after, rfl, all, failed⟩ := stuck
  exact ⟨m, after, rfl, List.forall_mem_cons.mpr ⟨⟨selector, selects⟩, all⟩, failed⟩

theorem descend_cases (inside : Handle → String → Handle) (root : Handle) (members : List Value) :
    (∃ last, descend inside root members = .ok last) ∨
      ∃ before fault, Stuck members before fault := by
  induction members generalizing root with
  | nil => exact .inl ⟨root, rfl⟩
  | cons member rest ih =>
    cases selects : frameSelector member with
    | error fault => exact .inr ⟨[], fault, member, rest, rfl, by simp, selects⟩
    | ok selector =>
      rcases ih (inside root selector) with ⟨last, entered⟩ | ⟨before, fault, stuck⟩
      · exact .inl ⟨last, by rw [descend, selects, ← entered]; rfl⟩
      · exact .inr ⟨_, fault, stuck.cons selects⟩

theorem descend_of_stuck {before : List Value} {fault : Fault}
    (stuck : Stuck members before fault) : descend inside root members = .error fault := by
  obtain ⟨member, after, rfl, all, failed⟩ := stuck
  induction before generalizing root with
  | nil => rw [List.nil_append, descend, failed]; rfl
  | cons first before ih =>
    obtain ⟨⟨selector, selects⟩, others⟩ := List.forall_mem_cons.mp all
    rw [List.cons_append, descend, Outcome.bind_of_ok selects]
    exact ih others

theorem entersInTurn_cons (member : Value) (rest : List Value) :
    entersInTurn inside root (member :: rest) =
      frameSelector member >>= fun selector =>
        member.display >>= fun _ => entersInTurn inside (inside root selector) rest := by
  rw [entersInTurn, List.foldlM_cons, enters_single]
  cases frameSelector member with
  | error fault => rfl
  | ok selector => cases member.display <;> rfl

theorem entersInTurn_of_descend {last : Handle} (entered : descend inside root members = .ok last) :
    entersInTurn inside root members = enters inside root members := by
  rw [enters, Outcome.bind_of_ok entered]
  induction members generalizing root with
  | nil =>
    cases entered
    rfl
  | cons member rest ih =>
    obtain ⟨selector, selects, entered⟩ := Outcome.bind_eq_ok entered
    rw [entersInTurn_cons, Outcome.bind_of_ok selects, ih entered, Value.displayItems,
      ← Value.display]
    cases member.display with
    | error fault => rfl
    | ok first => cases Value.displayItems rest <;> rfl

theorem entersInTurn_of_stuck {before : List Value} {fault : Fault}
    (stuck : Stuck members before fault) :
    entersInTurn inside root members = Value.displayItems before >>= fun _ => .error fault := by
  obtain ⟨member, after, rfl, all, failed⟩ := stuck
  induction before generalizing root with
  | nil => rw [List.nil_append, entersInTurn_cons, failed]; rfl
  | cons first before ih =>
    obtain ⟨⟨selector, selects⟩, others⟩ := List.forall_mem_cons.mp all
    rw [List.cons_append, entersInTurn_cons, Outcome.bind_of_ok selects, ih others,
      Value.displayItems, ← Value.display]
    cases first.display with
    | error fault => rfl
    | ok shown => cases Value.displayItems before <;> rfl

end Driver

def Value.isSequence : Value → Bool
  | .list _ | .tuple _ => true
  | _ => false

namespace Scope

open Driver
open Scoped (Run)
open LocatorOf (classify_single framed)

/-- The object that narrows to a frame, or to a chain of frames if the value is a list. -/
def frameOf (v : Value) : Value := .dict [(.text "frame", v)]

/-- Scopes opened one inside the other; the root is that of the innermost one. -/
def pushEach (filters : List Filter) (d : Driver) : List Value → Scoped Handle
  | [] => do return (← Scoped.context).root
  | v :: rest => do
    let _ ← push filters d v
    pushEach filters d rest

variable {inside : Handle → String → Handle} {c c' : Context} {t : List Exchange}
  {o : Outcome Handle} {v : Value} {l : Locator}

def frameLocator (v inner : Value) : Locator :=
  LocatorOf.ofHead [(.text "frame", v)] (some ⟨.frame, .null, inner⟩)

theorem classify_frameOf (v : Value) :
    classify [] (frameOf v) = (framed v).map (frameLocator v) := by
  have key : LocatorOf.kindOfKey (.text "frame") = .frame := rfl
  rw [classify, frameOf, classify_single .css rfl rfl, LocatorOf.headFor, key]
  cases framed v <;> rfl

theorem classify_chain {frames members : List Value}
    (all : LocatorOf.frames [] frames = .ok members) :
    classify [] (frameOf (.list frames)) = .ok (frameLocator (.list frames) (.tuple members)) := by
  rw [classify_frameOf, framed, all]
  rfl

theorem framed_of_single {frame : Value} (single : frame.isSequence = false) :
    framed frame = (LocatorOf.classify [] .css false frame).map .locator := by
  cases frame with
  | list _ | tuple _ => cases single
  | _ => rfl

theorem classify_member {frame : Value} (single : frame.isSequence = false) {member : Locator}
    (classified : LocatorOf.classify [] .css false frame = .ok member) :
    classify [] (frameOf frame) = .ok (frameLocator frame (.locator member)) := by
  rw [classify_frameOf, framed_of_single single, classified]
  rfl

theorem push_frame {members : List Value} (classified : classify [] v = .ok l)
    (frame : l.kind = .frame) (chain : frameChain l = members)
    (spoken : (∀ m ∈ members, m.Named) → (Value.locator l).Named) (outside : c.inElement = false)
    (alike : FramesBy inside t) (run : Run (push [] .browser v) c t o c') :
    o = enters inside c.root members ∧ ∀ root, o = .ok root → c' = c.enter ⟨l, root⟩ := by
  have checked : checkNesting [] c v = .ok l := by
    rw [checkNesting_of_classify classified, allow_of_outside (by simp [outside])]
  rcases push_cases run with ⟨_, refused, _⟩ | ⟨l', checked', rest⟩
  · rw [checked] at refused
    cases refused
  rw [checked] at checked'
  obtain rfl : l = l' := Except.ok.inj checked'
  have narrows : narrowTo .browser l c.root = browserEnter c.root members := by
    rw [narrowTo, if_pos frame, chain]
    rfl
  rw [narrows] at rest
  rcases rest with ⟨fault, entered, rfl, _⟩ | ⟨t₁, t₂, root, noted, rfl, entered, note, rfl, left⟩
  · exact ⟨enters_of_run alike entered, by rintro _ ⟨⟩⟩
  have entered := enters_of_run (framesBy_append.mp alike).1 entered
  obtain ⟨_, _, rest⟩ := Outcome.bind_eq_ok entered.symm
  obtain ⟨_, named, _⟩ := Outcome.bind_eq_ok rest
  cases noted with
  | error fault =>
    obtain ⟨shown, said⟩ := spoken (Value.exists_displayItems_iff.mp ⟨_, named⟩)
    rw [display_of_depthNote note] at said
    cases said
  | ok _ =>
    refine ⟨entered, fun root' same => ?_⟩
    cases same
    exact left

theorem named_frameLocator {inner : Value} {body : String}
    (shown : Value.displayAt .inFrame inner = .ok body) :
    (Value.locator (frameLocator v inner)).Named := by
  refine ⟨Value.labelled "frame" body, ?_⟩
  rw [Value.display, frameLocator, LocatorOf.ofHead, LocatorOf.make, Value.displayAt]
  simp only [Value.instead, if_pos, shown]
  rfl

theorem push_chain {frames members : List Value}
    (all : LocatorOf.frames [] frames = .ok members) (outside : c.inElement = false)
    (alike : FramesBy inside t) (run : Run (push [] .browser (frameOf (.list frames))) c t o c') :
    o = enters inside c.root members ∧ ∀ root, o = .ok root → c'.root = root := by
  have spoken (named : ∀ m ∈ members, m.Named) :
      (Value.locator (frameLocator (.list frames) (.tuple members))).Named := by
    obtain ⟨shown, said⟩ := Value.exists_displayItems_iff.mpr named
    exact named_frameLocator (by rw [Value.displayAt, said]; rfl)
  obtain ⟨ended, left⟩ := push_frame (classify_chain all) rfl rfl spoken outside alike run
  refine ⟨ended, fun root same => ?_⟩
  rw [left root same]
  rfl

theorem push_member {frame : Value} {member : Locator} (single : frame.isSequence = false)
    (classified : LocatorOf.classify [] .css false frame = .ok member)
    (outside : c.inElement = false) (alike : FramesBy inside t)
    (run : Run (push [] .browser (frameOf frame)) c t o c') :
    o = enters inside c.root [.locator member] ∧
      ∀ root, o = .ok root → c'.root = root ∧ c'.inElement = false := by
  have spoken (named : ∀ m ∈ [Value.locator member], m.Named) :
      (Value.locator (frameLocator frame (.locator member))).Named := by
    obtain ⟨shown, said⟩ := List.forall_mem_singleton.mp named
    exact named_frameLocator said
  obtain ⟨ended, left⟩ :=
    push_frame (classify_member single classified) rfl rfl spoken outside alike run
  refine ⟨ended, fun root same => ?_⟩
  rw [left root same]
  exact ⟨rfl, outside⟩

theorem pushEach_frames {frames members : List Value}
    (single : ∀ f ∈ frames, f.isSequence = false) (all : LocatorOf.frames [] frames = .ok members)
    (outside : c.inElement = false) (alike : FramesBy inside t)
    (run : Run (pushEach [] .browser (frames.map frameOf)) c t o c') :
    o = entersInTurn inside c.root members ∧ ∀ root, o = .ok root → c'.root = root := by
  induction frames generalizing c t members with
  | nil =>
    cases all
    obtain ⟨_, rfl, rfl⟩ := Scoped.run_pure_iff.mp run
    refine ⟨rfl, fun root same => ?_⟩
    cases same
    rfl
  | cons frame rest ih =>
    obtain ⟨here, others⟩ := List.forall_mem_cons.mp single
    rw [LocatorOf.frames] at all
    obtain ⟨member, classified, all⟩ := Outcome.bind_eq_ok all
    obtain ⟨members, framed, same⟩ := Outcome.bind_eq_ok all
    cases same
    rw [entersInTurn, List.foldlM_cons]
    rcases Scoped.run_bind_iff.mp run with
      ⟨fault, pushed, rfl⟩ | ⟨t₁, t₂, root, c₁, rfl, pushed, nested⟩
    · obtain ⟨ended, _⟩ := push_member here classified outside alike pushed
      rw [← ended]
      exact ⟨rfl, by rintro _ ⟨⟩⟩
    · obtain ⟨first, later⟩ := framesBy_append.mp alike
      obtain ⟨ended, left⟩ := push_member here classified outside first pushed
      obtain ⟨rfl, outside⟩ := left root rfl
      rw [← ended]
      exact ih others framed outside later nested

theorem exists_unread {frames : List Value} {fault : Fault}
    (failed : LocatorOf.frames [] frames = .error fault) :
    ∃ before frame after members, frames = before ++ frame :: after ∧
      LocatorOf.frames [] before = .ok members ∧
      LocatorOf.classify [] .css false frame = .error fault := by
  induction frames with
  | nil => cases failed
  | cons frame rest ih =>
    rw [LocatorOf.frames] at failed
    rcases Outcome.bind_eq_error failed with first | ⟨l, classified, failed⟩
    · exact ⟨[], frame, rest, [], rfl, rfl, first⟩
    rcases Outcome.bind_eq_error failed with others | ⟨_, _, done⟩
    · obtain ⟨before, frame', after, members, rfl, read, unread⟩ := ih others
      refine ⟨frame :: before, frame', after, .locator l :: members, rfl, ?_, unread⟩
      rw [LocatorOf.frames, classified, read]
      rfl
    · cases done

theorem pushEach_of_unread {before after members : List Value} {frame : Value} {fault : Fault}
    (single : ∀ f ∈ before ++ frame :: after, f.isSequence = false)
    (read : LocatorOf.frames [] before = .ok members)
    (unread : LocatorOf.classify [] .css false frame = .error fault)
    (outside : c.inElement = false) (alike : FramesBy inside t)
    (run : Run (pushEach [] .browser ((before ++ frame :: after).map frameOf)) c t o c') :
    o = entersInTurn inside c.root members >>= fun _ => .error fault := by
  induction before generalizing c t members with
  | nil =>
    cases read
    have failed : classify [] (frameOf frame) = .error fault := by
      rw [classify_frameOf, framed_of_single (single frame (by simp)), unread]
      rfl
    rcases Scoped.run_bind_iff.mp run with ⟨_, pushed, rfl⟩ | ⟨_, _, _, _, _, pushed, _⟩
    · cases (push_of_unread pushed failed).2.1
      rfl
    · cases (push_of_unread pushed failed).2.1
  | cons first before ih =>
    obtain ⟨here, others⟩ := List.forall_mem_cons.mp single
    rw [LocatorOf.frames] at read
    obtain ⟨member, classified, read⟩ := Outcome.bind_eq_ok read
    obtain ⟨members, framed, same⟩ := Outcome.bind_eq_ok read
    cases same
    rw [entersInTurn, List.foldlM_cons]
    rcases Scoped.run_bind_iff.mp run with
      ⟨fault', pushed, rfl⟩ | ⟨t₁, t₂, root, c₁, rfl, pushed, nested⟩
    · obtain ⟨ended, _⟩ := push_member here classified outside alike pushed
      rw [← ended]
      rfl
    · obtain ⟨earlier, later⟩ := framesBy_append.mp alike
      obtain ⟨ended, left⟩ := push_member here classified outside earlier pushed
      obtain ⟨rfl, outside⟩ := left root rfl
      rw [← ended]
      exact ih others framed outside later nested

theorem stuck_of_isNeverQuery {members before : List Value} {l : Locator} {after : List Value}
    (split : members = before ++ .locator l :: after)
    (selects : ∀ x ∈ before, ∃ selector, frameSelector x = .ok selector) (never : l.IsNeverQuery)
    (named : (Value.locator l).Named) :
    ∃ fault, Stuck members before fault ∧ fault.IsInvalidKind := by
  obtain ⟨fault, refused, invalid⟩ := LocatorOf.refuse_eq named
  refine ⟨fault, ⟨.locator l, after, split, selects, ?_⟩, invalid⟩
  rw [frameSelector, LocatorOf.toQuery_of_isNeverQuery never, refused]
  rfl

/-- Outside the scopes of elements, and in a browser that gives the same frame every time, a chain
and the scopes of its members one inside the other have the same root or end in the same fault; a
null locator or one of a frame, if it is the first member without a selector, is an invalid kind.
The two faults differ only if a member without a name comes before the first one without a
selector, or if some frame is not read: the chain reads all frames before it enters the first.
Nothing of the sort is so if everything in the list can be shown. -/
theorem chain_as_nested {frames : List Value} {c₁ c₂ : Context} {t₁ t₂ : List Exchange}
    {o₁ o₂ : Outcome Handle} (single : ∀ f ∈ frames, f.isSequence = false)
    (outside : c.inElement = false)
    (chain : Run (push [] .browser (frameOf (.list frames))) c t₁ o₁ c₁)
    (nested : Run (pushEach [] .browser (frames.map frameOf)) c t₂ o₂ c₂)
    (alike₁ : FramesBy inside t₁) (alike₂ : FramesBy inside t₂) :
    (∀ members, LocatorOf.frames [] frames = .ok members →
      ((∀ fault unnamed, ¬Overtaken members fault unnamed) → o₁ = o₂ ∧
        ∀ root, o₁ = .ok root → c₁.root = root ∧ c₂.root = root) ∧
      (∀ fault unnamed, Overtaken members fault unnamed →
        o₁ = .error fault ∧ o₂ = .error unnamed) ∧
      (∀ before l after, members = before ++ .locator l :: after →
        (∀ x ∈ before, ∃ selector, frameSelector x = .ok selector) → l.IsNeverQuery →
        (Value.locator l).Named → ∃ fault, o₁ = .error fault ∧ fault.IsInvalidKind)) ∧
      (∀ fault, LocatorOf.frames [] frames = .error fault → o₁ = .error fault ∧
        ∃ before frame after members, frames = before ++ frame :: after ∧
          LocatorOf.frames [] before = .ok members ∧
          LocatorOf.classify [] .css false frame = .error fault ∧
          o₂ = entersInTurn inside c.root members >>= fun _ => .error fault) ∧
      (Value.wellShownItems frames = true → ∃ members, LocatorOf.frames [] frames = .ok members ∧
        ∀ fault unnamed, ¬Overtaken members fault unnamed) := by
  refine ⟨fun members all => ?_, fun fault failed => ?_, fun shown => ?_⟩
  · obtain ⟨ended₁, root₁⟩ := push_chain all outside alike₁ chain
    obtain ⟨ended₂, root₂⟩ := pushEach_frames single all outside alike₂ nested
    have failed {before : List Value} {fault : Fault} (stuck : Stuck members before fault) :
        o₁ = .error fault := by
      rw [ended₁, enters, descend_of_stuck stuck]
      rfl
    refine ⟨?_, ?_, ?_⟩
    · -- with all selectors there both ways name every member; with one missing the scopes get as
      -- far as the chain, since they can name all members before it
      intro inOrder
      have same : o₁ = o₂ := by
        rcases descend_cases inside c.root members with ⟨last, entered⟩ | ⟨before, fault, stuck⟩
        · rw [ended₁, ended₂, entersInTurn_of_descend entered]
        · rw [failed stuck, ended₂, entersInTurn_of_stuck stuck]
          cases named : Value.displayItems before with
          | error unnamed => exact absurd ⟨before, stuck, named⟩ (inOrder fault unnamed)
          | ok _ => rfl
      refine ⟨same, fun root ends => ⟨root₁ root ends, root₂ root ?_⟩⟩
      rw [← same, ends]
    · rintro fault unnamed ⟨before, stuck, failure⟩
      refine ⟨failed stuck, ?_⟩
      rw [ended₂, entersInTurn_of_stuck stuck, failure]
      rfl
    · intro before l after split selects never named
      obtain ⟨fault, stuck, invalid⟩ := stuck_of_isNeverQuery split selects never named
      exact ⟨fault, failed stuck, invalid⟩
  · have unread : classify [] (frameOf (.list frames)) = .error fault := by
      rw [classify_frameOf, framed, failed]
      rfl
    obtain ⟨before, frame, after, members, rfl, read, missed⟩ := exists_unread failed
    exact ⟨(push_of_unread chain unread).2.1, before, frame, after, members, rfl, read, missed,
      pushEach_of_unread single read missed outside alike₂ nested⟩
  · obtain ⟨members, all⟩ := LocatorOf.frames_of_spelled (Value.spelled_of_wellShownItems _ shown)
    have named := Value.named_of_wellShownItems (LocatorOf.wellShown_of_frames frames shown all)
    refine ⟨members, all, ?_⟩
    rintro fault unnamed ⟨before, ⟨_, _, rfl, _⟩, failure⟩
    obtain ⟨x, mem, missing⟩ := Value.exists_of_displayItems failure
    exact Value.unnamed_of_error missing (named x (List.mem_append_left _ mem))

def pathway (root : Handle) (selector : String) : Handle :=
  .place (root.shown ++ " >> " ++ selector)

def pathways : Responder := fun past r =>
  match r with
  | .frameAt root selector => pathway root selector
  | r => Context.obliging past r

def bothWays (frames : List Value) : (Outcome Handle × Context) × (Outcome Handle × Context) :=
  ((((push [] .browser (frameOf (.list frames))).run page).against pathways []).2,
    (((pushEach [] .browser (frames.map frameOf)).run page).against pathways []).2)

theorem chain_as_nested_outerInner :
    let frames := [Value.locator (LocatorOf.make .css "#outer" .null),
      .locator (LocatorOf.make .xpath "//iframe" .null)]
    (∀ f ∈ frames, f.isSequence = false) ∧ page.inElement = false ∧
      Value.wellShownItems frames = true ∧
      ∃ root c₁ c₂, bothWays frames = ((.ok root, c₁), (.ok root, c₂)) ∧
        c₁.root = root ∧ c₂.root = root := by
  intro frames
  have single : ∀ f ∈ frames, f.isSequence = false := by decide
  have chain : Run (push [] .browser (frameOf (.list frames))) page _ _ _ :=
    Script.run_against pathways [] _
  have nested : Run (pushEach [] .browser (frames.map frameOf)) page _ _ _ :=
    Script.run_against pathways [] _
  have alike {α : Type} (s : Script α) : FramesBy pathway (s.against pathways []).1 :=
    framesBy_against (fun _ _ _ => rfl) [] s
  obtain ⟨read, _, named⟩ := chain_as_nested single rfl chain nested (alike _) (alike _)
  obtain ⟨members, all, inOrder⟩ := named rfl
  obtain ⟨_, roots⟩ := (read members all).1 inOrder
  obtain ⟨root₁, root₂⟩ := roots _ rfl
  exact ⟨single, rfl, rfl, _, _, _, rfl, root₁, root₂⟩

/-- The second frame is not there to be queried, which the chain says, and the first has no name,
which the scopes say. -/
theorem nameless_frame_overtaken :
    let frames := [Value.locator Lookup.unnamable, .null]
    (∀ f ∈ frames, f.isSequence = false) ∧ page.inElement = false ∧
      ∃ fault, (bothWays frames).1.1 = .error fault ∧ fault.IsInvalidKind ∧
        (bothWays frames).2.1 = .error .wrongType := by
  intro frames
  exact ⟨by decide, rfl, _, rfl, ⟨_, _, _, rfl⟩, rfl⟩

end Scope

end ElementSearch
