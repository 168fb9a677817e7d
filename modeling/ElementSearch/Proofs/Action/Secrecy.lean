import ElementSearch.Proofs.Action.Errand
import ElementSearch.Proofs.Scope.Layers

/-! Passwords.
The title of a filling shows a text for a password field as stars, and nothing else that a filling
says before it types or afterwards depends on the text.  So two fillings of one such field with
texts of one length are the same run up to the place where each of them types its text, and how
they go on from there is decided by the answer to that. -/

namespace ElementSearch

namespace LetterCase

theorem lowerFrom_append (before front rest : List Char) :
    ∃ low, lowerFrom before (front ++ rest) = low ++ lowerFrom (front.reverse ++ before) rest := by
  induction front generalizing before with
  | nil => exact ⟨[], rfl⟩
  | cons c front ih =>
    obtain ⟨low, split⟩ := ih (c :: before)
    rw [List.cons_append, lowerFrom, split, ← List.append_assoc, List.reverse_cons,
      List.append_assoc front.reverse]
    exact ⟨_, rfl⟩

theorem lowerFrom_of_ascii {word : List Char} (ascii : ∀ c ∈ word, c.toNat < 128)
    (before rest : List Char) :
    lowerFrom before (word ++ rest) =
      word.map asciiLowerChar ++ lowerFrom (word.reverse ++ before) rest := by
  induction word generalizing before with
  | nil => rfl
  | cons c word ih =>
    have small : c.toNat < 128 := ascii c List.mem_cons_self
    have noSigma : c.toNat ≠ 931 := by omega
    have low : lowerChar c = [asciiLowerChar c] := by
      rw [lowerChar, if_pos small, asciiLowerChar]
      split <;> rfl
    have others := ih (fun c mem => ascii c (List.mem_cons_of_mem _ mem)) (c :: before)
    rw [List.cons_append, lowerFrom, others, if_neg noSigma, low]
    simp

theorem ascii_of_lower {c : Char} (small : (asciiLowerChar c).toNat < 128) : c.toNat < 128 := by
  by_cases capital : 'A' ≤ c ∧ c ≤ 'Z'
  · have bound : c.toNat ≤ 'Z'.toNat := capital.2
    exact Nat.lt_of_le_of_lt bound (by decide)
  · rwa [asciiLowerChar, if_neg (by simpa using capital)] at small

end LetterCase

namespace Request

def gesture? : Request → Option Gesture
  | gesture g => some g
  | _ => none

def HandsOff (r : Request) : Prop := r.gesture? = none

end Request

def touched (t : List Exchange) : List Gesture := t.filterMap fun e => e.request.gesture?

@[simp] theorem touched_append (t₁ t₂ : List Exchange) :
    touched (t₁ ++ t₂) = touched t₁ ++ touched t₂ := List.filterMap_append

theorem touched_eq_nil {t : List Exchange} (handsOff : ∀ e ∈ t, e.request.HandsOff) :
    touched t = [] := List.filterMap_eq_nil_iff.mpr handsOff

/-- Looking for elements touches none. -/
def Driver.HandsOff (d : Driver) : Prop :=
  ∀ root kind value, Job.Asks Request.HandsOff (d.execute kind value root)

theorem Driver.handsOff_direct : direct.HandsOff :=
  fun _ _ _ => Job.asks_asking (Script.asks_request rfl)

theorem Driver.handsOff_browser : browser.HandsOff := by
  intro root kind value
  refine (Job.asks_lift _).bind fun selector => ?_
  have asks : Job.Asks Request.HandsOff (Job.query browserKind (.text selector) root) :=
    Job.asks_asking (Script.asks_request rfl)
  refine asks.caught.bind fun found => ?_
  split
  · exact Job.asks_pure _
  · exact (asks_log (fun _ => rfl) ..).bind fun _ => Job.asks_throw _
  · exact Job.asks_throw _

namespace Actor

theorem occursIn_iff {part cs : List Char} : occursIn part cs = true ↔ part <:+: cs := by
  induction cs with
  | nil => simp [occursIn]
  | cons c rest ih =>
    rw [occursIn, Bool.or_eq_true, List.isPrefixOf_iff_prefix, ih, List.infix_cons_iff]

/-- The name contains the word, whatever the case of its letters. -/
def MentionsPassword (name : String) : Prop :=
  ∃ before word after, name = before ++ word ++ after ∧ LetterCase.asciiLower word = "password"

theorem isSecret_of_mentionsPassword {name : String} (mentioned : MentionsPassword name) :
    isSecret name = true := by
  obtain ⟨before, word, after, rfl, spelled⟩ := mentioned
  have letters : word.toList.map LetterCase.asciiLowerChar = "password".toList := by
    rw [← spelled, LetterCase.asciiLower, String.toList_ofList]
  have ascii : ∀ c ∈ word.toList, c.toNat < 128 := by
    intro c mem
    apply LetterCase.ascii_of_lower
    have lowered : LetterCase.asciiLowerChar c ∈ "password".toList :=
      letters ▸ List.mem_map_of_mem mem
    have all : "password".toList.all (fun c => c.toNat < 128) = true := by decide
    exact of_decide_eq_true (List.all_eq_true.mp all _ lowered)
  obtain ⟨low, split⟩ :=
    LetterCase.lowerFrom_append [] before.toList (word.toList ++ after.toList)
  rw [LetterCase.lowerFrom_of_ascii ascii, letters] at split
  have lowered : (LetterCase.lower (before ++ word ++ after)).toList =
      LetterCase.lowerFrom [] (before.toList ++ (word.toList ++ after.toList)) := by
    simp [LetterCase.lower]
  rw [isSecret, occursIn_iff, lowered, split]
  exact List.infix_append' ..

end Actor

/-- An exchange without the text that was typed in it. -/
def Exchange.untyped : Exchange → Exchange
  | ⟨.gesture ⟨element, .fill, _, options⟩, answer⟩ =>
    ⟨.gesture ⟨element, .fill, [], options⟩, answer⟩
  | e => e

/-- How typing ends does not depend on what is typed: it is refused for the sake of the element, if
at all. -/
def Responder.Unreading (world : Responder) : Prop :=
  ∀ past element options text text',
    world past (.gesture ⟨element, .fill, [text], options⟩) =
      world past (.gesture ⟨element, .fill, [text'], options⟩)

namespace Actor

section Fillings

variable (actor : Actor) (world : Responder) (past : List Exchange) (c : Context) (field : Value)

def filling (value : Value) : List Exchange × Outcome Value :=
  (actor.perform c (.fillField field value)).run.against world past

def typing (element : Handle) (text : String) : Gesture :=
  ⟨element, .fill, [.text text], [actor.timeoutOption]⟩

def typed (before : List Exchange) (element : Handle) (text : String) :
    List Exchange × Outcome Value :=
  let answer : Outcome Unit := world (past ++ before) (.gesture (actor.typing element text))
  (before ++ [⟨.gesture (actor.typing element text), answer⟩,
    ⟨.stepEnds (Job.faultOf answer), ()⟩], answer.map fun _ => .null)

def looking (title : String) : List Exchange × Outcome (List Handle) :=
  (Lookup.resolve actor.filters actor.driver field .field c.root).run.against world
    (past ++ [⟨.stepStarts title, ()⟩])

/-- Two runs of which one types a text where the other types another, into the element that was
found, or which are one and the same because none was found.  If looking for elements touches none,
nothing else is done to any element. -/
inductive SideBySide (s t : String) :
    List Exchange × Outcome Value → List Exchange × Outcome Value → Prop
  | missed {title : String} {inner : List Exchange} {fault : Fault}
      (nothing : ∀ element others,
        (looking actor world past c field title).2 ≠ .ok (element :: others))
      (untouched : actor.driver.HandsOff → touched inner = []) :
      SideBySide s t
        (⟨.stepStarts title, ()⟩ :: (inner ++ [⟨.stepEnds (some fault), ()⟩]), .error fault)
        (⟨.stepStarts title, ()⟩ :: (inner ++ [⟨.stepEnds (some fault), ()⟩]), .error fault)
  | typed {title : String} {lookup : List Exchange} {element : Handle} {others : List Handle}
      (found : looking actor world past c field title = (lookup, .ok (element :: others)))
      (untouched : actor.driver.HandsOff → touched lookup = []) :
      SideBySide s t (actor.typed world past (⟨.stepStarts title, ()⟩ :: lookup) element s)
        (actor.typed world past (⟨.stepStarts title, ()⟩ :: lookup) element t)

variable {actor world past c field}

theorem SideBySide.untyped_eq {s t : String} {p q : List Exchange × Outcome Value}
    (alike : SideBySide actor world past c field s t p q) (unreading : world.Unreading) :
    p.1.map Exchange.untyped = q.1.map Exchange.untyped ∧ p.2 = q.2 := by
  cases alike with
  | missed _ _ => exact ⟨rfl, rfl⟩
  | typed _ _ =>
    simp only [Actor.typed, typing]
    rw [unreading _ _ _ (.text s) (.text t)]
    exact ⟨by simp [Exchange.untyped], rfl⟩

def foundOr (actor : Actor) (field : Value) (role clause : String) :
    List Handle → Job (Handle × List Handle)
  | [] => actor.complain field .field role clause
  | first :: others => pure (first, others)

theorem findOrFail_eq (actor : Actor) (c : Context) (field : Value) (role clause : String) :
    actor.findOrFail c field .field role .null clause =
      Lookup.resolve actor.filters actor.driver field .field c.root >>=
        actor.foundOr field role clause := by
  refine congrArg (Lookup.resolve actor.filters actor.driver field .field c.root >>= ·)
    (funext fun elements => ?_)
  cases elements <;> rfl

theorem findOrFail_cases (actor : Actor) (world : Responder) (past : List Exchange) (c : Context)
    (field : Value) (role clause : String) :
    let found := (Lookup.resolve actor.filters actor.driver field .field c.root).run.against world
      past
    (∃ t fault, (∀ element others, found.2 ≠ .ok (element :: others)) ∧
        (actor.findOrFail c field .field role .null clause).run.against world past =
          (t, .error fault)) ∨
      ∃ t element others, found = (t, .ok (element :: others)) ∧
        (actor.findOrFail c field .field role .null clause).run.against world past =
          (t, .ok (element, others)) := by
  rw [findOrFail_eq]
  cases searched : (Lookup.resolve actor.filters actor.driver field .field
    c.root).run.against world past with | mk t outcome
  cases outcome with
  | error fault => exact .inl ⟨t, fault, nofun, Job.against_bind_error searched _⟩
  | ok elements =>
    cases elements with
    | nil =>
      have complained := Script.run_against world (past ++ t)
        (actor.foundOr field role clause []).run
      obtain ⟨fault, failed, _⟩ := complain_cases complained
      exact .inl ⟨_, fault, nofun, Job.against_bind_ok searched (Prod.ext rfl failed)⟩
    | cons element others =>
      refine .inr ⟨t, element, others, rfl, ?_⟩
      rw [← List.append_nil t]
      exact Job.against_bind_ok searched rfl

theorem handsOff_complain {α : Type} (actor : Actor) (target : Value) (family : Family)
    (role clause : String) :
    Job.Asks Request.HandsOff (actor.complain target family role clause : Job α) := by
  have logs (note : Note) : (Request.log note).HandsOff := rfl
  have attaches (attachment : Attachment) : Job.Asks Request.HandsOff (Job.attach attachment) :=
    Job.asks_report rfl
  refine (Job.asks_lift _).bind fun _ => (Job.asks_lift _).bind fun _ => ?_
  refine (asks_log logs ..).bind fun _ => (Job.asks_lift _).bind fun _ => ?_
  refine (asks_log logs ..).bind fun _ => (Job.asks_lift _).bind fun _ => ?_
  exact (attaches _).bind fun _ => Job.asks_throw _

theorem handsOff_findOrFail (handsOff : actor.driver.HandsOff) (c : Context) (field : Value)
    (role clause : String) :
    Job.Asks Request.HandsOff (actor.findOrFail c field .field role .null clause) := by
  rw [findOrFail_eq]
  have looks := Lookup.asks_resolve (handsOff c.root) (fun _ => rfl) actor.filters field .field
  refine looks.bind fun elements => ?_
  cases elements with
  | nil => exact handsOff_complain actor field .field role clause
  | cons first others => exact Job.asks_pure _

section Course

variable {value : Value} {text title : String} {t : List Exchange}

theorem against_filling {o : Outcome Unit} (titled : fillTitle field value = .ok title)
    (shows : value.display = .ok text)
    (inner : (actor.findOrFail c field .field "Field" .null defaultClause >>= fun found =>
        Job.gesture (actor.typing found.1 text)).run.against world
          (past ++ [⟨.stepStarts title, ()⟩]) = (t, o)) :
    actor.filling world past c field value =
      (⟨.stepStarts title, ()⟩ :: (t ++ [⟨.stepEnds (Job.faultOf o), ()⟩]),
        o.map fun _ => .null) := by
  have types : (fun found : Handle × List Handle => actor.fillIn value found.1) =
      fun found => Job.gesture (actor.typing found.1 text) :=
    funext fun found => Job.run_lift_bind_ok shows
  rw [← types] at inner
  rw [filling, perform_eq rfl]
  exact Errand.against_run titled inner

theorem filling_missed {fault : Fault} (titled : fillTitle field value = .ok title)
    (shows : value.display = .ok text)
    (looked : (actor.findOrFail c field .field "Field" .null defaultClause).run.against world
      (past ++ [⟨.stepStarts title, ()⟩]) = (t, .error fault)) :
    actor.filling world past c field value =
      (⟨.stepStarts title, ()⟩ :: (t ++ [⟨.stepEnds (some fault), ()⟩]), .error fault) :=
  against_filling titled shows (Job.against_bind_error looked _)

theorem filling_found {element : Handle} {others : List Handle}
    (titled : fillTitle field value = .ok title) (shows : value.display = .ok text)
    (looked : (actor.findOrFail c field .field "Field" .null defaultClause).run.against world
      (past ++ [⟨.stepStarts title, ()⟩]) = (t, .ok (element, others))) :
    actor.filling world past c field value =
      actor.typed world past (⟨.stepStarts title, ()⟩ :: t) element text := by
  rw [against_filling titled shows (Job.against_bind_ok looked rfl), typed]
  simp [Script.against]

end Course

theorem fillTitle_of_secret {value : Value} {name text : String} (named : field.display = .ok name)
    (mentioned : MentionsPassword name) (shows : value.display = .ok text) :
    fillTitle field value =
      .ok ("Fill " ++ name ++ ": " ++ String.ofList (List.replicate text.length '*')) := by
  rw [fillTitle, named, shows, Outcome.bind_of_ok rfl, Except.map, Outcome.bind_of_ok rfl, masked,
    if_pos (isSecret_of_mentionsPassword mentioned)]
  rfl

theorem sideBySide_of_titled (actor : Actor) (world : Responder) (past : List Exchange)
    (c : Context) {v w : Value} {s t title : String}
    (titledFirst : fillTitle field v = .ok title) (titledSecond : fillTitle field w = .ok title)
    (shownFirst : v.display = .ok s) (shownSecond : w.display = .ok t) :
    SideBySide actor world past c field s t (actor.filling world past c field v)
      (actor.filling world past c field w) := by
  have asked (handsOff : actor.driver.HandsOff) := touched_eq_nil
    ((handsOff_findOrFail handsOff c field "Field" defaultClause).of_run
      (Script.run_against world (past ++ [⟨.stepStarts title, ()⟩]) _))
  rcases findOrFail_cases actor world (past ++ [⟨.stepStarts title, ()⟩]) c field "Field"
    defaultClause with ⟨inner, fault, nothing, looked⟩ | ⟨lookup, element, others, found, looked⟩
  · rw [looked] at asked
    rw [filling_missed titledFirst shownFirst looked,
      filling_missed titledSecond shownSecond looked]
    exact .missed nothing asked
  · rw [looked] at asked
    rw [filling_found titledFirst shownFirst looked, filling_found titledSecond shownSecond looked]
    exact .typed found asked

/-- Whatever the world answers, two fillings of a field that mentions a password with texts of one
length are the same but for the text that is typed and what is answered to it; so they are the same
but for that text where the answer does not depend on it. -/
theorem password_fills_alike (actor : Actor) (world : Responder) (past : List Exchange)
    (c : Context) (field v w : Value) {name s t : String} (named : field.display = .ok name)
    (mentioned : MentionsPassword name) (shownFirst : v.display = .ok s)
    (shownSecond : w.display = .ok t) (long : s.length = t.length) :
    let first := actor.filling world past c field v
    let second := actor.filling world past c field w
    SideBySide actor world past c field s t first second ∧
      (world.Unreading → first.1.map Exchange.untyped = second.1.map Exchange.untyped ∧
        first.2 = second.2) := by
  intro first second
  have titledFirst := fillTitle_of_secret named mentioned shownFirst
  have titledSecond := fillTitle_of_secret named mentioned shownSecond
  rw [← long] at titledSecond
  have alike :=
    sideBySide_of_titled actor world past c titledFirst titledSecond shownFirst shownSecond
  exact ⟨alike, alike.untyped_eq⟩

theorem password_fills_alike_signIn :
    let actor : Actor := ⟨[], .direct, 5000⟩
    let field := Value.locator
      { LocatorOf.make .css "#new" .null with output := .text "New Password" }
    let run (text : String) :=
      actor.filling Context.obliging [] (.ofBase (.place "page")) field (.text text)
    MentionsPassword "New Password" ∧ Context.obliging.Unreading ∧
      touched (run "hunter2").1 = [actor.typing (.element "card") "hunter2"] ∧
      touched (run "letmein").1 = [actor.typing (.element "card") "letmein"] ∧
      (run "hunter2").1.map Exchange.untyped = (run "letmein").1.map Exchange.untyped ∧
      (run "hunter2").2 = (run "letmein").2 := by
  intro actor field run
  have mentioned : MentionsPassword "New Password" :=
    ⟨"New ", "Password", "", by decide, by decide⟩
  have unreading : Context.obliging.Unreading := fun _ _ _ _ _ => rfl
  have long : "hunter2".length = "letmein".length := by decide
  have alike := password_fills_alike actor Context.obliging [] (.ofBase (.place "page")) field
    (.text "hunter2") (.text "letmein") rfl mentioned rfl rfl long
  exact ⟨mentioned, unreading, rfl, rfl, alike.2 unreading⟩

end Fillings

end Actor

end ElementSearch
