import ElementSearch.Action
import ElementSearch.Proofs.Script.Requests

/-! Where searches ask.
A search and the choice of options ask what the driver asks for their queries, and write notes, so
whatever holds of these holds of all they ask.  With the driver that hands everything on, every
call of the driver in a search, in the choice of options and in narrowing is at the root that it was
started with.  Looking at what was found and acting on it call the driver nowhere. -/

namespace ElementSearch

section Quiet

open Job Request

theorem quiet_log (level : Level) (text : String) : Asks Quiet (log level text) :=
  asks_report ⟨rfl, rfl⟩

theorem quiet_gesture (g : Gesture) : Asks Quiet (gesture g) :=
  asks_asking (Script.asks_request ⟨rfl, rfl⟩)

theorem quiet_visible (elements : List Handle) : Asks Quiet (Actor.visible elements) :=
  asks_filterM (fun _ => asks_asking (Script.asks_request ⟨rfl, rfl⟩)) elements

theorem quiet_firstVisible (first : Handle) (others : List Handle) :
    Asks Quiet (Actor.firstVisible first others) := by
  unfold Actor.firstVisible
  split
  · exact asks_pure first
  · exact (quiet_visible _).bind fun _ => asks_pure _

end Quiet

section Asks

open Job Request

variable {P : Request → Prop} {d : Driver} {root : Handle}

theorem asks_log (logs : ∀ note, P (.log note)) (level : Level) (text : String) :
    Asks P (log level text) := asks_report (logs _)

namespace Lookup

variable (executes : ∀ kind value, Asks P (d.execute kind value root))

include executes

theorem asks_runQuery (q : Query) : Asks P (runQuery d q root) :=
  (executes q.kind q.value).bind fun _ => asks_pure _

theorem asks_runTier (t : Tier) : Asks P (runTier d t root) := by
  unfold runTier
  split
  · exact (asks_runQuery executes t.query).caught
  · exact (asks_runQuery executes t.query).bind fun _ => asks_pure _

theorem asks_firstAnswer (tiers : List Tier) : Asks P (firstAnswer d root tiers) := by
  induction tiers with
  | nil => exact asks_pure []
  | cons t rest ih =>
    refine (asks_runQuery executes t.query).bind fun found => ?_
    split
    · exact ih
    · exact asks_pure _

theorem asks_resolveOption (option : Value) : Asks P (resolveOption d root option) :=
  (asks_lift _).bind fun tiers => (asks_firstAnswer executes tiers).bind fun _ =>
    (asks_lift _).bind fun _ => asks_pure _

theorem asks_resolveAll (options : List Value) : Asks P (resolveAll d root options) := by
  induction options with
  | nil => exact asks_pure _
  | cons option rest ih =>
    exact (asks_resolveOption executes option).bind fun _ => ih.bind fun _ => asks_pure _

variable (logs : ∀ note, P (.log note))

include logs

theorem asks_resolveOptions (options : Value) : Asks P (resolveOptions d root options) := by
  refine (asks_lift _).bind fun all => (asks_resolveAll executes all).bind fun m => ?_
  split
  · exact (asks_log logs ..).bind fun _ => asks_pure m
  · exact asks_pure m

theorem asks_searchTiers (l : Locator) (family : Family) (tiers : List Tier) :
    Asks P (searchTiers d l family root tiers) := by
  induction tiers with
  | nil => exact (asks_lift _).bind fun _ => (asks_log logs ..).bind fun _ => asks_pure []
  | cons t rest ih =>
    refine (asks_runTier executes t).bind fun found => ?_
    split
    · exact (asks_lift _).bind fun _ => (asks_log logs ..).bind fun _ => ih
    · exact (asks_lift _).bind fun _ => (asks_log logs ..).bind fun _ => ih
    · exact (asks_lift _).bind fun _ => (asks_log logs ..).bind fun _ => asks_pure _

theorem asks_resolveDirectly (l : Locator) : Asks P (resolveDirectly d l root) :=
  (asks_lift _).bind fun q => (asks_lift _).bind fun _ => (asks_lift _).bind fun _ =>
    (asks_lift _).bind fun _ => (asks_log logs ..).bind fun _ => asks_runQuery executes q

theorem asks_resolveLocator (l : Locator) (family : Family) :
    Asks P (resolveLocator d l family root) := by
  unfold resolveLocator
  split
  · exact (asks_lift _).bind fun _ => asks_throw _
  · exact (asks_lift _).bind fun _ => (asks_log logs ..).bind fun _ => asks_pure []
  · exact (asks_lift _).bind fun tiers => asks_searchTiers executes logs l family tiers
  · exact asks_resolveDirectly executes logs l

theorem asks_resolve (filters : List Filter) (v : Value) (family : Family) :
    Asks P (resolve filters d v family root) :=
  (asks_lift _).bind fun l => asks_resolveLocator executes logs l family

end Lookup

end Asks

section Searches

open Job Request

theorem searches_note (root : Handle) (note : Note) : (log note).Searches root :=
  Quiet.searches ⟨rfl, rfl⟩ root

theorem searches_query (root : Handle) (kind value : Value) :
    Asks (Searches root) (Driver.direct.execute kind value root) := by
  refine asks_asking (Script.asks_request ⟨?_, rfl⟩)
  intro place called
  exact (Option.some.inj called).symm

theorem searches_enterFrames (root : Handle) (frames : List Value) :
    Asks (Searches root) (enterFrames root frames) := by
  refine asks_asking (Script.asks_request ⟨?_, rfl⟩)
  intro place called
  exact (Option.some.inj called).symm

theorem Lookup.searches_resolve (filters : List Filter) (v : Value) (family : Family)
    (root : Handle) : Asks (Searches root) (resolve filters .direct v family root) :=
  asks_resolve (searches_query root) (searches_note root) filters v family

theorem Lookup.searches_resolveOptions (select : Handle) (options : Value) :
    Asks (Searches select) (resolveOptions .direct select options) :=
  asks_resolveOptions (searches_query select) (searches_note select) options

theorem Scope.searches_narrowTo (l : Locator) (root : Handle) :
    Asks (Searches root) (narrowTo .direct l root) := by
  unfold narrowTo
  split
  · exact searches_enterFrames root (frameChain l)
  · have looks := Lookup.asks_resolveLocator (searches_query root) (searches_note root) l .element
    refine looks.bind fun found => ?_
    split
    · exact asks_throw _
    · exact asks_pure _

theorem Actor.searches_searchRoot {actor : Actor} (direct : actor.driver = .direct) (c : Context)
    (narrowing : Value) : Asks (Searches c.root) (actor.searchRoot c narrowing) := by
  unfold searchRoot
  split
  · exact asks_pure c.root
  · rw [direct]
    exact (asks_lift _).bind fun l => Scope.searches_narrowTo l c.root

end Searches

end ElementSearch
