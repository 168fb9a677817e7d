import ElementSearch.Proofs.Locator.Refusal

/-! What classification makes of plain values.
Only an object without a kind is ever refused, and only where a kind is demanded.  Everything else
becomes a locator whose fields fit its kind, and so do the locators in it, at every depth; such a
locator compiles to a query unless it is a frame, has no kind, or has props of no use.  All this is
so unless a whole number that is to be written has too many digits. -/

namespace ElementSearch

namespace Value

theorem plain_get? {entries : Entries} (plain : hasPlainEntries entries = true) {key v : Value}
    (found : entries.get? key = some v) : v.isPlain = true := by
  obtain ⟨entry, first, rfl⟩ := Option.map_eq_some_iff.mp found
  exact (plain_of_entry plain (List.mem_of_find?_eq_some first)).2

end Value

namespace LocatorOf

open Value

/-- Props that tests can be read off: none at all, or a dictionary. -/
def GiveTests (props : Value) : Prop := props.isTruthy = false ∨ props.isDict = true

/-- What the fields of a locator have to do with what it was classified from, the frames in it
aside. -/
structure IsSound (v : Value) (l : Locator) : Prop where
  engine : l.engine ≠ .null ↔ l.kind = .custom
  shadow : l.kind = .shadow → ∃ hosts, l.value = .tuple hosts
  strict : l.strict = .bool v.isDict
  refused : v.Spelled →
    ((∃ fault, l.toQuery = .error fault ∧ fault.IsInvalidKind) ↔ l.IsNeverQuery)
  compiled : v.Spelled → ¬l.IsNeverQuery → GiveTests l.props → ∃ q, l.toQuery = .ok q
  failed : ∀ fault, l.toQuery = .error fault → fault = .longNumber ∧ ¬v.Spelled ∨
    fault.IsInvalidKind ∧ l.IsNeverQuery ∨
    fault = .missingAttribute ∧ ¬l.IsNeverQuery ∧ ¬GiveTests l.props

mutual

/-- A locator that fits what it was classified from, as does every locator in it. -/
inductive IsWellFormed : Value → Locator → Prop
  | single {v : Value} {l : Locator} (sound : IsSound v l) (kind : l.kind ≠ .frame) :
    IsWellFormed v l
  | frame {entries : Entries} {x : Value} {l : Locator} (sound : IsSound (.dict entries) l)
      (kind : l.kind = .frame) (leads : leading? entries = some (.text "frame", x))
      (inner : AreFrames x l.value) : IsWellFormed (.dict entries) l

inductive AreFrames : Value → Value → Prop
  | one {x : Value} {l : Locator} (each : IsWellFormed x l) : AreFrames x (.locator l)
  | ofList {items members : List Value} (each : AreMembers items members) :
    AreFrames (.list items) (.tuple members)
  | ofTuple {items members : List Value} (each : AreMembers items members) :
    AreFrames (.tuple items) (.tuple members)

inductive AreMembers : List Value → List Value → Prop
  | nil : AreMembers [] []
  | cons {x : Value} {l : Locator} {items members : List Value} (first : IsWellFormed x l)
      (rest : AreMembers items members) : AreMembers (x :: items) (.locator l :: members)

end

section Queries

variable {l : Locator} {fault : Fault}

theorem unshown_of_error {place : Place} {v : Value} (failed : displayAt place v = .error fault) :
    ¬v.wellShown = true := by
  intro shown
  obtain ⟨s, displayed⟩ := displayAt_of_wellShown place v shown
  rw [failed] at displayed
  cases displayed

theorem propTests_error {entries : Entries} (plain : hasPlainEntries entries = true)
    (failed : propTests entries = .error fault) :
    fault = .longNumber ∧ ¬wellShownEntries entries = true := by
  induction entries with
  | nil => cases failed
  | cons entry rest ih =>
    obtain ⟨key, v⟩ := entry
    have parts := plain_cons_iff.mp plain
    simp only [wellShownEntries, Bool.and_eq_true]
    rcases Outcome.bind_eq_error failed with name | ⟨_, _, failed⟩
    · exact ⟨longNumber_of_displayAt parts.key (by decide) name,
        fun shown => unshown_of_error name shown.1.1⟩
    rcases Outcome.bind_eq_error failed with value | ⟨_, _, failed⟩
    · exact ⟨longNumber_of_displayAt parts.value (by decide) value,
        fun shown => unshown_of_error value shown.1.2⟩
    rcases Outcome.bind_eq_error failed with others | ⟨_, _, done⟩
    · obtain ⟨long, unshown⟩ := ih parts.rest others
      exact ⟨long, fun shown => unshown shown.2⟩
    · cases done

theorem propSuffix_error {props : Value} (plain : props.isPlain = true)
    (failed : propSuffix props = .error fault) :
    fault = .longNumber ∧ ¬props.wellShown = true ∨
      fault = .missingAttribute ∧ ¬GiveTests props := by
  by_cases object : props.isDict = true
  · obtain ⟨entries, rfl⟩ := exists_of_isDict object
    exact .inl (propTests_error plain failed)
  · have unwritten : propSuffix props =
        if props.isTruthy then .error .missingAttribute else .ok "" := by
      cases props with
      | dict _ => exact absurd rfl object
      | _ => rfl
    rw [unwritten] at failed
    split at failed
    · rename_i truthy
      cases failed
      exact .inr ⟨rfl, by simp [GiveTests, truthy, object]⟩
    · cases failed

theorem wording_error (value : l.value.isPlain = true) (props : l.props.isPlain = true)
    (failed : l.wording = .error fault) :
    fault = .longNumber ∧ ¬FieldsShown l ∨ fault = .missingAttribute ∧ ¬GiveTests l.props := by
  have shown {β : Type} {f : String → Outcome β} (done : ∀ s, f s = .error fault →
      fault = .longNumber ∧ ¬FieldsShown l ∨ fault = .missingAttribute ∧ ¬GiveTests l.props)
      (failed : l.value.display >>= f = .error fault) :
      fault = .longNumber ∧ ¬FieldsShown l ∨ fault = .missingAttribute ∧ ¬GiveTests l.props := by
    rcases Outcome.bind_eq_error failed with unnamed | ⟨s, _, failed⟩
    · exact .inl ⟨longNumber_of_displayAt value (by decide) unnamed,
        fun fields => unshown_of_error unnamed fields.value⟩
    · exact done s failed
  have written {g : String → String} (failed : (do return g (← l.value.display)) = .error fault) :
      fault = .longNumber ∧ ¬FieldsShown l ∨ fault = .missingAttribute ∧ ¬GiveTests l.props :=
    shown (f := fun s => .ok (g s)) (fun _ done => by cases done) failed
  have component (s : String) (failed : (do return s ++ (← propSuffix l.props)) = .error fault) :
      fault = .longNumber ∧ ¬FieldsShown l ∨ fault = .missingAttribute ∧ ¬GiveTests l.props := by
    rcases Outcome.bind_eq_error failed with failed | ⟨_, _, done⟩
    · exact (propSuffix_error props failed).imp_left fun ⟨long, unshown⟩ =>
        ⟨long, fun fields => unshown fields.props⟩
    · cases done
  unfold wording at failed
  split at failed
  · exact written failed
  · exact written failed
  · exact shown component failed
  · exact shown component failed
  · exact written failed

theorem toQuery_error (tidy : l.IsTidy) (props : l.props.isPlain = true)
    (failed : l.toQuery = .error fault) :
    fault = .longNumber ∧ ¬FieldsShown l ∨ fault.IsInvalidKind ∧ l.IsNeverQuery ∨
      fault = .missingAttribute ∧ ¬l.IsNeverQuery ∧ ¬GiveTests l.props := by
  by_cases never : l.IsNeverQuery
  · rw [toQuery_of_isNeverQuery never] at failed
    cases shown : (Value.locator l).display with
    | ok s =>
      obtain ⟨fault', refused, invalid⟩ := refuse_eq ⟨s, shown⟩
      rw [refused] at failed
      cases failed
      exact .inr (.inl ⟨invalid, never⟩)
    | error fault' =>
      rw [refuse_of_unnamed shown] at failed
      cases failed
      exact .inl ⟨tidy.longNumber_of_display shown,
        fun fields => unshown_of_error shown (wellShown_locator_iff.mpr fields)⟩
  by_cases shows : l.ShowsValue
  · rw [toQuery_of_showsValue shows] at failed
    have plain := tidy.value fun frame => never (.inl frame)
    rcases wording_error plain props (Outcome.map_eq_error failed) with long | useless
    · exact .inl long
    · exact .inr (.inr ⟨useless.1, never, useless.2⟩)
  · rw [toQuery_of_carried tidy.shadow never shows] at failed
    cases failed

theorem sound_of_tidy {v : Value} (tidy : l.IsTidy) (props : l.props.isPlain = true)
    (shown : v.Spelled → FieldsShown l) (engine : l.engine ≠ .null ↔ l.kind = .custom)
    (strict : l.strict = .bool v.isDict) : IsSound v l where
  engine := engine
  shadow := tidy.shadow
  strict := strict
  refused spelled := by
    constructor
    · rintro ⟨fault, failed, _, _, _, rfl⟩
      rcases toQuery_error tidy props failed with ⟨long, _⟩ | ⟨_, never⟩ | ⟨useless, _⟩
      · cases long
      · exact never
      · cases useless
    · intro never
      obtain ⟨fault, failed⟩ := refused_of_isNeverQuery never
      rcases toQuery_error tidy props failed with ⟨_, unshown⟩ | ⟨invalid, _⟩ | ⟨_, single, _⟩
      · exact absurd (shown spelled) unshown
      · exact ⟨fault, failed, invalid⟩
      · exact absurd never single
  compiled spelled single useful := by
    cases compiled : l.toQuery with
    | ok q => exact ⟨q, rfl⟩
    | error fault =>
      rcases toQuery_error tidy props compiled with ⟨_, unshown⟩ | ⟨_, never⟩ | ⟨_, _, useless⟩
      · exact absurd (shown spelled) unshown
      · exact absurd never single
      · exact absurd useful useless
  failed fault failed :=
    (toQuery_error tidy props failed).imp_left fun ⟨long, unshown⟩ => ⟨long, mt shown unshown⟩

end Queries

theorem wellFormed_ofText {fallback : Kind} (selector : fallback = .fuzzy ∨ fallback = .css)
    (s : String) {v : Value} (single : v.isDict = false) :
    IsWellFormed v (ofText fallback s) := by
  have read := read_ofText selector s
  have props : (ofText fallback s).props.isPlain = true := by
    rw [read.props]
    rfl
  have strict : (ofText fallback s).strict = .bool v.isDict := by rw [read.strict, single]
  exact .single (sound_of_tidy (.read selector s) props (fun _ => shown_ofText fallback s)
    read.custom strict) read.kind.2.1

theorem wellFormed_unknown {v raw : Value} (plain : raw.isPlain = true)
    (spelled : v.Spelled → raw.Spelled) :
    IsWellFormed v { make .unknown .null raw with strict := .bool v.isDict } := by
  have shown (all : v.Spelled) := wellShown_locator_iff.mp
    (wellShown_unknown (wellShown_of_plain raw plain (spelled all)) v.isDict)
  exact .single (sound_of_tidy (.unknown raw _) rfl shown (by simp [make]) rfl) nofun

section Heads

variable {entries : Entries} {key x : Value} {head : Head}

theorem eq_frame_of_kind (kind : kindOfKey key = .frame) : key = .text "frame" := by
  unfold kindOfKey at kind
  split at kind
  · rename_i s
    cases found : Kind.ofKey? s with
    | none =>
      rw [found] at kind
      cases kind
    | some k =>
      rw [found] at kind
      have label : k.label = s := by simpa using List.find?_some found
      obtain rfl : k = .frame := kind
      rw [← label]
      rfl
  · cases kind

theorem headOf_eq_some (found : headOf [] entries = .ok (some head)) :
    ∃ key x, leading? entries = some (key, x) ∧ key ≠ .null ∧ headFor key x = .ok head := by
  rw [headOf_eq] at found
  cases first : leading? entries with
  | none =>
    rw [first] at found
    cases found
  | some entry =>
    obtain ⟨key, x⟩ := entry
    rw [first] at found
    simp only at found
    split at found
    · cases found
    · rename_i given
      obtain ⟨head', said, same⟩ := Outcome.map_eq_ok found
      cases same
      exact ⟨key, x, rfl, given ∘ isNull_iff.mpr, said⟩

theorem engine_of_headFor (given : key ≠ .null) (said : headFor key x = .ok head) :
    head.engine ≠ .null ↔ head.kind = .custom := by
  unfold headFor at said
  split at said
  · obtain ⟨inner, _, rfl⟩ := Outcome.map_eq_ok said
    simp
  · cases said
    simp
  · cases said
    simp [given]
  · rename_i other
    cases said
    exact ⟨fun set => absurd rfl set, fun custom => absurd custom other⟩

theorem framed_of_headFor (said : headFor key x = .ok head) (kind : head.kind = .frame) :
    key = .text "frame" ∧ framed x = .ok head.value := by
  unfold headFor at said
  split at said
  · rename_i named
    obtain ⟨inner, framed, rfl⟩ := Outcome.map_eq_ok said
    exact ⟨eq_frame_of_kind named, framed⟩
  · cases said
    cases kind
  · cases said
    cases kind
  · rename_i other _ _
    cases said
    exact absurd kind other

end Heads

theorem plain_propsOf {entries : Entries} (plain : hasPlainEntries entries = true) :
    (propsOf entries).isPlain = true := by
  rw [propsOf]
  cases found : entries.get? (.text "props") with
  | none => rfl
  | some v => exact plain_get? plain found

theorem sound_ofHead {entries : Entries} (plain : hasPlainEntries entries = true) {head : Head}
    (found : headOf [] entries = .ok (some head)) :
    IsSound (.dict entries) (ofHead entries (some head)) := by
  obtain ⟨key, x, _, given, said⟩ := headOf_eq_some found
  have shown (spelled : (Value.dict entries).Spelled) :
      FieldsShown (ofHead entries (some head)) := by
    have all := wellShown_of_plain (.dict entries) plain spelled
    obtain ⟨value, engine⟩ := wellShown_of_headOf entries all found
    exact wellShown_locator_iff.mp (wellShown_ofHead all value engine)
  exact sound_of_tidy (tidy_of_headOf entries plain found entries)
    (plain_propsOf plain) shown (engine_of_headFor given said) rfl

theorem wellFormed_of_single {fallback : Kind} (selector : fallback = .fuzzy ∨ fallback = .css)
    {v : Value} (plain : v.isPlain = true) (single : v.isDict = false) {l : Locator}
    (classified : classify [] fallback false v = .ok l) : IsWellFormed v l := by
  cases v with
  | locator _ => cases plain
  | dict _ => cases single
  | null =>
    cases classified
    exact wellFormed_unknown rfl id
  | text s =>
    simp only [classify, Filter.applyAll_nil] at classified
    split at classified
    · cases classified
      exact wellFormed_unknown (v := .text s) rfl id
    · cases classified
      exact wellFormed_ofText selector s rfl
  | bool _ | int _ | float _ | list _ | tuple _ =>
    rw [classify] at classified
    obtain ⟨s, _, rfl⟩ := ofWritten_eq_ok classified
    exact wellFormed_ofText selector s rfl

theorem frames_of_single {x : Value} (plain : x.isPlain = true) (single : x.isDict = false)
    {inner : Value} (given : (classify [] .css false x).map .locator = .ok inner) :
    AreFrames x inner := by
  obtain ⟨l, classified, rfl⟩ := Outcome.map_eq_ok given
  exact .one (wellFormed_of_single (.inr rfl) plain single classified)

theorem wellFormed_of_object {entries : Entries} (plain : hasPlainEntries entries = true)
    (each : ∀ entry ∈ entries, ∀ inner, framed entry.2 = .ok inner → AreFrames entry.2 inner)
    {fallback : Kind} {l : Locator}
    (classified : classify [] fallback false (.dict entries) = .ok l) :
    IsWellFormed (.dict entries) l := by
  rw [classify] at classified
  obtain ⟨head, found, rest⟩ := Outcome.bind_eq_ok classified
  cases head with
  | none =>
    cases rest
    exact wellFormed_unknown (v := .dict entries) plain id
  | some head =>
    cases rest
    have sound := sound_ofHead plain found
    by_cases kind : head.kind = .frame
    · obtain ⟨key, x, leads, _, said⟩ := headOf_eq_some found
      obtain ⟨rfl, inner⟩ := framed_of_headFor said kind
      exact .frame sound kind leads (each _ (List.mem_of_find?_eq_some leads) head.value inner)
    · exact .single sound kind

mutual

theorem wellFormed_of_classify {fallback : Kind} (selector : fallback = .fuzzy ∨ fallback = .css) :
    (v : Value) → v.isPlain = true → ∀ l, classify [] fallback false v = .ok l → IsWellFormed v l
  | .dict entries, plain, _, classified =>
    wellFormed_of_object plain (frames_of_entries entries plain) classified
  | .locator _, plain, _, _ => by cases plain
  | .null, plain, _, classified | .text _, plain, _, classified | .bool _, plain, _, classified
  | .int _, plain, _, classified | .float _, plain, _, classified
  | .list _, plain, _, classified | .tuple _, plain, _, classified =>
    wellFormed_of_single selector plain rfl classified

theorem frames_of_entries :
    (entries : List (Value × Value)) → hasPlainEntries entries = true →
      ∀ entry ∈ entries, ∀ inner, framed entry.2 = .ok inner → AreFrames entry.2 inner
  | [], _ => fun _ mem => nomatch mem
  | (_, x) :: rest, plain => by
    have parts := plain_cons_iff.mp plain
    exact List.forall_mem_cons.mpr
      ⟨frames_of_framed x parts.value, frames_of_entries rest parts.rest⟩

theorem frames_of_framed :
    (x : Value) → x.isPlain = true → ∀ inner, framed x = .ok inner → AreFrames x inner
  | .list items, plain, _, given => by
    obtain ⟨members, all, rfl⟩ := Outcome.map_eq_ok given
    exact .ofList (members_of_frames items plain members all)
  | .tuple items, plain, _, given => by
    obtain ⟨members, all, rfl⟩ := Outcome.map_eq_ok given
    exact .ofTuple (members_of_frames items plain members all)
  | .dict entries, plain, _, given => by
    simp only [framed] at given
    obtain ⟨l, classified, rfl⟩ := Outcome.map_eq_ok given
    exact .one (wellFormed_of_object plain (frames_of_entries entries plain) classified)
  | .locator _, plain, _, _ => by cases plain
  | .null, plain, _, given | .text _, plain, _, given | .bool _, plain, _, given
  | .int _, plain, _, given | .float _, plain, _, given => by
    simp only [framed] at given
    exact frames_of_single plain rfl given

theorem members_of_frames :
    (items : List Value) → arePlain items = true → ∀ members, frames [] items = .ok members →
      AreMembers items members
  | [], _, _, given => by
    cases given
    exact .nil
  | x :: rest, plain, _, given => by
    obtain ⟨plainFirst, plainRest⟩ := Bool.and_eq_true_iff.mp plain
    rw [frames] at given
    obtain ⟨l, first, others⟩ := Outcome.bind_eq_ok given
    obtain ⟨tail, all, done⟩ := Outcome.bind_eq_ok others
    cases done
    exact .cons (wellFormed_of_classify (.inr rfl) x plainFirst l first)
      (members_of_frames rest plainRest tail all)

end

/-- Only an object without a kind is refused, and only where a kind is demanded: as one of an
invalid kind if the object can be shown.  Everything else becomes a locator as it should be, but for
what would have to be written out and holds a whole number with too many digits. -/
theorem classify_well_formed {fallback : Kind} (selector : fallback = .fuzzy ∨ fallback = .css)
    (strict : Bool) {v : Value} (plain : v.isPlain = true) :
    match classify [] fallback strict v with
    | .ok l => ¬(strict = true ∧ IsKindless v) ∧ IsWellFormed v l
    | .error fault => (strict = true ∧ IsKindless v) ∧ Complains v fault ∨
      ¬(strict = true ∧ IsKindless v) ∧ fault = .longNumber ∧ ¬v.Spelled := by
  by_cases refused : strict = true ∧ IsKindless v
  · obtain ⟨rfl, kindless⟩ := refused
    rw [classify_of_kindless fallback kindless]
    exact .inl ⟨⟨rfl, kindless⟩, fault_invalidKind kindless.isDict plain⟩
  · rw [classify_of_allowed fallback refused]
    cases classified : classify [] fallback false v with
    | ok l => exact ⟨refused, wellFormed_of_classify selector v plain l classified⟩
    | error fault => exact .inr ⟨refused, longNumber_of_classify fallback v classified⟩

theorem classify_well_formed_nestedFrames :
    let inner := Value.dict [(.text "frame", .text "login")]
    let v := Value.dict [(.text "frame", .list [.text "#outer", inner])]
    v.isPlain = true ∧ ∃ l, classify [] .fuzzy true v = .ok l ∧ l.kind = .frame ∧
      IsWellFormed v l := by
  intro inner v
  have well := classify_well_formed (.inl rfl) true (v := v) rfl
  exact ⟨rfl, _, rfl, rfl, well.2⟩

end LocatorOf

end ElementSearch
