import ElementSearch.Proofs.Locator.Shown
import ElementSearch.Proofs.Locator.WellFormed

/-! Locators restated as objects.
The object of a locator says its kind and its value again, under the key that stands for the kind.
Reading it gives the locator back, but for its props, if and only if its value has the shape that
reading would give it and its engine is one that reading could find.  Whatever is not a locator
already is read as one of which this is so. -/

namespace ElementSearch

/-- The keys of a dictionary can be looked up. -/
def Value.isKeyed : Value → Bool
  | .dict entries => entries.all fun entry => entry.1.isHashable
  | _ => true

namespace LocatorOf

open Value

inductive IsFrames : Value → Prop
  | one (l : Locator) : IsFrames (.locator l)
  | chain (ls : List Locator) : IsFrames (.tuple (ls.map .locator))

/-- The fields of a locator agree with its kind, as they do when it is read off an object. -/
structure FitsKind (l : Locator) : Prop where
  key : l.key.isHashable = true
  engine : l.engine.isTruthy = true →
    l.kind = .custom ∧ kindOfKey l.engine = .custom ∧ isAuxiliary l.engine = false
  frame : l.kind = .frame → IsFrames l.value
  shadow : l.kind = .shadow → ∃ hosts, l.value = .tuple hosts

/-- The object that is made of the locator, and the locator that it is read as. -/
structure IsGivenBack (l : Locator) (o : Value) (m : Locator) : Prop where
  object : l.toStrict = .ok o
  read : classify [] .fuzzy false o = .ok m
  kind : m.kind = l.kind
  value : m.value = l.value
  engine : l.engine.isTruthy = true → m.engine = l.engine

section Frames

theorem frames_locators (ls : List Locator) :
    frames [] (ls.map .locator) = .ok (ls.map .locator) := by
  induction ls with
  | nil => simp [frames]
  | cons l rest ih =>
    rw [List.map_cons, frames, classify_locator, ih]
    rfl

theorem framed_of_isFrames {x : Value} (inner : IsFrames x) : framed x = .ok x := by
  cases inner with
  | one l =>
    simp only [framed, classify_locator]
    rfl
  | chain ls =>
    rw [framed, frames_locators]
    rfl

theorem locators_of_frames {items members : List Value} (all : frames [] items = .ok members) :
    ∃ ls : List Locator, members = ls.map .locator := by
  induction items generalizing members with
  | nil =>
    rw [frames] at all
    cases all
    exact ⟨[], rfl⟩
  | cons x xs ih =>
    rw [frames] at all
    obtain ⟨l, _, rest⟩ := Outcome.bind_eq_ok all
    obtain ⟨others, framed, same⟩ := Outcome.bind_eq_ok rest
    obtain ⟨ls, rfl⟩ := ih framed
    cases same
    exact ⟨l :: ls, rfl⟩

theorem isFrames_of_framed {x inner : Value} (given : framed x = .ok inner) : IsFrames inner := by
  have several {items : List Value}
      (given : (frames [] items).map Value.tuple = .ok inner) : IsFrames inner := by
    obtain ⟨members, all, rfl⟩ := Outcome.map_eq_ok given
    obtain ⟨ls, rfl⟩ := locators_of_frames all
    exact .chain ls
  unfold framed at given
  split at given
  · exact several given
  · exact several given
  · obtain ⟨l, _, rfl⟩ := Outcome.map_eq_ok given
    exact .one l

end Frames

section Heads

variable {entries : Entries} {key x : Value} {head : Head}

theorem kindOfKey_label {kind : Kind} (other : kind ≠ .fuzzy ∧ kind ≠ .unknown) :
    kindOfKey (.text kind.label) = kind ∧ isAuxiliary (.text kind.label) = false := by
  cases kind with
  | fuzzy => exact absurd rfl other.1
  | unknown => exact absurd rfl other.2
  | _ => exact ⟨by decide, by decide⟩

theorem fields_of_headFor (said : headFor key x = .ok head) :
    head.kind = kindOfKey key ∧ (head.kind = .custom → head.engine = key) ∧
      (head.kind = .shadow → head.value = shadowHosts x) := by
  unfold headFor at said
  split at said
  · rename_i kind
    obtain ⟨inner, _, rfl⟩ := Outcome.map_eq_ok said
    exact ⟨kind.symm, fun custom => (by cases custom), fun shadow => (by cases shadow)⟩
  · rename_i kind
    cases said
    exact ⟨kind.symm, fun custom => (by cases custom), fun _ => rfl⟩
  · rename_i kind
    cases said
    exact ⟨kind.symm, fun _ => rfl, fun shadow => (by cases shadow)⟩
  · rename_i notShadow notCustom
    cases said
    exact ⟨rfl, fun custom => absurd custom notCustom, fun shadow => absurd shadow notShadow⟩

theorem propsOf_single {key x : Value} (auxiliary : isAuxiliary key = false) :
    propsOf [(key, x)] = .null := by
  have other : key.same (.text "props") = false := by
    refine Bool.eq_false_iff.mpr fun same => ?_
    rw [eq_text_of_same_right same] at auxiliary
    cases auxiliary
  rw [propsOf, Dict.get?, List.find?_cons_of_neg (by simpa using other)]
  rfl

theorem classify_single (fallback : Kind) (auxiliary : isAuxiliary key = false)
    (given : key.isNull = false) :
    classify [] fallback false (.dict [(key, x)]) =
      (headFor key x).map fun head => ofHead [(key, x)] (some head) := by
  have leads : leading? [(key, x)] = some (key, x) := by
    rw [leading?, List.find?_cons_of_pos (by simpa using auxiliary)]
  rw [classify, headOf_eq, leads]
  simp only [given]
  cases headFor key x <;> rfl

end Heads

section Restated

variable {l m : Locator} {o : Value}

/-- The locator that the object of a locator is read as. -/
def restated (l : Locator) : Locator :=
  { make l.kind l.value (.dict [(l.key, l.value)]) with
    engine := if l.kind = .custom then l.key else .null, strict := .bool true }

theorem toStrict_of_key (known : l.kind ≠ .unknown) (key : l.key.isHashable = true) :
    l.toStrict = .ok (.dict [(l.key, l.value)]) := by
  rw [toStrict, if_neg known, if_pos key]

theorem key_of_other (other : l.kind ≠ .custom) : l.key = .text l.kind.label := by
  simp [key, other]

theorem key_of_engine (custom : l.kind = .custom) (engine : l.engine.isTruthy = true) :
    l.key = l.engine := by
  simp [key, custom, engine]

theorem key_of_no_engine (engine : l.engine.isTruthy = false) : l.key = .text l.kind.label := by
  simp [key, engine]

theorem key_names (fits : FitsKind l) (known : l.kind ≠ .unknown) (single : l.kind ≠ .fuzzy) :
    kindOfKey l.key = l.kind ∧ isAuxiliary l.key = false := by
  by_cases engine : l.engine.isTruthy = true
  · obtain ⟨custom, names, auxiliary⟩ := fits.engine engine
    rw [key_of_engine custom engine, custom]
    exact ⟨names, auxiliary⟩
  · rw [key_of_no_engine (Bool.eq_false_iff.mpr engine)]
    exact kindOfKey_label ⟨single, known⟩

theorem truthy_key (l : Locator) : l.key.isTruthy = true := by
  unfold key
  split
  · rename_i both
    exact (Bool.and_eq_true_iff.mp both).2
  · cases l.kind <;> decide

theorem headFor_key (fits : FitsKind l) (known : l.kind ≠ .unknown) (single : l.kind ≠ .fuzzy) :
    headFor l.key l.value =
      .ok ⟨l.kind, if l.kind = .custom then l.key else .null, l.value⟩ := by
  have kind := (key_names fits known single).1
  unfold headFor
  rw [kind]
  split
  · rename_i frame
    rw [framed_of_isFrames (fits.frame frame)]
    simp only [frame]
    rfl
  · rename_i shadow
    obtain ⟨hosts, tuple⟩ := fits.shadow shadow
    rw [shadow, tuple]
    rfl
  · rename_i custom
    rw [custom]
    rfl
  · rename_i custom
    rw [if_neg custom]

theorem read_restated (fits : FitsKind l) (known : l.kind ≠ .unknown) (single : l.kind ≠ .fuzzy) :
    classify [] .fuzzy false (.dict [(l.key, l.value)]) = .ok l.restated := by
  have auxiliary := (key_names fits known single).2
  have given : l.key.isNull = false := by
    refine Bool.eq_false_iff.mpr fun null => ?_
    have truthy := truthy_key l
    rw [isNull_iff.mp null] at truthy
    cases truthy
  rw [classify_single .fuzzy auxiliary given, headFor_key fits known single]
  simp only [Except.map, ofHead, propsOf_single auxiliary]
  rfl

theorem key_restated (l : Locator) : l.restated.key = l.key := by
  by_cases custom : l.kind = .custom
  · have engine : l.restated.engine = l.key := if_pos custom
    rw [key_of_engine (l := l.restated) custom (engine ▸ truthy_key l), engine]
  · rw [key_of_other custom, key_of_other (l := l.restated) custom]
    rfl

theorem givenBack_of_fits (fits : FitsKind l) (known : l.kind ≠ .unknown)
    (single : l.kind ≠ .fuzzy) :
    IsGivenBack l (.dict [(l.key, l.value)]) l.restated where
  object := toStrict_of_key known fits.key
  read := read_restated fits known single
  kind := rfl
  value := rfl
  engine truthy := by
    obtain ⟨custom, _⟩ := fits.engine truthy
    rw [← key_of_engine custom truthy]
    exact if_pos custom

theorem fits_of_givenBack (back : IsGivenBack l o m) (known : l.kind ≠ .unknown) : FitsKind l := by
  obtain ⟨object, read, kind, value, engine⟩ := back
  rw [toStrict, if_neg known] at object
  split at object
  case isFalse => cases object
  rename_i hashable
  cases object
  have kinded : m.kind ≠ .unknown := kind ▸ known
  rw [classify] at read
  obtain ⟨head, found, rest⟩ := Outcome.bind_eq_ok read
  cases head with
  | none =>
    cases rest
    exact absurd rfl kinded
  | some head =>
    cases rest
    obtain ⟨key, x, leads, given, said⟩ := headOf_eq_some found
    -- the object has one entry, and that entry must be the one that says the kind
    obtain ⟨rfl, rfl⟩ : key = l.key ∧ x = l.value := by
      simpa using List.mem_of_find?_eq_some leads
    have auxiliary : isAuxiliary l.key = false := by
      simpa using List.find?_some leads
    obtain ⟨ownKind, ownEngine, ownShadow⟩ := fields_of_headFor said
    change head.kind = l.kind at kind
    change head.value = l.value at value
    change l.engine.isTruthy = true → head.engine = l.engine at engine
    refine ⟨hashable, fun truthy => ?_, fun frame => ?_, fun shadow => ?_⟩
    · have named : head.engine ≠ .null := by
        rw [engine truthy]
        rintro null
        rw [null] at truthy
        cases truthy
      have custom := (engine_of_headFor given said).mp named
      rw [← engine truthy, ownEngine custom]
      exact ⟨kind ▸ custom, ownKind ▸ custom, auxiliary⟩
    · obtain ⟨_, inner⟩ := framed_of_headFor said (kind.trans frame)
      exact value ▸ isFrames_of_framed inner
    · have hosts := ownShadow (kind.trans shadow)
      obtain ⟨hosts', tuple⟩ := shadowHosts_eq_tuple l.value
      exact ⟨hosts', by rw [← value, hosts, tuple]⟩

theorem isAccessibility_restated (l : Locator) :
    l.restated.isAccessibility = l.isAccessibility := by
  rw [Bool.eq_iff_iff, isAccessibility_iff, isAccessibility_iff]
  refine and_congr_right fun custom => ?_
  obtain custom : l.kind = .custom := custom
  have engine : l.restated.engine = l.key := if_pos custom
  rw [engine]
  by_cases truthy : l.engine.isTruthy = true
  · rw [key_of_engine custom truthy]
  · rw [key_of_no_engine (Bool.eq_false_iff.mpr truthy), custom]
    constructor
    · intro same
      exact absurd (Value.text.inj same) (by decide)
    · intro accessible
      rw [accessible] at truthy
      exact absurd rfl truthy

theorem simplify_restated (l : Locator) : l.restated.simplify = l.simplify := by
  rw [simplify, simplify, isAccessibility_restated]
  rfl

theorem propSuffix_of_not_truthy {props : Value} (bare : props.isTruthy = false) :
    propSuffix props = .ok "" := by
  cases props with
  | dict entries =>
    cases entries with
    | nil => rfl
    | cons entry rest => cases bare
  | locator _ => cases bare
  | _ => simp only [propSuffix, bare]; rfl

theorem toQuery_restated (bare : l.props.isTruthy = false) (sometimes : ¬l.IsNeverQuery) :
    l.restated.toQuery = l.toQuery := by
  have kinds : l.restated.kind = l.kind := rfl
  have values : l.restated.value = l.value := rfl
  have tests : propSuffix l.restated.props = propSuffix l.props :=
    (propSuffix_of_not_truthy bare).symm
  cases kind : l.kind with
  | frame => exact absurd (.inl kind) sometimes
  | unknown => exact absurd (.inr kind) sometimes
  | css | id | name | fuzzy | xpath | shadow =>
    simp only [toQuery, kinds, kind, values, simplify_restated]
  | react | vue => simp only [toQuery, toQuery.component, kinds, kind, values, tests]
  | custom =>
    have engine : l.restated.engine = l.key := if_pos kind
    simp only [toQuery, kinds, kind, values, simplify_restated, isAccessibility_restated, engine,
      truthy_key]
    by_cases truthy : l.engine.isTruthy = true
    · rw [key_of_engine kind truthy, truthy]
      rfl
    · rw [key_of_no_engine (Bool.eq_false_iff.mpr truthy), kind, if_neg truthy]
      rfl

theorem toQuery_of_fits (fits : FitsKind l) (shown : (Value.locator l).wellShown = true)
    (bare : l.props.isTruthy = false) (sometimes : ¬l.IsNeverQuery) :
    ∃ q, l.toQuery = .ok q := by
  obtain ⟨words, displayed⟩ : ∃ words, l.value.display = .ok words :=
    named_of_wellShown (wellShown_locator_iff.mp shown).value
  by_cases shows : l.ShowsValue
  · rw [toQuery_of_showsValue shows, wording, displayed, propSuffix_of_not_truthy bare]
    cases l.kind <;> exact ⟨_, rfl⟩
  · exact ⟨_, toQuery_of_carried fits.shadow sometimes shows⟩

theorem refused_of_frame (frame : l.kind = .frame)
    (shown : (Value.locator l).wellShown = true) :
    ∃ fault, l.toQuery = .error fault ∧ fault.IsInvalidKind := by
  rw [toQuery_of_isNeverQuery (.inl frame)]
  exact refuse_eq (named_of_wellShown shown)

theorem wellShown_restated (frame : l.kind = .frame)
    (shown : (Value.locator l).wellShown = true) :
    (Value.locator l.restated).wellShown = true := by
  have value := (wellShown_locator_iff.mp shown).value
  have engine : l.restated.engine = .null := if_neg (by rw [frame]; decide)
  have key : l.key = .text l.kind.label := key_of_other (by rw [frame]; decide)
  have raw : l.restated.raw.wellShown = true := by
    rw [show l.restated.raw = .dict [(l.key, l.value)] from rfl, key]
    simp [wellShown, wellShownEntries, value]
  exact wellShown_locator_iff.mpr ⟨.inl rfl, value, raw, engine ▸ rfl, rfl, rfl⟩

end Restated

section Classified

variable {l : Locator}

theorem hashable_key (engine : l.kind = .custom → l.engine.isHashable = true) :
    l.key.isHashable = true := by
  by_cases own : l.kind = .custom ∧ l.engine.isTruthy = true
  · rw [key_of_engine own.1 own.2]
    exact engine own.1
  · have label : l.key = .text l.kind.label := by simp [key, own]
    rw [label]
    rfl

theorem fits_make {kind : Kind} (other : kind ≠ .frame ∧ kind ≠ .shadow)
    (value raw output strict : Value) :
    FitsKind { make kind value raw with output := output, strict := strict } where
  key := hashable_key fun _ => rfl
  engine truthy := by cases truthy
  frame is := absurd is other.1
  shadow is := absurd is other.2

theorem fits_ofText (s : String) : FitsKind (ofText .fuzzy s) := by
  have engine : kindOfKey (.text accessibilityEngine) = .custom ∧
      isAuxiliary (.text accessibilityEngine) = false :=
    ⟨by decide, by decide⟩
  simp only [ofText]
  split
  · exact fits_make (by decide) _ _ _ _
  split
  · exact ⟨hashable_key fun _ => rfl, fun _ => ⟨rfl, engine⟩, fun frame => (by cases frame),
      fun shadow => (by cases shadow)⟩
  split
  · exact fits_make (by decide) _ _ _ _
  · exact fits_make (by decide) _ _ _ _

theorem fits_ofHead {entries : Entries} {head : Head} {key x : Value}
    (hashable : key.isHashable = true) (auxiliary : isAuxiliary key = false) (given : key ≠ .null)
    (said : headFor key x = .ok head) : FitsKind (ofHead entries (some head)) := by
  obtain ⟨kind, engine, shadow⟩ := fields_of_headFor said
  refine ⟨hashable_key fun custom => ?_, fun truthy => ?_, fun frame => ?_, fun hosted => ?_⟩
  · rw [show (ofHead entries (some head)).engine = key from engine custom]
    exact hashable
  · have named : head.engine ≠ .null := by
      rintro null
      rw [show (ofHead entries (some head)).engine = .null from null] at truthy
      cases truthy
    have custom := (engine_of_headFor given said).mp named
    rw [show (ofHead entries (some head)).engine = key from engine custom]
    exact ⟨custom, kind ▸ custom, auxiliary⟩
  · exact isFrames_of_framed (framed_of_headFor said frame).2
  · obtain ⟨hosts, tuple⟩ := shadowHosts_eq_tuple x
    exact ⟨hosts, (shadow hosted).trans tuple⟩

theorem fits_of_classify {v : Value} (other : v.locator? = none) (keyed : v.isKeyed = true)
    (classified : classify [] .fuzzy false v = .ok l) : FitsKind l := by
  cases v with
  | locator _ => cases other
  | null =>
    cases classified
    exact fits_make (by decide) _ _ _ _
  | text s =>
    simp only [classify, Filter.applyAll_nil] at classified
    split at classified
    · cases classified
      exact fits_make (by decide) _ _ _ _
    · cases classified
      exact fits_ofText s
  | bool _ | int _ | float _ | list _ | tuple _ =>
    rw [classify] at classified
    obtain ⟨s, _, rfl⟩ := ofWritten_eq_ok classified
    exact fits_ofText s
  | dict entries =>
    rw [classify] at classified
    obtain ⟨head, found, rest⟩ := Outcome.bind_eq_ok classified
    cases head with
    | none =>
      cases rest
      exact fits_make (by decide) _ _ _ _
    | some head =>
      cases rest
      obtain ⟨key, x, leads, given, said⟩ := headOf_eq_some found
      have hashable := List.all_eq_true.mp keyed _ (List.mem_of_find?_eq_some leads)
      have auxiliary : isAuxiliary key = false := by simpa using List.find?_some leads
      exact fits_ofHead hashable auxiliary given said

end Classified

/-- What becomes of a locator of the value when it is made into an object and read again. -/
structure IsUndone (v : Value) (l : Locator) (o : Value) (m : Locator) : Prop extends
    IsGivenBack l o m where
  again : m.toStrict = .ok o
  alike : l.props.isTruthy = false → l.kind ≠ .frame → m.toQuery = l.toQuery
  asked : v.wellShown = true → l.props.isTruthy = false →
    (∃ q, l.toQuery = .ok q ∧ m.toQuery = .ok q) ∨
      ∃ f g, l.toQuery = .error f ∧ m.toQuery = .error g ∧ f.IsInvalidKind ∧ g.IsInvalidKind

theorem undone_of_fits {v : Value} {l : Locator} (classified : classify [] .fuzzy false v = .ok l)
    (known : l.kind ≠ .unknown) (single : l.kind ≠ .fuzzy) (fits : FitsKind l) :
    IsUndone v l (.dict [(l.key, l.value)]) l.restated where
  toIsGivenBack := givenBack_of_fits fits known single
  again := by
    have key : l.restated.key.isHashable = true := by
      rw [key_restated]
      exact fits.key
    rw [toStrict_of_key (l := l.restated) known key, key_restated]
    rfl
  alike bare frame := toQuery_restated bare fun never => never.elim frame known
  asked shown bare := by
    have shown := wellShown_of_classify .fuzzy v shown l classified
    by_cases frame : l.kind = .frame
    · obtain ⟨f, refused, invalid⟩ := refused_of_frame frame shown
      obtain ⟨g, refused', invalid'⟩ :=
        refused_of_frame (l := l.restated) frame (wellShown_restated frame shown)
      exact .inr ⟨f, g, refused, refused', invalid, invalid'⟩
    · have sometimes : ¬l.IsNeverQuery := fun never => never.elim frame known
      obtain ⟨q, compiled⟩ := toQuery_of_fits fits shown bare sometimes
      exact .inl ⟨q, compiled, (toQuery_restated bare sometimes).trans compiled⟩

/-- Making a locator into an object is undone by reading the object, unless the locator was given
as one whose fields contradict its kind; then it is not. -/
theorem restated_undone (v : Value) (keyed : v.isKeyed = true) (l : Locator)
    (classified : classify [] .fuzzy false v = .ok l) (known : l.kind ≠ .unknown)
    (single : l.kind ≠ .fuzzy) :
    (v.locator? = none ∨ FitsKind l → ∃ o m, IsUndone v l o m) ∧
      ((∃ o m, IsGivenBack l o m) → FitsKind l) := by
  refine ⟨fun given => ?_, fun back => ?_⟩
  · have fits : FitsKind l := given.elim (fits_of_classify · keyed classified) id
    exact ⟨_, _, undone_of_fits classified known single fits⟩
  · obtain ⟨o, m, back⟩ := back
    exact fits_of_givenBack back known

def nested : Value :=
  .dict [("frame", .list [.locator (make .xpath "//iframe" .null), .dict [("shadow", "host")]])]

theorem nested_undone :
    nested.isKeyed = true ∧ ∃ l, classify [] .fuzzy false nested = .ok l ∧ l.kind = .frame ∧
      ∃ o m, IsUndone nested l o m := by
  obtain ⟨l, classified⟩ := classify_of_spelled .fuzzy (spelled_of_wellShown nested (by decide))
  have frame : l.kind = .frame := by
    cases classified
    rfl
  have undone := restated_undone nested rfl l classified (by simp [frame]) (by simp [frame])
  exact ⟨rfl, l, classified, frame, undone.1 (.inl rfl)⟩

/-- A text that was taken for a host without being put into a tuple. -/
def bareHost : Locator := { make .shadow "ab" "ab" with output := "ab" }

/-- A locator is classified as itself, so its value need not be what an object would give. -/
theorem bareHost_not_undone :
    classify [] .shadow false "ab" = .ok bareHost ∧
      classify [] .fuzzy false (.locator bareHost) = .ok bareHost ∧
      bareHost.kind = .shadow ∧
      ∃ o m, bareHost.toStrict = .ok o ∧ classify [] .fuzzy false o = .ok m ∧
        m.value ≠ bareHost.value := by
  refine ⟨?_, classify_locator _ _ _ _, rfl, .dict [("shadow", "ab")], _, rfl, rfl, nofun⟩
  rfl

end LocatorOf

end ElementSearch
