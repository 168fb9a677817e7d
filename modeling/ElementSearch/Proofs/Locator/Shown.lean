import ElementSearch.Proofs.Locator.Classify

/-! Locators that can be shown.
The output of a locator is a text or missing, and a whole number has few enough digits.  If that is
so for everything in a value, it is so for the locator that the value is classified as and for all
in it, and every one of them can be displayed and written out. -/

namespace ElementSearch

namespace Value

mutual

/-- Every locator in the value is shown as a text, or by its kind and value, and every whole number
in it can be written. -/
def wellShown : Value → Bool
  | int n => Numeral.fits n
  | list items => wellShownItems items
  | tuple items => wellShownItems items
  | dict entries => wellShownEntries entries
  | locator ⟨_, value, raw, engine, props, output, strict⟩ =>
    (output.isNull || output.text?.isSome) && wellShown value && wellShown raw &&
      wellShown engine && wellShown props && wellShown strict
  | _ => true

def wellShownItems : List Value → Bool
  | [] => true
  | x :: xs => wellShown x && wellShownItems xs

def wellShownEntries : List (Value × Value) → Bool
  | [] => true
  | (key, v) :: rest => (wellShown key && wellShown v) && wellShownEntries rest

end

structure FieldsShown (l : Locator) : Prop where
  output : l.output = .null ∨ ∃ s, l.output = .text s
  value : l.value.wellShown = true
  raw : l.raw.wellShown = true
  engine : l.engine.wellShown = true
  props : l.props.wellShown = true
  strict : l.strict.wellShown = true

theorem output_shown_iff {output : Value} :
    (output.isNull || output.text?.isSome) = true ↔
      output = .null ∨ ∃ s, output = .text s := by
  cases output <;> simp [isNull, text?]

theorem wellShown_locator_iff {l : Locator} : (locator l).wellShown = true ↔ FieldsShown l := by
  obtain ⟨kind, value, raw, engine, props, output, strict⟩ := l
  rw [wellShown]
  simp only [Bool.and_eq_true, output_shown_iff]
  constructor
  · rintro ⟨⟨⟨⟨⟨output, value⟩, raw⟩, engine⟩, props⟩, strict⟩
    exact ⟨output, value, raw, engine, props, strict⟩
  · rintro ⟨output, value, raw, engine, props, strict⟩
    exact ⟨⟨⟨⟨⟨output, value⟩, raw⟩, engine⟩, props⟩, strict⟩

theorem instead_of_shown {output : Value} (shown : output = .null ∨ ∃ s, output = .text s) :
    ∃ words, instead output = .ok words := by
  rcases shown with rfl | ⟨s, rfl⟩
  · exact ⟨none, rfl⟩
  · exact ⟨some s, rfl⟩

theorem spelled_of_shown {output : Value} (shown : output = .null ∨ ∃ s, output = .text s) :
    output.Spelled := by
  rcases shown with rfl | ⟨s, rfl⟩
  · exact ⟨_, rfl⟩
  · exact ⟨_, rfl⟩

theorem wellShown_of_entry :
    {entries : List (Value × Value)} → wellShownEntries entries = true →
      ∀ {entry}, entry ∈ entries → entry.1.wellShown = true ∧ entry.2.wellShown = true
  | (_, _) :: _, shown, _, mem => by
    obtain ⟨both, rest⟩ := Bool.and_eq_true_iff.mp shown
    rcases List.mem_cons.mp mem with rfl | later
    · exact Bool.and_eq_true_iff.mp both
    · exact wellShown_of_entry rest later

mutual

theorem spelled_of_wellShown : (v : Value) → v.wellShown = true → v.Spelled
  | null, _ | bool _, _ | float _, _ | text _, _ => ⟨_, rfl⟩
  | int n, fits => ⟨toString n, by rw [inspect, written, Numeral.write?_of_fits fits]⟩
  | list items, shown => spelled_list_iff.mpr (spelled_of_wellShownItems items shown)
  | tuple items, shown => spelled_tuple_iff.mpr (spelled_of_wellShownItems items shown)
  | dict entries, shown => spelled_dict_iff.mpr (spelled_of_wellShownEntries entries shown)
  | locator ⟨kind, value, raw, engine, props, output, strict⟩, shown => by
    have fields := wellShown_locator_iff.mp shown
    exact spelled_locator_iff.mpr
      ⟨spelled_of_wellShown value fields.value, spelled_of_wellShown raw fields.raw,
        spelled_of_wellShown engine fields.engine, spelled_of_wellShown props fields.props,
        spelled_of_shown fields.output, spelled_of_wellShown strict fields.strict⟩

theorem spelled_of_wellShownItems :
    (items : List Value) → wellShownItems items = true → ∀ x ∈ items, x.Spelled
  | [], _ => by simp
  | x :: xs, shown => by
    obtain ⟨first, rest⟩ := Bool.and_eq_true_iff.mp shown
    exact List.forall_mem_cons.mpr
      ⟨spelled_of_wellShown x first, spelled_of_wellShownItems xs rest⟩

theorem spelled_of_wellShownEntries :
    (entries : List (Value × Value)) → wellShownEntries entries = true →
      ∀ entry ∈ entries, entry.1.Spelled ∧ entry.2.Spelled
  | [], _ => by simp
  | (key, v) :: rest, shown => by
    obtain ⟨both, others⟩ := Bool.and_eq_true_iff.mp shown
    obtain ⟨name, part⟩ := Bool.and_eq_true_iff.mp both
    exact List.forall_mem_cons.mpr
      ⟨⟨spelled_of_wellShown key name, spelled_of_wellShown v part⟩,
        spelled_of_wellShownEntries rest others⟩

end

mutual

theorem displayAt_of_wellShown (place : Place) :
    (v : Value) → v.wellShown = true → ∃ shown, displayAt place v = .ok shown
  | null, _ | bool _, _ | float _, _ | text _, _ => ⟨_, rfl⟩
  | int n, shown => spelled_of_wellShown (.int n) shown
  | list items, shown => spelled_of_wellShown (.list items) shown
  | dict entries, shown => spelled_of_wellShown (.dict entries) shown
  | tuple items, shown => by
    cases place with
    | alone => exact spelled_of_wellShown (.tuple items) shown
    | inLocator => exact spelled_of_wellShown (.list items) shown
    | inFrame =>
      obtain ⟨parts, all⟩ := displayItems_of_wellShown items shown
      exact ⟨_, by rw [displayAt, all]; rfl⟩
  | locator ⟨kind, value, raw, engine, props, output, strict⟩, shown => by
    have fields := wellShown_locator_iff.mp shown
    obtain ⟨words, said⟩ := instead_of_shown fields.output
    obtain ⟨label, named⟩ := displayAt_of_wellShown .alone engine fields.engine
    obtain ⟨body, displayed⟩ :=
      displayAt_of_wellShown (if kind = .frame then .inFrame else .inLocator) value fields.value
    dsimp only at said
    rw [displayAt, said]
    cases words with
    | some s => exact ⟨s, rfl⟩
    | none =>
      simp only [named, displayed]
      split <;> exact ⟨_, rfl⟩

theorem displayItems_of_wellShown :
    (items : List Value) → wellShownItems items = true → ∃ parts, displayItems items = .ok parts
  | [], _ => ⟨[], rfl⟩
  | x :: xs, shown => by
    obtain ⟨shownFirst, shownRest⟩ := Bool.and_eq_true_iff.mp shown
    obtain ⟨first, displayed⟩ := displayAt_of_wellShown .alone x shownFirst
    obtain ⟨rest, all⟩ := displayItems_of_wellShown xs shownRest
    exact ⟨first :: rest, by rw [displayItems, displayed, all]; rfl⟩

end

theorem named_of_wellShown {v : Value} (shown : v.wellShown = true) : v.Named :=
  displayAt_of_wellShown .alone v shown

end Value

namespace LocatorOf

open Value

theorem shown_ofText (fallback : Kind) (s : String) : FieldsShown (ofText fallback s) := by
  simp only [ofText]
  split
  · exact ⟨.inr ⟨s, rfl⟩, rfl, rfl, rfl, rfl, rfl⟩
  split
  · exact ⟨.inr ⟨s, rfl⟩, rfl, rfl, rfl, rfl, rfl⟩
  split
  · exact ⟨.inr ⟨s, rfl⟩, rfl, rfl, rfl, rfl, rfl⟩
  · exact ⟨.inr ⟨s, rfl⟩, rfl, rfl, rfl, rfl, rfl⟩

theorem wellShown_ofText (fallback : Kind) (s : String) :
    (Value.locator (ofText fallback s)).wellShown = true :=
  wellShown_locator_iff.mpr (shown_ofText fallback s)

theorem wellShown_shadowHosts {v : Value} (shown : v.wellShown = true) :
    (shadowHosts v).wellShown = true := by
  cases v with
  | list _ | tuple _ => exact shown
  | _ => exact Bool.and_eq_true_iff.mpr ⟨shown, rfl⟩

theorem wellShown_propsOf {entries : Entries} (shown : wellShownEntries entries = true) :
    (propsOf entries).wellShown = true := by
  rw [propsOf]
  cases found : entries.get? (.text "props") with
  | none => rfl
  | some v =>
    obtain ⟨entry, first, rfl⟩ := Option.map_eq_some_iff.mp found
    exact (wellShown_of_entry shown (List.mem_of_find?_eq_some first)).2

theorem wellShown_ofHead {entries : Entries} (shown : wellShownEntries entries = true)
    {head : Head} (value : head.value.wellShown = true) (engine : head.engine.wellShown = true) :
    (Value.locator (ofHead entries (some head))).wellShown = true :=
  wellShown_locator_iff.mpr ⟨.inl rfl, value, shown, engine, wellShown_propsOf shown, rfl⟩

theorem wellShown_unknown {raw : Value} (shown : raw.wellShown = true) (strict : Bool) :
    (Value.locator { make .unknown .null raw with strict := .bool strict }).wellShown = true :=
  wellShown_locator_iff.mpr ⟨.inl rfl, rfl, shown, rfl, rfl, rfl⟩

mutual

theorem wellShown_of_classify (fallback : Kind) :
    (v : Value) → v.wellShown = true → ∀ l, classify [] fallback false v = .ok l →
      (Value.locator l).wellShown = true
  | .locator _, shown, _, classified => by
    rw [classify_locator] at classified
    cases classified
    exact shown
  | .null, shown, _, classified => by
    cases classified
    exact wellShown_unknown shown false
  | .text s, shown, _, classified => by
    simp only [classify, Filter.applyAll_nil] at classified
    split at classified
    · cases classified
      exact wellShown_unknown shown false
    · cases classified
      exact wellShown_ofText fallback s
  | .bool _, _, _, classified | .int _, _, _, classified | .float _, _, _, classified
  | .list _, _, _, classified | .tuple _, _, _, classified => by
    rw [classify] at classified
    obtain ⟨s, _, rfl⟩ := ofWritten_eq_ok classified
    exact wellShown_ofText fallback s
  | .dict entries, shown, _, classified => by
    rw [classify] at classified
    obtain ⟨head, found, rest⟩ := Outcome.bind_eq_ok classified
    cases head with
    | none =>
      cases rest
      exact wellShown_unknown shown true
    | some head =>
      cases rest
      obtain ⟨value, engine⟩ := wellShown_of_headOf entries shown found
      exact wellShown_ofHead shown value engine

theorem wellShown_of_headOf :
    (entries : List (Value × Value)) → wellShownEntries entries = true →
      ∀ {head : Head}, headOf [] entries = .ok (some head) →
        head.value.wellShown = true ∧ head.engine.wellShown = true
  | [], _, _, found => by cases found
  | (key, x) :: rest, shown, head, found => by
    obtain ⟨both, shownRest⟩ := Bool.and_eq_true_iff.mp shown
    obtain ⟨shownKey, shownValue⟩ := Bool.and_eq_true_iff.mp both
    unfold headOf at found
    split at found
    · exact wellShown_of_headOf rest shownRest found
    split at found
    · cases found
    split at found
    · split at found
      · rename_i items
        obtain ⟨members, framed, same⟩ := Outcome.bind_eq_ok found
        cases same
        exact ⟨wellShown_of_frames items shownValue framed, rfl⟩
      · rename_i items
        obtain ⟨members, framed, same⟩ := Outcome.bind_eq_ok found
        cases same
        exact ⟨wellShown_of_frames items shownValue framed, rfl⟩
      · obtain ⟨l, one, same⟩ := Outcome.bind_eq_ok found
        cases same
        exact ⟨wellShown_of_classify .css x shownValue l one, rfl⟩
    · cases found
      exact ⟨wellShown_shadowHosts shownValue, rfl⟩
    · cases found
      exact ⟨shownValue, shownKey⟩
    · cases found
      exact ⟨shownValue, rfl⟩

theorem wellShown_of_frames :
    (items : List Value) → wellShownItems items = true → ∀ {members : List Value},
      frames [] items = .ok members → wellShownItems members = true
  | [], _, _, framed => by
    cases framed
    rfl
  | x :: xs, shown, _, framed => by
    obtain ⟨shownFirst, shownRest⟩ := Bool.and_eq_true_iff.mp shown
    rw [frames] at framed
    obtain ⟨l, one, rest⟩ := Outcome.bind_eq_ok framed
    obtain ⟨members, others, same⟩ := Outcome.bind_eq_ok rest
    cases same
    exact Bool.and_eq_true_iff.mpr
      ⟨wellShown_of_classify .css x shownFirst l one, wellShown_of_frames xs shownRest others⟩

end

theorem classify_of_wellShown (fallback : Kind) {v : Value} (shown : v.wellShown = true) :
    ∃ l, classify [] fallback false v = .ok l ∧ (Value.locator l).wellShown = true := by
  obtain ⟨l, classified⟩ := classify_of_spelled fallback (spelled_of_wellShown v shown)
  exact ⟨l, classified, wellShown_of_classify fallback v shown l classified⟩

end LocatorOf

end ElementSearch
