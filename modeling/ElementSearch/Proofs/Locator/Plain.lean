import ElementSearch.Locator.Query
import ElementSearch.Proofs.Locator.Shown
import ElementSearch.Proofs.Value.Plain

/-! Locators of plain values.
Nothing in a plain value has an output that is no text, so a locator of a plain value can be
displayed unless a whole number in it has too many digits.  Equal ones can both be displayed, or
neither. -/

namespace ElementSearch

namespace Value

mutual

theorem wellShown_of_plain : (v : Value) → v.isPlain = true → v.Spelled → v.wellShown = true
  | null, _, _ | bool _, _, _ | float _, _, _ | text _, _, _ => rfl
  | int n, plain, spelled => (spelled_number_iff rfl plain).mp spelled n rfl
  | locator _, plain, _ => by cases plain
  | list items, plain, spelled =>
    wellShown_of_arePlain items plain (spelled_list_iff.mp spelled)
  | tuple items, plain, spelled =>
    wellShown_of_arePlain items plain (spelled_tuple_iff.mp spelled)
  | dict entries, plain, spelled =>
    wellShown_of_plainEntries entries plain (spelled_dict_iff.mp spelled)

theorem wellShown_of_arePlain :
    (items : List Value) → arePlain items = true → (∀ x ∈ items, x.Spelled) →
      wellShownItems items = true
  | [], _, _ => rfl
  | x :: xs, plain, spelled => by
    obtain ⟨plainFirst, plainRest⟩ := Bool.and_eq_true_iff.mp plain
    obtain ⟨first, rest⟩ := List.forall_mem_cons.mp spelled
    exact Bool.and_eq_true_iff.mpr
      ⟨wellShown_of_plain x plainFirst first, wellShown_of_arePlain xs plainRest rest⟩

theorem wellShown_of_plainEntries :
    (entries : List (Value × Value)) → hasPlainEntries entries = true →
      (∀ entry ∈ entries, entry.1.Spelled ∧ entry.2.Spelled) → wellShownEntries entries = true
  | [], _, _ => rfl
  | (key, v) :: rest, plain, spelled => by
    have parts := plain_cons_iff.mp plain
    obtain ⟨first, others⟩ := List.forall_mem_cons.mp spelled
    exact Bool.and_eq_true_iff.mpr
      ⟨Bool.and_eq_true_iff.mpr
        ⟨wellShown_of_plain key parts.key first.1, wellShown_of_plain v parts.value first.2⟩,
        wellShown_of_plainEntries rest parts.rest others⟩

end

end Value

namespace LocatorOf

open Value

/-- What equality of two locators looks at. -/
structure EqualFields (l m : Locator) : Prop where
  kind : l.kind = m.kind
  value : l.value.same m.value = true
  engine : l.engine.same m.engine = true
  strict : l.strict.same m.strict = true

theorem equalFields {l m : Locator} (same : (Value.locator l).same (.locator m) = true) :
    EqualFields l m := by
  obtain ⟨before, strict⟩ := Bool.and_eq_true_iff.mp same
  obtain ⟨before, engine⟩ := Bool.and_eq_true_iff.mp before
  obtain ⟨kind, value⟩ := Bool.and_eq_true_iff.mp before
  exact ⟨eq_of_beq kind, value, engine, strict⟩

structure Head.IsPlain (head : Head) : Prop where
  kind : head.kind ≠ .frame ∧ head.kind ≠ .fuzzy ∧ head.kind ≠ .unknown
  value : head.value.isPlain = true
  engine : head.engine.isPlain = true
  shadow : head.kind = .shadow → ∃ hosts, head.value = .tuple hosts

/-- How a locator of a plain value comes about: without a kind, read off a text, or given as an
object, which may be a frame or a chain of frames. -/
inductive IsTidy : Locator → Prop
  | unknown (raw : Value) (strict : Bool) :
    IsTidy { make .unknown .null raw with strict := .bool strict }
  | read {fallback : Kind} (selector : fallback = .fuzzy ∨ fallback = .css) (s : String) :
    IsTidy (ofText fallback s)
  | object (entries : Entries) (head : Head) (plain : head.IsPlain) :
    IsTidy (ofHead entries (some head))
  | frame (entries : Entries) {inner : Locator} (tidy : IsTidy inner) :
    IsTidy (ofHead entries (some ⟨.frame, .null, .locator inner⟩))
  | chain (entries : Entries) {members : List Locator} (tidy : ∀ m ∈ members, IsTidy m) :
    IsTidy (ofHead entries (some ⟨.frame, .null, .tuple (members.map .locator)⟩))

/-- The fields of a locator that was read off a text. -/
structure IsRead (l : Locator) (s : String) : Prop where
  output : l.output = .text s
  value : ∃ said, l.value = .text said
  engine : l.engine = .null ∨ l.engine = .text accessibilityEngine
  custom : l.engine ≠ .null ↔ l.kind = .custom
  props : l.props = .null
  strict : l.strict = .bool false
  kind : l.kind ≠ .shadow ∧ l.kind ≠ .frame ∧ l.kind ≠ .unknown
  fuzzy : l.kind = .fuzzy → l = { make .fuzzy (.text s) (.text s) with output := .text s }

theorem read_make {kind : Kind}
    (other : kind ≠ .shadow ∧ kind ≠ .frame ∧ kind ≠ .unknown ∧ kind ≠ .custom) (s : String) :
    IsRead { make kind (.text s) (.text s) with output := .text s } s where
  output := rfl
  value := ⟨s, rfl⟩
  engine := .inl rfl
  custom := by simp [make, other]
  props := rfl
  strict := rfl
  kind := ⟨other.1, other.2.1, other.2.2.1⟩
  fuzzy := by
    rintro (rfl : kind = .fuzzy)
    rfl

theorem read_ofText {fallback : Kind} (selector : fallback = .fuzzy ∨ fallback = .css)
    (s : String) : (ofText fallback s).IsRead s := by
  simp only [ofText]
  split
  · exact read_make (by decide) s
  split
  · exact ⟨rfl, ⟨_, rfl⟩, .inr rfl, by simp [make], rfl, rfl, by simp [make], by simp [make]⟩
  split
  · exact read_make (by decide) s
  · rcases selector with rfl | rfl
    · exact read_make (by decide) s
    · exact read_make (by decide) s

namespace IsTidy

variable {l m : Locator}

theorem output (tidy : l.IsTidy) : l.output = .null ∨ ∃ s, l.output = .text s := by
  cases tidy with
  | read selector s => exact .inr ⟨s, (read_ofText selector s).output⟩
  | _ => exact .inl rfl

theorem engine (tidy : l.IsTidy) : l.engine.isPlain = true := by
  cases tidy with
  | read selector s =>
    rcases (read_ofText selector s).engine with none | accessible
    · rw [none]
      rfl
    · rw [accessible]
      rfl
  | object _ _ plain => exact plain.engine
  | _ => rfl

theorem value (tidy : l.IsTidy) (other : l.kind ≠ .frame) : l.value.isPlain = true := by
  cases tidy with
  | read selector s =>
    obtain ⟨said, same⟩ := (read_ofText selector s).value
    rw [same]
    rfl
  | object _ _ plain => exact plain.value
  | unknown => rfl
  | frame | chain => exact absurd rfl other

theorem shadow (tidy : l.IsTidy) (kind : l.kind = .shadow) : ∃ hosts, l.value = .tuple hosts := by
  cases tidy with
  | read selector s => exact absurd kind (read_ofText selector s).kind.1
  | object _ _ plain => exact plain.shadow kind
  | unknown | frame | chain => cases kind

theorem fuzzy (tidy : l.IsTidy) (kind : l.kind = .fuzzy) :
    ∃ s, l = { make .fuzzy (.text s) (.text s) with output := .text s } := by
  cases tidy with
  | read selector s => exact ⟨s, (read_ofText selector s).fuzzy kind⟩
  | object _ _ plain => exact absurd kind plain.kind.2.1
  | unknown | frame | chain => cases kind

end IsTidy

section Named

variable {entries : Entries} {head : Head} {inner : Locator} {members : List Locator}

theorem exists_labelOf_iff {l : Locator} (plain : l.engine.isPlain = true) :
    (∃ label, labelOf l = .ok label) ↔
      (l.kind = .custom → l.engine.isTruthy = true → l.engine.Spelled) := by
  unfold labelOf
  rw [← named_iff_of_plain plain]
  by_cases custom : (l.kind = .custom && l.engine.isTruthy) = true
  · rw [if_pos custom]
    simp only [Bool.and_eq_true, decide_eq_true_eq] at custom
    exact ⟨fun named _ _ => named, fun named => named custom.1 custom.2⟩
  · rw [if_neg custom]
    simp only [Bool.and_eq_true, decide_eq_true_eq] at custom
    exact ⟨fun _ kind truthy => absurd ⟨kind, truthy⟩ custom, fun _ => ⟨_, rfl⟩⟩

theorem named_object_iff (plain : head.IsPlain) :
    (locator (ofHead entries (some head))).Named ↔
      (head.kind = .custom → head.engine.isTruthy = true → head.engine.Spelled) ∧
        head.value.Spelled := by
  rw [named_iff_of_no_output rfl, exists_labelOf_iff plain.engine, placeOf]
  refine and_congr Iff.rfl ?_
  have single : (ofHead entries (some head)).kind ≠ .frame := plain.kind.1
  rw [if_neg single]
  exact exists_displayAt_iff plain.value (by decide)

theorem named_frame_iff :
    (locator (ofHead entries (some ⟨.frame, .null, .locator inner⟩))).Named ↔
      (locator inner).Named := by
  rw [named_iff_of_no_output rfl, exists_labelOf_iff rfl]
  exact and_iff_right nofun

theorem named_chain_iff :
    (locator (ofHead entries (some ⟨.frame, .null, .tuple (members.map .locator)⟩))).Named ↔
      ∀ m ∈ members, (locator m).Named := by
  rw [named_iff_of_no_output rfl, exists_labelOf_iff rfl, and_iff_right nofun]
  have all : (∃ body, displayAt .inFrame (.tuple (members.map .locator)) = .ok body) ↔
      ∃ parts, displayItems (members.map .locator) = .ok parts := by
    rw [displayAt, Outcome.exists_bind_eq_ok]
    exact exists_congr fun parts => ⟨fun h => h.1, fun h => ⟨h, _, rfl⟩⟩
  exact all.trans (exists_displayItems_iff.trans List.forall_mem_map)

end Named

namespace IsTidy

variable {l m : Locator}

theorem longNumber_of_display (tidy : l.IsTidy) {fault : Fault}
    (failed : (Value.locator l).display = .error fault) : fault = .longNumber := by
  induction tidy with
  | unknown raw strict => cases failed
  | read selector s =>
    rw [display_of_output (read_ofText selector s).output] at failed
    cases failed
  | object entries head plain =>
    rw [display_of_no_output rfl] at failed
    rcases Outcome.bind_eq_error failed with label | ⟨_, _, failed⟩
    · unfold labelOf at label
      split at label
      · exact longNumber_of_displayAt plain.engine (by decide) label
      · cases label
    rcases Outcome.bind_eq_error failed with body | ⟨_, _, done⟩
    · have single : placeOf (ofHead entries (some head)) = .inLocator := if_neg plain.kind.1
      rw [single] at body
      exact longNumber_of_displayAt plain.value (by decide) body
    · cases done
  | frame entries tidy ih =>
    rw [display_of_no_output rfl] at failed
    rcases Outcome.bind_eq_error failed with label | ⟨_, _, failed⟩
    · cases label
    rcases Outcome.bind_eq_error failed with body | ⟨_, _, done⟩
    · exact ih body
    · cases done
  | chain entries tidy ih =>
    rw [display_of_no_output rfl] at failed
    rcases Outcome.bind_eq_error failed with label | ⟨_, _, failed⟩
    · cases label
    rcases Outcome.bind_eq_error failed with body | ⟨_, _, done⟩
    · rcases Outcome.bind_eq_error body with parts | ⟨_, _, done⟩
      · obtain ⟨x, mem, there⟩ := exists_of_displayItems parts
        obtain ⟨member, known, rfl⟩ := List.mem_map.mp mem
        exact ih member known there
      · cases done
    · cases done

theorem named_unknown (raw strict : Value) :
    (locator { make .unknown .null raw with strict := strict }).Named :=
  ⟨_, rfl⟩

theorem named_read {fallback : Kind} (selector : fallback = .fuzzy ∨ fallback = .css)
    (s : String) : (locator (ofText fallback s)).Named :=
  ⟨s, display_of_output (read_ofText selector s).output⟩

theorem named_iff_of_object {entries : Entries} {head : Head} (plain : head.IsPlain)
    (tidy : m.IsTidy) (equal : EqualFields (ofHead entries (some head)) m) :
    (locator (ofHead entries (some head))).Named ↔ (locator m).Named := by
  cases tidy with
  | unknown => exact absurd equal.kind plain.kind.2.2
  | read selector s =>
    have strict := equal.strict
    rw [(read_ofText selector s).strict] at strict
    cases strict
  | object others head' plain' =>
    have kinds : head.kind = head'.kind := equal.kind
    have truthy : head.engine.isTruthy = head'.engine.isTruthy := isTruthy_of_same equal.engine
    have engines := spelled_iff_of_same _ plain.engine plain'.engine equal.engine
    have values := spelled_iff_of_same _ plain.value plain'.value equal.value
    rw [named_object_iff plain, named_object_iff plain', kinds, truthy]
    exact and_congr (forall_congr' fun _ => forall_congr' fun _ => engines) values
  | frame | chain => exact absurd equal.kind plain.kind.1

theorem forall_named_iff {members others : List Locator}
    (alike : sameItems (members.map .locator) (others.map .locator) = true)
    (each : ∀ l ∈ members, ∀ m ∈ others, EqualFields l m →
      ((locator l).Named ↔ (locator m).Named)) :
    (∀ l ∈ members, (locator l).Named) ↔ ∀ m ∈ others, (locator m).Named := by
  induction members generalizing others with
  | nil =>
    cases others with
    | nil => exact Iff.rfl
    | cons _ _ => cases alike
  | cons l members ih =>
    cases others with
    | nil => cases alike
    | cons m others =>
      obtain ⟨first, rest⟩ := Bool.and_eq_true_iff.mp alike
      rw [List.forall_mem_cons, List.forall_mem_cons]
      refine and_congr (each l List.mem_cons_self m List.mem_cons_self (equalFields first)) ?_
      exact ih rest fun x here y there =>
        each x (List.mem_cons_of_mem l here) y (List.mem_cons_of_mem m there)

theorem named_iff_of_equal (tidy : l.IsTidy) (tidy' : m.IsTidy) (equal : EqualFields l m) :
    (locator l).Named ↔ (locator m).Named := by
  induction tidy generalizing m with
  | unknown raw strict =>
    cases tidy' with
    | unknown => exact iff_of_true (named_unknown _ _) (named_unknown _ _)
    | read selector s => exact iff_of_true (named_unknown _ _) (named_read selector s)
    | object _ _ plain => exact absurd equal.kind.symm plain.kind.2.2
    | frame | chain => cases equal.kind
  | read selector s =>
    have strict := equal.strict
    rw [(read_ofText selector s).strict] at strict
    cases tidy' with
    | unknown => exact iff_of_true (named_read selector s) (named_unknown _ _)
    | read selector' s' => exact iff_of_true (named_read selector s) (named_read selector' s')
    | object | frame | chain => cases strict
  | object entries head plain => exact named_iff_of_object plain tidy' equal
  | frame entries tidy ih =>
    cases tidy' with
    | unknown => cases equal.kind
    | read selector s => exact absurd equal.kind.symm (read_ofText selector s).kind.2.1
    | object _ _ plain => exact absurd equal.kind.symm plain.kind.1
    | frame others tidy' =>
      rw [named_frame_iff, named_frame_iff]
      exact ih tidy' (equalFields equal.value)
    | chain => cases equal.value
  | chain entries tidy ih =>
    cases tidy' with
    | unknown => cases equal.kind
    | read selector s => exact absurd equal.kind.symm (read_ofText selector s).kind.2.1
    | object _ _ plain => exact absurd equal.kind.symm plain.kind.1
    | frame => cases equal.value
    | chain others tidy' =>
      rw [named_chain_iff, named_chain_iff]
      exact forall_named_iff equal.value fun member mem other mem' =>
        ih member mem (tidy' other mem')

end IsTidy

theorem plain_shadowHosts {v : Value} (plain : v.isPlain = true) :
    (shadowHosts v).isPlain = true := by
  cases v with
  | list _ | tuple _ => exact plain
  | locator _ => cases plain
  | _ => exact Bool.and_eq_true_iff.mpr ⟨plain, rfl⟩

theorem shadowHosts_eq_tuple (v : Value) : ∃ hosts, shadowHosts v = .tuple hosts := by
  cases v <;> exact ⟨_, rfl⟩

theorem kindOfKey_ne (key : Value) : kindOfKey key ≠ .fuzzy ∧ kindOfKey key ≠ .unknown := by
  unfold kindOfKey
  split
  · cases found : Kind.ofKey? _ with
    | none => simp
    | some kind =>
      have mem := List.mem_of_find?_eq_some found
      rw [Option.getD_some]
      constructor
      · rintro rfl
        simp at mem
      · rintro rfl
        simp at mem
  · simp

mutual

theorem tidy_of_classify {fallback : Kind} (selector : fallback = .fuzzy ∨ fallback = .css) :
    (v : Value) → v.isPlain = true → ∀ {l : Locator}, classify [] fallback false v = .ok l →
      l.IsTidy
  | .locator _, plain, _, _ => by cases plain
  | .null, _, _, classified => by
    cases classified
    exact .unknown _ false
  | .text s, _, _, classified => by
    simp only [classify, Filter.applyAll_nil] at classified
    split at classified
    · cases classified
      exact .unknown _ false
    · cases classified
      exact .read selector s
  | .bool _, _, _, classified | .int _, _, _, classified | .float _, _, _, classified
  | .list _, _, _, classified | .tuple _, _, _, classified => by
    rw [classify] at classified
    obtain ⟨s, _, rfl⟩ := ofWritten_eq_ok classified
    exact .read selector s
  | .dict entries, plain, _, classified => by
    rw [classify] at classified
    obtain ⟨head, found, rest⟩ := Outcome.bind_eq_ok classified
    cases head with
    | none =>
      cases rest
      exact .unknown _ true
    | some head =>
      cases rest
      exact tidy_of_headOf entries plain found entries

theorem tidy_of_headOf :
    (entries : List (Value × Value)) → hasPlainEntries entries = true →
      ∀ {head : Head}, headOf [] entries = .ok (some head) →
        ∀ whole, (ofHead whole (some head)).IsTidy
  | [], _, _, found => by cases found
  | (key, value) :: rest, plain, head, found => by
    have parts := plain_cons_iff.mp plain
    unfold headOf at found
    split at found
    · exact tidy_of_headOf rest parts.rest found
    split at found
    · cases found
    intro whole
    split at found
    · split at found
      · rename_i items
        obtain ⟨members, framed, same⟩ := Outcome.bind_eq_ok found
        obtain ⟨inner, rfl, tidy⟩ := tidy_of_frames items parts.value framed
        cases same
        exact .chain whole tidy
      · rename_i items
        obtain ⟨members, framed, same⟩ := Outcome.bind_eq_ok found
        obtain ⟨inner, rfl, tidy⟩ := tidy_of_frames items parts.value framed
        cases same
        exact .chain whole tidy
      · obtain ⟨l, one, same⟩ := Outcome.bind_eq_ok found
        cases same
        exact .frame whole (tidy_of_classify (.inr rfl) value parts.value one)
    · cases found
      exact .object whole _ ⟨by simp, plain_shadowHosts parts.value, rfl,
        fun _ => shadowHosts_eq_tuple value⟩
    · cases found
      exact .object whole _ ⟨by simp, parts.value, parts.key, nofun⟩
    · rename_i notFrame notShadow _
      cases found
      exact .object whole _ ⟨⟨notFrame, kindOfKey_ne key⟩, parts.value, rfl,
        fun shadow => absurd shadow notShadow⟩

theorem tidy_of_frames :
    (items : List Value) → arePlain items = true → ∀ {members : List Value},
      frames [] items = .ok members →
        ∃ inner : List Locator, members = inner.map .locator ∧ ∀ l ∈ inner, l.IsTidy
  | [], _, _, framed => by
    cases framed
    exact ⟨[], rfl, nofun⟩
  | x :: xs, plain, _, framed => by
    obtain ⟨plainFirst, plainRest⟩ := Bool.and_eq_true_iff.mp plain
    obtain ⟨l, one, rest⟩ := Outcome.bind_eq_ok framed
    obtain ⟨members, others, same⟩ := Outcome.bind_eq_ok rest
    obtain ⟨inner, rfl, tidy⟩ := tidy_of_frames xs plainRest others
    cases same
    exact ⟨l :: inner, rfl,
      List.forall_mem_cons.mpr ⟨tidy_of_classify (.inr rfl) x plainFirst one, tidy⟩⟩

end

end LocatorOf

end ElementSearch
