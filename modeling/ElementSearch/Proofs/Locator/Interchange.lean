import ElementSearch.Proofs.Locator.Plain
import ElementSearch.Proofs.Lookup.Walk
import ElementSearch.Proofs.Value.Same

/-! Equal locators ask alike.
Equality looks at kind, value, engine and strictness.  A query that carries the value of its
locator is therefore equal for equal locators; one that has the value or the props written into a
text is so only if they are written alike, and equal numbers need not be.  What a locator was
classified from shows in the complaint about a locator that is never a query, and there only.  What
cannot be written of one of them cannot be written of the other. -/

namespace ElementSearch

def Query.Alike (p q : Query) : Prop :=
  p = q ∨ (p.kind.same q.kind = true ∧ p.value.same q.value = true)

def Fault.IsInvalidKind (f : Fault) : Prop :=
  ∃ raw message words, f = .search (.invalidKind raw message) words

def Inquiry.Alike (a b : Inquiry) : Prop := a.query.Alike b.query ∧ a.root = b.root

namespace LocatorOf

open Value

/-- Two attempts to compile a query: both give one, or both fail. -/
def AlikeOutcomes : Outcome Query → Outcome Query → Prop
  | .ok p, .ok q => p.Alike q
  | .error f, .error g => f = g ∨ (f.IsInvalidKind ∧ g.IsInvalidKind)
  | _, _ => False

def IsNeverQuery (l : Locator) : Prop := l.kind = .frame ∨ l.kind = .unknown

def ShowsValue (l : Locator) : Prop :=
  l.kind = .id ∨ l.kind = .name ∨ l.kind = .react ∨ l.kind = .vue ∨ l.isAccessibility = true

def ShowsProps (l : Locator) : Prop := l.kind = .react ∨ l.kind = .vue

def wording (l : Locator) : Outcome String :=
  match l.kind with
  | .id => do return "#" ++ Css.identifier (← l.value.display)
  | .name => do return Css.attributeEquals "name" (← l.value.display)
  | .react | .vue => do return (← l.value.display) ++ (← propSuffix l.props)
  | _ => do return Css.attributeEquals "aria-label" (← l.value.display)

def language (l : Locator) : String :=
  match l.kind with
  | .react | .vue => l.kind.label
  | _ => "css"

def carrier (l : Locator) : Value :=
  match l.kind with
  | .xpath => "xpath"
  | .shadow => "shadow"
  | .custom => if l.engine.isTruthy then l.engine else "custom"
  | _ => "css"

/-- Equal locators that write what they write alike. -/
structure Matching (l m : Locator) : Prop where
  same : (Value.locator l).same (.locator m) = true
  shown : l.ShowsValue → l.value.display = m.value.display
  tests : l.ShowsProps → propSuffix l.props = propSuffix m.props

section Forms

variable {l : Locator}

theorem toQuery_of_isNeverQuery (never : l.IsNeverQuery) : l.toQuery = toQuery.refuse l := by
  rcases never with kind | kind <;> simp only [toQuery, kind]

theorem isAccessibility_iff :
    l.isAccessibility = true ↔ l.kind = .custom ∧ l.engine = .text accessibilityEngine := by
  unfold isAccessibility
  rw [Bool.and_eq_true_iff, decide_eq_true_iff]
  cases l.engine <;> simp

theorem toQuery_of_showsValue (shows : l.ShowsValue) :
    l.toQuery = l.wording.map fun words => ⟨l.language, .text words⟩ := by
  rcases shows with kind | kind | kind | kind | accessible
  · simp only [toQuery, simplify, wording, language, kind]
    cases l.value.display <;> rfl
  · simp only [toQuery, simplify, wording, language, kind]
    cases l.value.display <;> rfl
  · simp only [toQuery, toQuery.component, wording, language, kind]
    cases l.value.display with
    | error fault => rfl
    | ok name => cases propSuffix l.props <;> rfl
  · simp only [toQuery, toQuery.component, wording, language, kind]
    cases l.value.display with
    | error fault => rfl
    | ok name => cases propSuffix l.props <;> rfl
  · have kind := (isAccessibility_iff.mp accessible).1
    simp only [toQuery, simplify, wording, language, kind, accessible, if_true]
    cases l.value.display <;> rfl

theorem toQuery_of_id (kind : l.kind = .id) {shown words : String}
    (displayed : l.value.display = .ok shown) (worded : "#" ++ Css.identifier shown = words) :
    l.toQuery = .ok ⟨"css", .text words⟩ := by
  simp only [toQuery_of_showsValue (.inl kind), wording, language, kind, displayed, ← worded]
  rfl

theorem toQuery_of_carried (hosted : l.kind = .shadow → ∃ hosts, l.value = .tuple hosts)
    (sometimes : ¬l.IsNeverQuery) (carried : ¬l.ShowsValue) :
    l.toQuery = .ok ⟨l.carrier, l.value⟩ := by
  unfold IsNeverQuery at sometimes
  unfold ShowsValue at carried
  cases kind : l.kind with
  | frame | unknown => simp [kind] at sometimes
  | id | name | react | vue => simp [kind] at carried
  | css | fuzzy =>
    simp only [toQuery, simplify, carrier, kind]
    rfl
  | xpath => simp only [toQuery, carrier, kind]
  | shadow =>
    obtain ⟨hosts, tuple⟩ := hosted kind
    simp only [toQuery, carrier, kind, tuple]
    rfl
  | custom =>
    have engine : ¬l.isAccessibility = true := fun h => carried (.inr (.inr (.inr (.inr h))))
    simp only [toQuery, carrier, kind, if_neg engine]

theorem plain_carrier (tidy : l.IsTidy) : l.carrier.isPlain = true := by
  unfold carrier
  split
  · rfl
  · rfl
  · split
    · exact tidy.engine
    · rfl
  · rfl

theorem refuse_eq (named : (Value.locator l).Named) :
    ∃ fault, toQuery.refuse l = .error fault ∧ fault.IsInvalidKind := by
  obtain ⟨shown, displayed⟩ := named
  exact ⟨_, by rw [toQuery.refuse, displayed]; rfl, ⟨_, _, _, rfl⟩⟩

theorem refuse_of_unnamed {fault : Fault} (unnamed : (Value.locator l).display = .error fault) :
    toQuery.refuse l = .error fault := by
  rw [toQuery.refuse, unnamed]
  rfl

theorem refused_of_isNeverQuery (never : l.IsNeverQuery) : ∃ fault, l.toQuery = .error fault := by
  rw [toQuery_of_isNeverQuery never]
  cases shown : (Value.locator l).display with
  | ok s =>
    obtain ⟨fault, refused, _⟩ := refuse_eq ⟨s, shown⟩
    exact ⟨fault, refused⟩
  | error fault => exact ⟨fault, refuse_of_unnamed shown⟩

end Forms

variable {l m : Locator}

theorem isAccessibility_of_equal (equal : EqualFields l m) :
    l.isAccessibility = m.isAccessibility := by
  have engines : l.engine = .text accessibilityEngine ↔ m.engine = .text accessibilityEngine := by
    constructor
    · intro text
      exact eq_text_of_same (text ▸ equal.engine)
    · intro text
      exact eq_text_of_same_right (text ▸ equal.engine)
  rw [Bool.eq_iff_iff, isAccessibility_iff, isAccessibility_iff, equal.kind, engines]

theorem AlikeOutcomes.refl (o : Outcome Query) : AlikeOutcomes o o := by
  cases o with
  | error fault => exact .inl rfl
  | ok q => exact .inl rfl

theorem isNeverQuery_iff (equal : EqualFields l m) : l.IsNeverQuery ↔ m.IsNeverQuery := by
  rw [IsNeverQuery, IsNeverQuery, equal.kind]

theorem showsValue_iff (equal : EqualFields l m) : l.ShowsValue ↔ m.ShowsValue := by
  rw [ShowsValue, ShowsValue, equal.kind, isAccessibility_of_equal equal]

theorem same_carrier (equal : EqualFields l m) : l.carrier.same m.carrier = true := by
  unfold carrier
  rw [← equal.kind, ← isTruthy_of_same equal.engine]
  cases l.kind with
  | custom =>
    simp only []
    split
    · exact equal.engine
    · exact same_text_refl _
  | _ => exact same_text_refl _

theorem wording_of_matching (matching : Matching l m) (shows : l.ShowsValue) :
    l.wording = m.wording := by
  have kinds := (equalFields matching.same).kind
  unfold wording
  rw [← kinds, matching.shown shows]
  cases kind : l.kind with
  | react => rw [matching.tests (.inl kind)]
  | vue => rw [matching.tests (.inr kind)]
  | _ => rfl

theorem refused_alike (first : l.IsTidy) (second : m.IsTidy) (equal : EqualFields l m) :
    AlikeOutcomes (toQuery.refuse l) (toQuery.refuse m) := by
  have both := first.named_iff_of_equal second equal
  cases shown : (Value.locator l).display with
  | ok s =>
    obtain ⟨fault, refused, invalid⟩ := refuse_eq ⟨s, shown⟩
    obtain ⟨other, refused', invalid'⟩ := refuse_eq (both.mp ⟨s, shown⟩)
    rw [refused, refused']
    exact .inr ⟨invalid, invalid'⟩
  | error fault =>
    have unnamed := mt both.mpr (unnamed_of_error shown)
    cases shown' : (Value.locator m).display with
    | ok s => exact absurd ⟨s, shown'⟩ unnamed
    | error fault' =>
      rw [refuse_of_unnamed shown, refuse_of_unnamed shown', first.longNumber_of_display shown,
        second.longNumber_of_display shown']
      exact .refl _

theorem toQuery_alike (first : l.IsTidy) (second : m.IsTidy) (matching : Matching l m) :
    AlikeOutcomes l.toQuery m.toQuery := by
  have equal := equalFields matching.same
  by_cases never : l.IsNeverQuery
  · rw [toQuery_of_isNeverQuery never,
      toQuery_of_isNeverQuery ((isNeverQuery_iff equal).mp never)]
    exact refused_alike first second equal
  by_cases shows : l.ShowsValue
  · have languages : l.language = m.language := by rw [language, language, equal.kind]
    rw [toQuery_of_showsValue shows, toQuery_of_showsValue ((showsValue_iff equal).mp shows),
      wording_of_matching matching shows, languages]
    exact .refl _
  · rw [toQuery_of_carried first.shadow never shows,
      toQuery_of_carried second.shadow (mt (isNeverQuery_iff equal).mpr never)
        (mt (showsValue_iff equal).mpr shows)]
    exact .inr ⟨same_carrier equal, equal.value⟩

theorem eq_of_fuzzy (first : l.IsTidy) (second : m.IsTidy) (fuzzy : l.kind = .fuzzy)
    (equal : EqualFields l m) : l = m := by
  obtain ⟨s, left⟩ := first.fuzzy fuzzy
  obtain ⟨t, right⟩ := second.fuzzy (equal.kind ▸ fuzzy)
  have same := equal.value
  rw [left, right] at same
  obtain rfl : s = t := eq_of_beq same
  rw [left, right]

end LocatorOf

namespace Lookup

open LocatorOf

variable {l m : Locator} {family : Family} {root : Handle} {asked : List Inquiry}
  {o : Outcome (List Handle)}

theorem exists_announced_iff {q : Query} : (∃ words, announced l q = .ok words) ↔
    (Value.locator l).Named ∧ q.kind.Named ∧ q.value.Named := by
  rw [announced, Outcome.exists_bind_eq_ok]
  simp only [Outcome.exists_bind_eq_ok]
  constructor
  · rintro ⟨shown, named, kind, isKind, value, isValue, _⟩
    exact ⟨⟨shown, named⟩, ⟨kind, isKind⟩, value, isValue⟩
  · rintro ⟨⟨shown, named⟩, ⟨kind, isKind⟩, value, isValue⟩
    exact ⟨shown, named, kind, isKind, value, isValue, _, rfl⟩

theorem announced_alike (first : l.IsTidy) (second : m.IsTidy) (matching : Matching l m)
    {p q : Query} (compiled : l.toQuery = .ok p) (compiled' : m.toQuery = .ok q) :
    (∃ words, announced l p = .ok words) ↔ ∃ words, announced m q = .ok words := by
  have equal := equalFields matching.same
  rw [exists_announced_iff, exists_announced_iff, first.named_iff_of_equal second equal]
  refine and_congr Iff.rfl ?_
  by_cases never : l.IsNeverQuery
  · obtain ⟨fault, refused⟩ := refused_of_isNeverQuery never
    rw [refused] at compiled
    cases compiled
  by_cases shows : l.ShowsValue
  · have alike := toQuery_of_showsValue ((showsValue_iff equal).mp shows)
    rw [toQuery_of_showsValue shows] at compiled
    rw [alike] at compiled'
    obtain ⟨_, _, rfl⟩ := Outcome.map_eq_ok compiled
    obtain ⟨_, _, rfl⟩ := Outcome.map_eq_ok compiled'
    have texts (s t : String) : (Value.text s).Named ∧ (Value.text t).Named :=
      ⟨⟨s, Value.display_text s⟩, t, Value.display_text t⟩
    exact iff_of_true (texts _ _) (texts _ _)
  · have single (kind : l.kind = .frame) : False := never (.inl kind)
    have single' (kind : m.kind = .frame) : False := single (equal.kind.trans kind)
    rw [toQuery_of_carried first.shadow never shows] at compiled
    rw [toQuery_of_carried second.shadow (mt (isNeverQuery_iff equal).mpr never)
      (mt (showsValue_iff equal).mpr shows)] at compiled'
    cases compiled
    cases compiled'
    have carrier := plain_carrier first
    have carrier' := plain_carrier second
    have value := first.value single
    have value' := second.value single'
    simp only [Value.named_iff_of_plain, carrier, carrier', value, value']
    exact and_congr (Value.spelled_iff_of_same _ carrier carrier' (same_carrier equal))
      (Value.spelled_iff_of_same _ value value' equal.value)

/-- The query of a locator is asked once, if it has one and the note before it can be worded. -/
inductive AsksQuery (l : Locator) (root : Handle) : List Inquiry → Prop
  | once {a : Inquiry} (compiled : l.toQuery = .ok a.query)
      (worded : ∃ words, announced l a.query = .ok words) (place : a.root = root) :
    AsksQuery l root [a]
  | never (silent : ∀ q, l.toQuery = .ok q → ¬∃ words, announced l q = .ok words) :
    AsksQuery l root []

theorem asksQuery_of_askedOnce (once : AskedOnce l root asked o) : AsksQuery l root asked := by
  unfold AskedOnce at once
  split at once
  · rename_i fault refused
    rw [once.1]
    exact .never fun q compiled => by rw [refused] at compiled; cases compiled
  rename_i q compiled
  split at once
  · rename_i fault unworded
    rw [once.1]
    refine .never fun p compiled' => ?_
    rw [compiled] at compiled'
    cases compiled'
    rw [unworded]
    exact nofun
  · rename_i words worded
    obtain ⟨a, rfl, rfl, place, _⟩ := once
    exact .once compiled ⟨words, worded⟩ place

theorem asksQuery_of_isNeverQuery (never : l.IsNeverQuery) (none : asked = []) :
    AsksQuery l root asked := by
  obtain ⟨fault, refused⟩ := refused_of_isNeverQuery never
  rw [none]
  exact .never fun q compiled => by rw [refused] at compiled; cases compiled

theorem asksQuery_of_searched (plain : l.kind ≠ .fuzzy)
    (searched : Searched l family root asked o) : AsksQuery l root asked := by
  unfold Searched at searched
  cases kind : l.kind with rw [kind] at searched
  | fuzzy => exact absurd kind plain
  | frame => exact asksQuery_of_isNeverQuery (.inl kind) searched.1
  | unknown => exact asksQuery_of_isNeverQuery (.inr kind) searched.1
  | css | xpath | id | name | custom | react | vue | shadow =>
    exact asksQuery_of_askedOnce searched

theorem alike_of_asksQuery (alike : AlikeOutcomes l.toQuery m.toQuery)
    (both : ∀ p q, l.toQuery = .ok p → m.toQuery = .ok q →
      ((∃ words, announced l p = .ok words) ↔ ∃ words, announced m q = .ok words))
    {others : List Inquiry} (first : AsksQuery l root asked) (second : AsksQuery m root others) :
    List.Forall₂ Inquiry.Alike asked others := by
  cases first with
  | once compiled worded place =>
    rw [compiled] at alike
    cases second with
    | once compiled' worded' place' =>
      rw [compiled'] at alike
      exact .cons ⟨alike, place.trans place'.symm⟩ .nil
    | never silent =>
      cases compiled' : m.toQuery with rw [compiled'] at alike
      | error fault => exact alike.elim
      | ok q => exact absurd ((both _ q compiled compiled').mp worded) (silent q compiled')
  | never silent =>
    cases second with
    | never => exact .nil
    | once compiled' worded' place' =>
      rw [compiled'] at alike
      cases compiled : l.toQuery with rw [compiled] at alike
      | error fault => exact alike.elim
      | ok p => exact absurd ((both p _ compiled compiled').mpr worded') (silent p compiled)

/-- What a search for the value asks of the world, in order. -/
def asks (v : Value) (family : Family) (root : Handle) (world : Responder) : List Inquiry :=
  Inquiry.listOf ((resolve [] .direct v family root).run.against world []).1

theorem resolve_eq {v : Value} (classified : classify [] .fuzzy false v = .ok l) :
    resolve [] .direct v family root = resolveLocator .direct l family root := by
  rw [resolve, Job.run_lift_bind_ok classified]

theorem searched_asks {v : Value} (classified : classify [] .fuzzy false v = .ok l)
    (world : Responder) : ∃ o, Searched l family root (asks v family root world) o := by
  have run := Script.run_against world [] (resolve [] .direct v family root).run
  rw [resolve_eq classified] at run
  exact ⟨_, by rw [asks, resolve_eq classified]; exact searched_of_run run⟩

theorem asks_alike {a b : Value} (first : classify [] .fuzzy false a = .ok l)
    (second : classify [] .fuzzy false b = .ok m) (tidy : l.IsTidy) (tidy' : m.IsTidy)
    (matching : Matching l m) (world : Responder) :
    List.Forall₂ Inquiry.Alike (asks a family root world) (asks b family root world) := by
  have equal := equalFields matching.same
  by_cases fuzzy : l.kind = .fuzzy
  · obtain rfl := eq_of_fuzzy tidy tidy' fuzzy equal
    rw [asks, asks, resolve_eq first, resolve_eq second]
    exact List.forall₂_same.mpr fun _ _ => ⟨.inl rfl, rfl⟩
  · obtain ⟨_, searched⟩ := searched_asks first world
    obtain ⟨_, searched'⟩ := searched_asks second world
    exact alike_of_asksQuery (toQuery_alike tidy tidy' matching)
      (fun p q => announced_alike tidy tidy' matching)
      (asksQuery_of_searched fuzzy searched)
      (asksQuery_of_searched (equal.kind ▸ fuzzy) searched')

/-- Plain values whose locators are equal, and write alike what they write into a query, compile
alike and ask alike in every world. -/
theorem equal_ask_alike (a b : Value) (plain : a.isPlain = true) (plain' : b.isPlain = true) :
    ∀ l m, classify [] .fuzzy false a = .ok l → classify [] .fuzzy false b = .ok m →
      Matching l m → AlikeOutcomes l.toQuery m.toQuery ∧
        ∀ (family : Family) (root : Handle) (world : Responder),
          List.Forall₂ Inquiry.Alike (asks a family root world) (asks b family root world) := by
  intro l m first second matching
  have tidy := tidy_of_classify (.inl rfl) a plain first
  have tidy' := tidy_of_classify (.inl rfl) b plain' second
  exact ⟨toQuery_alike tidy tidy' matching,
    fun family root world => asks_alike first second tidy tidy' matching world⟩

def named : Value := .dict [("name", "q")]

/-- The key that names the kind comes first, so the other one changes nothing. -/
def annotated : Value := .dict [("name", "q"), ("note", .int 5)]

theorem annotated_asks_alike :
    named.isPlain = true ∧ annotated.isPlain = true ∧
      ∃ l m, classify [] .fuzzy false named = .ok l ∧ classify [] .fuzzy false annotated = .ok m ∧
        Matching l m ∧ AlikeOutcomes l.toQuery m.toQuery ∧
        ∀ (family : Family) (root : Handle) (world : Responder),
          List.Forall₂ Inquiry.Alike (asks named family root world)
            (asks annotated family root world) := by
  have matching : Matching (ofHead [("name", "q")] (some ⟨.name, .null, "q"⟩))
      (ofHead [("name", "q"), ("note", .int 5)] (some ⟨.name, .null, "q"⟩)) :=
    ⟨by decide, fun _ => rfl, fun _ => rfl⟩
  exact ⟨by decide, by decide, _, _, rfl, rfl, matching,
    equal_ask_alike named annotated (by decide) (by decide) _ _ rfl rfl matching⟩

def whole : Value := .dict [("id", .int 1)]

def fractional : Value := .dict [("id", .float (.ofInt 1))]

def button (label : String) : Value :=
  .dict [("react", "Button"), ("props", .dict [("label", .text label)])]

/-- Equal numbers are written differently, and props are not compared at all. -/
theorem equal_ask_differently :
    (∃ l m, classify [] .fuzzy false whole = .ok l ∧ classify [] .fuzzy false fractional = .ok m ∧
      (Value.locator l).same (.locator m) = true ∧
      l.toQuery = .ok ⟨"css", "#\\31 "⟩ ∧ m.toQuery = .ok ⟨"css", "#\\31 \\2e 0"⟩) ∧
    ∃ l m, classify [] .fuzzy false (button "a") = .ok l ∧
      classify [] .fuzzy false (button "b") = .ok m ∧
      (Value.locator l).same (.locator m) = true ∧
      l.toQuery = .ok ⟨"react", "Button[label = \"a\"]"⟩ ∧
      m.toQuery = .ok ⟨"react", "Button[label = \"b\"]"⟩ := by
  refine ⟨⟨_, _, rfl, rfl, ?_, ?_, ?_⟩, _, _, rfl, rfl, ?_, ?_, ?_⟩
  · decide
  · have shown : toString (1 : Int) = "1" := by decide
    exact toQuery_of_id rfl (congrArg Except.ok shown) (by decide +kernel)
  · have shown : (Binary64.ofInt 1).text = "1.0" := by decide
    exact toQuery_of_id rfl (congrArg Except.ok shown) (by decide +kernel)
  · decide
  · rfl
  · rfl

end Lookup

end ElementSearch
