import ElementSearch.Session

/-! Registered markers.
A marker leaves a text alone or puts a locator in its place that does not depend on what was there,
so of all that are registered the last one whose mark begins the text decides.  The order of two
markers matters only for texts that both begin, which is when one mark begins the other, and a
marker that is taken out again leaves nothing behind. -/

namespace ElementSearch

/-- A marker whose mark and attribute are texts. -/
structure Shorthand where
  mark : String
  attributeName : String
  strategy : Strategy
  showActual : Bool

namespace Shorthand

def marker (r : Shorthand) : Marker :=
  ⟨.text r.mark, .text r.attributeName, r.strategy, r.showActual⟩

def filter (r : Shorthand) : Filter := r.marker.filter

def starts (r : Shorthand) (s : String) : Bool := r.mark.toList.isPrefixOf s.toList

def behind (r : Shorthand) (s : String) : String := String.ofList (s.toList.drop r.mark.length)

def kind (r : Shorthand) : Kind :=
  match r.strategy with
  | .path => .xpath
  | .selector => .css

def query (r : Shorthand) (value : String) : String :=
  match r.strategy with
  | .path => ".//*[@" ++ r.attributeName ++ "=" ++ XPath.quote value ++ "]"
  | .selector => "[" ++ r.attributeName ++ "=" ++ value ++ "]"

def rewrite (r : Shorthand) (s : String) : Locator :=
  { LocatorOf.make r.kind (r.query (r.behind s)) (.text s) with
    output := if r.showActual then r.query (r.behind s) else s }

/-- The last of the markers whose mark begins the text. -/
def last? (rs : List Shorthand) (s : String) : Option Shorthand :=
  (rs.filter fun r => r.starts s).getLast?

def filters (rs : List Shorthand) : List Filter := rs.map filter

section Filters

variable {r : Shorthand} {rs : List Shorthand} {s : String}

theorem selectorFor_eq (r : Shorthand) (value : String) :
    r.marker.selectorFor value = .ok (r.kind, r.query value) := by
  obtain ⟨mark, name, strategy, showActual⟩ := r
  cases strategy <;> simp only [marker, Marker.selectorFor, Value.display_text, kind, query] <;> rfl

theorem filter_text (r : Shorthand) (s : String) (l : Locator) :
    r.filter (.text s) l = .ok (if r.starts s then some (r.rewrite s) else none) := by
  have follows : Marker.restAfter? r.marker.mark s.toList =
      .ok (if r.starts s then some (s.toList.drop r.mark.length) else none) := rfl
  rw [filter, Marker.filter, follows, Outcome.bind_of_ok rfl]
  cases r.starts s with
  | false => rfl
  | true =>
    simp only [if_true]
    rw [selectorFor_eq, Outcome.bind_of_ok rfl]
    rfl

theorem apply_text (r : Shorthand) (s : String) (l : Locator) :
    r.filter.apply (.text s) l = .ok (if r.starts s then r.rewrite s else l) := by
  rw [Filter.apply, filter_text]
  split <;> rfl

theorem last?_cons (r : Shorthand) (rs : List Shorthand) (s : String) :
    last? (r :: rs) s = ((last? rs s).or (if r.starts s then some r else none)) := by
  unfold last?
  cases begins : r.starts s with
  | true => simp [begins, List.getLast?_cons, Option.or_some]
  | false => simp [begins]

theorem starts_append (r : Shorthand) (value : String) : r.starts (r.mark ++ value) = true := by
  rw [starts, String.toList_append]
  exact List.isPrefixOf_iff_prefix.mpr (List.prefix_append _ _)

theorem behind_append (r : Shorthand) (value : String) : r.behind (r.mark ++ value) = value := by
  rw [behind, String.toList_append, ← String.length_toList, List.drop_left, String.ofList_toList]

theorem applyAll_text (rs : List Shorthand) (s : String) (l : Locator) :
    Filter.applyAll (filters rs) (.text s) l =
      .ok (((last? rs s).map fun r => r.rewrite s).getD l) := by
  -- what stands there does not matter to a marker, so the induction is for every locator
  induction rs generalizing l with
  | nil => rfl
  | cons r rest ih =>
    have first := apply_text r s l
    rw [filters, List.map_cons, Filter.applyAll_cons, first, last?_cons]
    change Filter.applyAll (filters rest) (.text s) _ = _
    rw [ih]
    cases last? rest s with
    | some q => rfl
    | none => cases r.starts s <;> rfl

theorem applyAll_of_not_text (rs : List Shorthand) {raw : Value} (other : raw.text? = none)
    (l : Locator) : Filter.applyAll (filters rs) raw l = .ok l := by
  induction rs with
  | nil => rfl
  | cons r rest ih =>
    have first : r.filter.apply raw l = .ok l := by
      rw [Filter.apply, filter, Marker.filter_of_not_text _ l other]
      rfl
    rw [filters, List.map_cons, Filter.applyAll_cons, first]
    exact ih

theorem classify_text_filters (rs : List Shorthand) (text : String) (fallback : Kind)
    (strict : Bool) :
    LocatorOf.classify (filters rs) fallback strict (.text text) =
      match last? rs text with
      | none => LocatorOf.classify [] fallback strict (.text text)
      | some r => .ok (r.rewrite text) := by
  simp only [LocatorOf.classify, applyAll_text, Filter.applyAll_nil]
  cases last? rs text <;> rfl

theorem classify_marked (r : Shorthand) (value : String) (fallback : Kind) (strict : Bool) :
    LocatorOf.classify [r.filter] fallback strict (.text (r.mark ++ value)) =
      .ok (r.rewrite (r.mark ++ value)) := by
  have only : last? [r] (r.mark ++ value) = some r := by
    rw [last?_cons, starts_append]
    rfl
  have classified := classify_text_filters [r] (r.mark ++ value) fallback strict
  rw [only] at classified
  exact classified

end Filters

/-- Neither of two marks begins the other. -/
def Apart (a b : Shorthand) : Prop :=
  ¬a.mark.toList <+: b.mark.toList ∧ ¬b.mark.toList <+: a.mark.toList

theorem not_both {a b : Shorthand} (apart : Apart a b) (s : String) :
    a.starts s = false ∨ b.starts s = false := by
  cases first : a.starts s with
  | false => exact .inl rfl
  | true =>
    refine .inr (Bool.eq_false_iff.mpr fun second => ?_)
    rcases List.prefix_or_prefix_of_prefix (List.isPrefixOf_iff_prefix.mp first)
      (List.isPrefixOf_iff_prefix.mp second) with longer | longer
    · exact apart.1 longer
    · exact apart.2 longer

theorem last?_swap {a b : Shorthand} (apart : Apart a b) (before after : List Shorthand)
    (s : String) :
    last? (before ++ a :: b :: after) s = last? (before ++ b :: a :: after) s := by
  have same : (a :: b :: after).filter (fun r => r.starts s) =
      (b :: a :: after).filter fun r => r.starts s := by
    rcases not_both apart s with first | second
    · simp [List.filter_cons, first]
    · simp [List.filter_cons, second]
  rw [last?, last?, List.filter_append, List.filter_append, same]

theorem applyAll_swap {a b : Shorthand} (apart : Apart a b) (before after : List Shorthand)
    (raw : Value) (l : Locator) :
    Filter.applyAll (filters (before ++ a :: b :: after)) raw l =
      Filter.applyAll (filters (before ++ b :: a :: after)) raw l := by
  cases raw with
  | text s => rw [applyAll_text, applyAll_text, last?_swap apart]
  | _ => rw [applyAll_of_not_text _ rfl, applyAll_of_not_text _ rfl]

end Shorthand

namespace LocatorOf

variable {fs gs : List Filter}

mutual

theorem classify_congr
    (same : ∀ raw l, Filter.applyAll fs raw l = Filter.applyAll gs raw l) (fallback : Kind)
    (strict : Bool) : (v : Value) → classify fs fallback strict v = classify gs fallback strict v
  | .locator _ => by rw [classify_locator, classify_locator]
  | .dict entries => by simp only [classify, headOf_congr same entries, same]
  | .null | .text _ => by simp only [classify, same]
  | .bool _ | .int _ | .float _ | .list _ | .tuple _ => by simp only [classify, ofWritten, same]

theorem headOf_congr
    (same : ∀ raw l, Filter.applyAll fs raw l = Filter.applyAll gs raw l) :
    (entries : List (Value × Value)) → headOf fs entries = headOf gs entries
  | [] => rfl
  | (key, value) :: rest => by
    have one := classify_congr same .css false value
    have others := headOf_congr same rest
    cases value with
    | list items => simp only [headOf, others, frames_congr same items]
    | tuple items => simp only [headOf, others, frames_congr same items]
    | _ => simp only [headOf, others, one]

theorem frames_congr
    (same : ∀ raw l, Filter.applyAll fs raw l = Filter.applyAll gs raw l) :
    (items : List Value) → frames fs items = frames gs items
  | [] => rfl
  | x :: xs => by
    simp only [frames, classify_congr same .css false x, frames_congr same xs]

end

end LocatorOf

end ElementSearch
