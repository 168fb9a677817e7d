import ElementSearch.Locator.Classify
import ElementSearch.Proofs.Css.Language

/-! The tests that tell the kinds of text apart exclude one another.
The first characters decide: a selector opens with a name, a star or the sign of one of its tests,
and a dot in it opens the name of a class, while a path opens with a bracket, a slash or a dot and a
slash, and a label with a tilde.  So it does not matter in which order the tests are made, and the
fallback kind matters only where all of them fail. -/

namespace ElementSearch

namespace Css

/-- How a selector begins. -/
inductive Opens : List Char → Prop
  | className {rest : List Char} (name : startsIdent rest = true) : Opens ('.' :: rest)
  | other {c : Char} {rest : List Char}
      (sign : OpensName c ∨ c = '-' ∨ c = '*' ∨ c = '#' ∨ c = '[' ∨ c = ':') : Opens (c :: rest)

section Opening

variable {w : List Char} (rest : List Char)

theorem IsIdent.opens (word : IsIdent w) : Opens (w ++ rest) := by
  cases word with
  | plain first _ => exact .other (.inl first)
  | hyphen _ _ => exact .other (.inr (.inl rfl))

theorem IsSuffix.opens (word : IsSuffix w) : Opens (w ++ rest) := by
  cases word with
  | idName _ => exact .other (by simp)
  | @className name word =>
    have starts : startsIdent (name ++ rest) = true := startsIdent_iff.mpr ⟨name, rest, word, rfl⟩
    exact .className starts
  | bracketed test =>
    obtain ⟨_, _, _, _⟩ := test
    exact .other (by simp)
  | pseudoName test => cases test <;> exact .other (by simp)

theorem IsCompound.opens (word : IsCompound w) : Opens (w ++ rest) := by
  cases word with
  | element word _ =>
    rw [List.append_assoc]
    exact word.opens _
  | any _ => exact .other (by simp)
  | bare some tests =>
    obtain ⟨first, others, rfl⟩ := List.exists_cons_of_ne_nil some
    rw [List.flatten_cons, List.append_assoc]
    exact (tests first List.mem_cons_self).opens _

theorem opens_of_separated {item separator : List Char → Prop}
    (items : ∀ w rest, item w → Opens (w ++ rest)) (row : Separated item separator w) :
    Opens (w ++ rest) := by
  cases row with
  | last word => exact items _ _ word
  | more word _ _ =>
    rw [List.append_assoc, List.append_assoc]
    exact items _ _ word

theorem IsSelectorList.opens (word : IsSelectorList w) : Opens (w ++ rest) :=
  opens_of_separated rest (fun _ rest complex =>
    opens_of_separated rest (fun _ rest compound => compound.opens rest) complex) word

end Opening

theorem eq_trim_append {c : Char} (solid : Blank.isBlank c = false) (rest : List Char) :
    ∃ tail, c :: rest = Blank.trim (c :: rest) ++ tail := by
  have start : Blank.trimStart (c :: rest) = c :: rest := by
    rw [Blank.trimStart, List.dropWhile_cons, solid]
    rfl
  have split := (c :: rest).reverse.takeWhile_append_dropWhile (p := Blank.isBlank)
  refine ⟨((c :: rest).reverse.takeWhile Blank.isBlank).reverse, ?_⟩
  rw [Blank.trim, start, Blank.trimEnd, ← List.reverse_append, split, List.reverse_reverse]

theorem opens_of_looksLikeSelector {c : Char} {rest : List Char}
    (solid : Blank.isBlank c = false) (looks : looksLikeSelector (c :: rest) = true) :
    Opens (c :: rest) := by
  obtain ⟨_, ⟨_, same⟩ | ⟨d, name, tail, sign, word, same⟩ | ⟨_, word⟩⟩ :=
    (looksLikeSelector_iff_language _).mp looks
  · rw [same]
    exact .other (by simp)
  · rw [same]
    rcases sign with rfl | rfl
    · exact .other (by simp)
    · exact .className (startsIdent_iff.mpr ⟨name, tail, word, rfl⟩)
  · obtain ⟨tail, whole⟩ := eq_trim_append solid rest
    rw [whole]
    exact word.opens tail

theorem not_opens {c : Char} (rest : List Char) (sign : c = '(' ∨ c = '/' ∨ c = '~') :
    ¬Opens (c :: rest) := by
  intro opens
  cases opens with
  | className _ => simp at sign
  | other opened => rcases sign with rfl | rfl | rfl <;> simp [OpensName] at opened

theorem not_opens_dotSlash (rest : List Char) : ¬Opens ('.' :: '/' :: rest) := by
  intro opens
  cases opens with
  | className name => cases name
  | other opened => simp [OpensName] at opened

theorem looksLikePath_cases {cs : List Char} (looks : looksLikePath cs = true) :
    ∃ c rest, cs = c :: rest ∧ (c = '(' ∨ c = '/' ∨ c = '.' ∧ ∃ tail, rest = '/' :: tail) := by
  cases cs with
  | nil => cases looks
  | cons c rest =>
    refine ⟨c, rest, rfl, ?_⟩
    by_cases bracket : c = '('
    · exact .inl bracket
    · have kept : (c :: rest).dropWhile (· == '(') = c :: rest := by
        rw [List.dropWhile_cons, if_neg (by simpa using bracket)]
      unfold looksLikePath at looks
      rw [kept] at looks
      split at looks
      · rename_i same
        exact .inr (.inl (List.cons.inj same).1)
      · rename_i tail same
        obtain ⟨rfl, rfl⟩ := List.cons.inj same
        exact .inr (.inr ⟨rfl, tail, rfl⟩)
      · cases looks

theorem not_selector_of_path {cs : List Char} (path : looksLikePath cs = true) :
    looksLikeSelector cs = false := by
  obtain ⟨c, rest, rfl, first⟩ := looksLikePath_cases path
  rw [Bool.eq_false_iff]
  intro selector
  rcases first with rfl | rfl | ⟨rfl, tail, rfl⟩
  · exact not_opens rest (by simp) (opens_of_looksLikeSelector (by decide) selector)
  · exact not_opens rest (by simp) (opens_of_looksLikeSelector (by decide) selector)
  · exact not_opens_dotSlash tail (opens_of_looksLikeSelector (by decide) selector)

end Css

namespace LocatorOf

open Css

/-- The tests on a text. -/
inductive Sniffer where
  | path
  | label
  | selector
deriving DecidableEq

namespace Sniffer

def fires (cs : List Char) : Sniffer → Bool
  | path => looksLikePath cs
  | label => looksAccessible cs
  | selector => looksLikeSelector cs

def locator (s : String) : Sniffer → Locator
  | path => { make .xpath s s with output := s }
  | label =>
    { make .custom (String.ofList s.toList.tail) s with engine := accessibilityEngine, output := s }
  | selector => { make .css s s with output := s }

variable {cs : List Char}

theorem looksAccessible_cases (looks : looksAccessible cs = true) : ∃ rest, cs = '~' :: rest := by
  unfold looksAccessible at looks
  split at looks
  · exact ⟨_, rfl⟩
  · cases looks

theorem not_label_of_path (path : looksLikePath cs = true) : looksAccessible cs = false := by
  obtain ⟨c, rest, rfl, first⟩ := looksLikePath_cases path
  rw [Bool.eq_false_iff]
  intro label
  obtain ⟨tail, same⟩ := looksAccessible_cases label
  obtain ⟨rfl, rfl⟩ := List.cons.inj same
  simp at first

theorem not_selector_of_label (label : looksAccessible cs = true) :
    looksLikeSelector cs = false := by
  obtain ⟨rest, rfl⟩ := looksAccessible_cases label
  rw [Bool.eq_false_iff]
  intro selector
  exact not_opens rest (by simp) (opens_of_looksLikeSelector (by decide) selector)

theorem eq_of_fires {a b : Sniffer} (first : a.fires cs = true) (second : b.fires cs = true) :
    a = b := by
  cases a <;> cases b <;> try rfl
  all_goals simp_all [fires, not_label_of_path, not_selector_of_path, not_selector_of_label]

theorem find?_fires_iff {order : List Sniffer} {a : Sniffer} :
    order.find? (fires cs) = some a ↔ a ∈ order ∧ a.fires cs = true := by
  constructor
  · intro found
    exact ⟨List.mem_of_find?_eq_some found, List.find?_some found⟩
  · rintro ⟨mem, fired⟩
    cases found : order.find? (fires cs) with
    | none => exact absurd fired (List.find?_eq_none.mp found a mem)
    | some b => rw [eq_of_fires (List.find?_some found) fired]

end Sniffer

/-- A text as a locator when the tests are made in the given order. -/
def ofTextBy (order : List Sniffer) (fallback : Kind) (s : String) : Locator :=
  match order.find? (Sniffer.fires s.toList) with
  | some sniffer => sniffer.locator s
  | none => { make fallback s s with output := s }

theorem ofText_eq (fallback : Kind) (s : String) :
    ofText fallback s = ofTextBy [.path, .label, .selector] fallback s := by
  simp only [ofText, ofTextBy, List.find?_cons, List.find?_nil, Sniffer.fires]
  cases looksLikePath s.toList with
  | true => rfl
  | false =>
    cases looksAccessible s.toList with
    | true => rfl
    | false => cases looksLikeSelector s.toList <;> rfl

theorem ofTextBy_perm {order order' : List Sniffer} (same : order.Perm order') (fallback : Kind)
    (s : String) : ofTextBy order fallback s = ofTextBy order' fallback s := by
  have found : order.find? (Sniffer.fires s.toList) = order'.find? (Sniffer.fires s.toList) := by
    ext a
    rw [Sniffer.find?_fires_iff, Sniffer.find?_fires_iff, same.mem_iff]
  rw [ofTextBy, ofTextBy, found]

theorem ofText_of_fires {a : Sniffer} {s : String} (fired : a.fires s.toList = true)
    (fallback : Kind) : ofText fallback s = a.locator s := by
  have listed : a ∈ [Sniffer.path, .label, .selector] := by cases a <;> decide
  rw [ofText_eq, ofTextBy, Sniffer.find?_fires_iff.mpr ⟨listed, fired⟩]

/-- At most one test fires on a text; made in any order the tests give the same locator; and two
fallback kinds give different locators only where none of them fires. -/
theorem sniffers_exclude (s : String) :
    (∀ a b : Sniffer, a.fires s.toList = true → b.fires s.toList = true → a = b) ∧
      (∀ (order : List Sniffer) (fallback : Kind), order.Perm [.path, .label, .selector] →
        ofTextBy order fallback s = ofText fallback s) ∧
      ∀ (filters : List Filter) (strict : Bool) (d e : Kind),
        classify filters d strict (.text s) ≠ classify filters e strict (.text s) →
          ∀ a : Sniffer, a.fires s.toList = false := by
  refine ⟨fun a b => Sniffer.eq_of_fires, ?_, ?_⟩
  · intro order fallback same
    rw [ofText_eq, ofTextBy_perm same]
  · intro filters strict d e differ a
    rw [Bool.eq_false_iff]
    intro fired
    have same : ofText d s = ofText e s := by rw [ofText_of_fires fired, ofText_of_fires fired]
    apply differ
    simp only [classify, same]

end LocatorOf

end ElementSearch
