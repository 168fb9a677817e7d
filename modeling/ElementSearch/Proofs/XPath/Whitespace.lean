import ElementSearch.Proofs.XPath.Primary
import ElementSearch.Text.Blank
import Mathlib.Data.List.Chain
import Mathlib.Data.List.TakeWhile

/-! White space in the text of an element.
XPath knows four characters of white space.  `normalizeSpace` drops them at both ends of a text and
leaves one space for each run of them inside.  Trimming drops more characters, at the ends only, and
agrees with it on the texts that lose white space of XPath there and have single spaces inside. -/

namespace ElementSearch.XPath

/-- One space in front, unless nothing is left to be parted by it. -/
def spaced : List Char → List Char
  | [] => []
  | c :: cs => ' ' :: c :: cs

/-- The rest of a text, `inside` of it if a character has been kept before. -/
def normalizeFrom (inside : Bool) : List Char → List Char
  | [] => []
  | c :: cs =>
    if isSpace c then
      let rest := normalizeFrom false cs
      if inside then spaced rest else rest
    else c :: normalizeFrom true cs

def normalizeSpace (cs : List Char) : List Char := normalizeFrom false cs

structure Even (cs : List Char) : Prop where
  spaces : ∀ c ∈ cs, isSpace c = true → c = ' '
  apart : cs.IsChain fun c d => isSpace c = true → isSpace d = false

/-- Trimming drops white space of XPath only, and leaves single spaces. -/
def Tidy (cs : List Char) : Prop :=
  Even (Blank.trim cs) ∧
    ∃ before after, cs = before ++ (Blank.trim cs ++ after) ∧ IsGap before ∧ IsGap after

section Normalize

variable {c : Char} {cs before after : List Char} {inside : Bool}

theorem normalizeFrom_space (space : isSpace c = true) (inside : Bool) (cs : List Char) :
    normalizeFrom inside (c :: cs) =
      if inside then spaced (normalizeFrom false cs) else normalizeFrom false cs := by
  rw [normalizeFrom, if_pos space]

theorem normalizeFrom_other (other : isSpace c = false) (inside : Bool) (cs : List Char) :
    normalizeFrom inside (c :: cs) = c :: normalizeFrom true cs := by
  rw [normalizeFrom, other]
  rfl

def inked (cs : List Char) : List Char := cs.filter fun c => !isSpace c

theorem inked_spaced (cs : List Char) : inked (spaced cs) = inked cs := by
  cases cs with
  | nil => rfl
  | cons c cs =>
    have space : isSpace ' ' = true := rfl
    simp [spaced, inked, space]

theorem inked_normalizeFrom (inside : Bool) (cs : List Char) :
    inked (normalizeFrom inside cs) = inked cs := by
  induction cs generalizing inside with
  | nil => rfl
  | cons c cs ih =>
    cases space : isSpace c with
    | true =>
      have dropped : inked (c :: cs) = inked cs := by simp [inked, space]
      rw [normalizeFrom_space space, dropped]
      cases inside with
      | true => exact (inked_spaced _).trans (ih false)
      | false => exact ih false
    | false =>
      have kept (ds : List Char) : inked (c :: ds) = c :: inked ds := by simp [inked, space]
      rw [normalizeFrom_other space, kept, kept, ih]

theorem head_normalizeFrom (cs : List Char) :
    ∀ c, (normalizeFrom false cs).head? = some c → isSpace c = false := by
  induction cs with
  | nil => simp [normalizeFrom]
  | cons d cs ih =>
    cases space : isSpace d with
    | true =>
      rw [normalizeFrom_space space]
      exact ih
    | false =>
      rw [normalizeFrom_other space]
      intro c first
      cases first
      exact space

theorem Even.cons (other : isSpace c = false) (even : Even cs) : Even (c :: cs) := by
  refine ⟨List.forall_mem_cons.mpr ⟨fun space => ?_, even.spaces⟩, ?_⟩
  · rw [other] at space
    cases space
  · cases cs with
    | nil => exact .singleton c
    | cons d cs =>
      refine List.isChain_cons_cons.mpr ⟨fun space => ?_, even.apart⟩
      rw [other] at space
      cases space

theorem Even.tail (even : Even (c :: cs)) : Even cs := by
  refine ⟨fun d mem => even.spaces d (List.mem_cons_of_mem c mem), ?_⟩
  cases cs with
  | nil => exact .nil
  | cons d cs => exact (List.isChain_cons_cons.mp even.apart).2

theorem even_spaced (even : Even cs) (first : ∀ c, cs.head? = some c → isSpace c = false) :
    Even (spaced cs) := by
  cases cs with
  | nil => exact even
  | cons d cs =>
    refine ⟨List.forall_mem_cons.mpr ⟨fun _ => rfl, even.spaces⟩, ?_⟩
    exact List.isChain_cons_cons.mpr ⟨fun _ => first d rfl, even.apart⟩

theorem even_normalizeFrom (inside : Bool) (cs : List Char) : Even (normalizeFrom inside cs) := by
  induction cs generalizing inside with
  | nil => exact ⟨by simp [normalizeFrom], .nil⟩
  | cons c cs ih =>
    cases space : isSpace c with
    | true =>
      rw [normalizeFrom_space space]
      cases inside with
      | true => exact even_spaced (ih false) (head_normalizeFrom cs)
      | false => exact ih false
    | false =>
      rw [normalizeFrom_other space]
      exact (ih true).cons space

theorem normalizeFrom_of_even (even : Even cs)
    (first : ∀ c, cs.head? = some c → isSpace c = true → inside = true)
    (last : ∀ c, cs.getLast? = some c → isSpace c = false) : normalizeFrom inside cs = cs := by
  induction cs generalizing inside with
  | nil => rfl
  | cons c cs ih =>
    have behind : ∀ d, cs.getLast? = some d → isSpace d = false := by
      intro d ends
      refine last d ?_
      rw [List.getLast?_cons, ends]
      rfl
    cases space : isSpace c with
    | true =>
      obtain rfl : inside = true := first c rfl space
      obtain rfl : c = ' ' := even.spaces c List.mem_cons_self space
      cases cs with
      | nil => exact absurd (last ' ' rfl) (by decide)
      | cons d cs =>
        have solid : isSpace d = false := (List.isChain_cons_cons.mp even.apart).1 space
        have kept : normalizeFrom false (d :: cs) = d :: cs := by
          refine ih even.tail (fun e same blank => ?_) behind
          cases same
          rw [solid] at blank
          cases blank
        rw [normalizeFrom_space space, kept]
        rfl
    | false =>
      rw [normalizeFrom_other space, ih even.tail (fun _ _ _ => rfl) behind]

theorem normalizeFrom_gap (gap : IsGap after) (inside : Bool) :
    normalizeFrom inside after = [] := by
  induction after generalizing inside with
  | nil => rfl
  | cons c cs ih =>
    obtain ⟨space, rest⟩ := List.forall_mem_cons.mp gap
    rw [normalizeFrom_space space, ih rest]
    cases inside <;> rfl

theorem normalizeFrom_append_gap (gap : IsGap after) (inside : Bool) (cs : List Char) :
    normalizeFrom inside (cs ++ after) = normalizeFrom inside cs := by
  induction cs generalizing inside with
  | nil => exact normalizeFrom_gap gap inside
  | cons c cs ih =>
    rw [List.cons_append, normalizeFrom, normalizeFrom, ih, ih]

theorem normalizeSpace_gap_append (gap : IsGap before) (cs : List Char) :
    normalizeSpace (before ++ cs) = normalizeSpace cs := by
  induction before with
  | nil => rfl
  | cons c before ih =>
    obtain ⟨space, rest⟩ := List.forall_mem_cons.mp gap
    exact (normalizeFrom_space space false (before ++ cs)).trans (ih rest)

end Normalize

section Trim

variable {c : Char} {cs : List Char}

theorem isBlank_of_isSpace (space : isSpace c = true) : Blank.isBlank c = true := by
  have known : c = ' ' ∨ c = '\t' ∨ c = '\r' ∨ c = '\n' := by simpa [isSpace] using space
  rcases known with rfl | rfl | rfl | rfl <;> decide

theorem eq_trimEnd_append (cs : List Char) :
    ∃ after, cs = Blank.trimEnd cs ++ after ∧ ∀ c ∈ after, Blank.isBlank c = true := by
  refine ⟨(cs.reverse.takeWhile Blank.isBlank).reverse, ?_, ?_⟩
  · rw [Blank.trimEnd, ← List.reverse_append, List.takeWhile_append_dropWhile, List.reverse_reverse]
  · exact fun c mem => List.mem_takeWhile_imp (List.mem_reverse.mp mem)

theorem eq_trim_between (cs : List Char) : ∃ before after, cs = before ++ (Blank.trim cs ++ after) ∧
    (∀ c ∈ before, Blank.isBlank c = true) ∧ ∀ c ∈ after, Blank.isBlank c = true := by
  obtain ⟨after, whole, blank⟩ := eq_trimEnd_append (Blank.trimStart cs)
  refine ⟨cs.takeWhile Blank.isBlank, after, ?_, fun c => List.mem_takeWhile_imp, blank⟩
  have front : cs.takeWhile Blank.isBlank ++ Blank.trimStart cs = cs :=
    List.takeWhile_append_dropWhile
  rw [Blank.trim, ← whole, front]

theorem isSpace_of_head_trim (first : (Blank.trim cs).head? = some c) : isSpace c = false := by
  obtain ⟨after, whole, _⟩ := eq_trimEnd_append (Blank.trimStart cs)
  have start : (Blank.trimStart cs).head? = some c := by
    rw [whole, List.head?_append]
    exact Option.or_eq_some_iff.mpr (.inl first)
  exact Bool.eq_false_iff.mpr fun space =>
    absurd (isBlank_of_isSpace space) (Bool.eq_false_iff.mp (Blank.head_trimStart start))

theorem isSpace_of_last_trim (last : (Blank.trim cs).getLast? = some c) : isSpace c = false := by
  rw [Blank.trim, Blank.trimEnd, List.getLast?_reverse] at last
  exact Bool.eq_false_iff.mpr fun space =>
    absurd (isBlank_of_isSpace space) (Bool.eq_false_iff.mp (Blank.head_trimStart last))

theorem isGap_of_inked (dropped : inked cs = []) : IsGap cs := by
  intro c mem
  have out := List.filter_eq_nil_iff.mp dropped c mem
  simpa using out

theorem normalizeSpace_eq_trim_iff (cs : List Char) :
    normalizeSpace cs = Blank.trim cs ↔ Tidy cs := by
  constructor
  · intro same
    refine ⟨same ▸ even_normalizeFrom false cs, ?_⟩
    obtain ⟨before, after, whole, _⟩ := eq_trim_between cs
    -- what is no white space is kept by both, so none of it has been trimmed away
    have kept : inked cs = inked (Blank.trim cs) := by
      rw [← same]
      exact (inked_normalizeFrom false cs).symm
    have parts : inked cs = inked before ++ (inked (Blank.trim cs) ++ inked after) := by
      rw [inked, inked, inked, inked, ← List.filter_append, ← List.filter_append, ← whole]
    have lengths := congrArg List.length (kept.symm.trans parts)
    simp only [List.length_append] at lengths
    have front : inked before = [] := List.eq_nil_of_length_eq_zero (by omega)
    have back : inked after = [] := List.eq_nil_of_length_eq_zero (by omega)
    exact ⟨before, after, whole, isGap_of_inked front, isGap_of_inked back⟩
  · rintro ⟨even, before, after, whole, gap, gap'⟩
    calc
      normalizeSpace cs = normalizeSpace (Blank.trim cs ++ after) := by
        rw [whole, normalizeSpace_gap_append gap, ← whole]
      _ = normalizeSpace (Blank.trim cs) := normalizeFrom_append_gap gap' false (Blank.trim cs)
      _ = Blank.trim cs := by
        refine normalizeFrom_of_even even (fun c first space => ?_) fun c => isSpace_of_last_trim
        rw [isSpace_of_head_trim first] at space
        cases space

end Trim

end ElementSearch.XPath
