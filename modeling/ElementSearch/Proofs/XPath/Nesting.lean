import ElementSearch.XPath.Literal

/-! How brackets nest in a query.
A scan passes over literals as a whole and keeps the brackets that are open.  A balanced text closes
all that it opens and nothing else, so it leaves the scan as it was, whatever is open around it.
The expression for a quoted text is balanced, whatever the text is. -/

namespace ElementSearch.XPath

/-- Where a scan stands: in a literal that began with a quote, or between literals; and the
brackets that are open, innermost first.  A closing bracket that fits none of them joins them and
is never taken off again. -/
structure Nesting where
  quote : Option Char
  brackets : List Char
deriving DecidableEq

def isQuote (c : Char) : Bool := c == '\'' || c == '"'

def opens (c : Char) : Bool := c == '(' || c == '['

def partner? (c : Char) : Option Char :=
  if c = ')' then some '(' else if c = ']' then some '[' else none

def isNeutral (c : Char) : Bool := !isQuote c && !opens c && (partner? c).isNone

def Neutral (cs : List Char) : Prop := ∀ c ∈ cs, isNeutral c = true

instance (cs : List Char) : Decidable (Neutral cs) :=
  decidable_of_iff (cs.all isNeutral = true) List.all_eq_true

@[simp] theorem neutral_nil : Neutral [] := fun _ mem => nomatch mem

@[simp] theorem neutral_cons {c : Char} {cs : List Char} :
    Neutral (c :: cs) ↔ isNeutral c = true ∧ Neutral cs := List.forall_mem_cons

@[simp] theorem neutral_append {xs ys : List Char} :
    Neutral (xs ++ ys) ↔ Neutral xs ∧ Neutral ys := List.forall_mem_append

namespace Nesting

def outside : Nesting := ⟨none, []⟩

def close (c opening : Char) : List Char → List Char
  | [] => [c]
  | first :: rest => if first = opening then rest else c :: first :: rest

def bracketed (brackets : List Char) (c : Char) : List Char :=
  if opens c then c :: brackets
  else match partner? c with
    | some opening => close c opening brackets
    | none => brackets

def step (s : Nesting) (c : Char) : Nesting :=
  match s.quote with
  | some quote => if c = quote then { s with quote := none } else s
  | none => if isQuote c then { s with quote := some c } else ⟨none, bracketed s.brackets c⟩

def after (s : Nesting) (cs : List Char) : Nesting := cs.foldl step s

def within (s : Nesting) (outer : List Char) : Nesting := { s with brackets := s.brackets ++ outer }

/-- No closing bracket is left over. -/
def Fits (s : Nesting) : Prop := ∀ c ∈ s.brackets, partner? c = none

@[simp] theorem after_nil (s : Nesting) : s.after [] = s := rfl

@[simp] theorem after_cons (s : Nesting) (c : Char) (cs : List Char) :
    s.after (c :: cs) = (s.step c).after cs := rfl

theorem after_append (s : Nesting) (xs ys : List Char) :
    s.after (xs ++ ys) = (s.after xs).after ys := List.foldl_append

theorem step_of_neutral {c : Char} (neutral : isNeutral c = true) (brackets : List Char) :
    (⟨none, brackets⟩ : Nesting).step c = ⟨none, brackets⟩ := by
  simp only [isNeutral, Bool.and_eq_true, Bool.not_eq_true', Option.isNone_iff_eq_none] at neutral
  obtain ⟨⟨quote, opening⟩, closing⟩ := neutral
  simp [step, quote, bracketed, opening, closing]

theorem after_of_neutral {cs : List Char} (neutral : Neutral cs) (brackets : List Char) :
    (⟨none, brackets⟩ : Nesting).after cs = ⟨none, brackets⟩ := by
  induction cs with
  | nil => rfl
  | cons c rest ih =>
    rw [after_cons, step_of_neutral (neutral c List.mem_cons_self)]
    exact ih fun d mem => neutral d (List.mem_cons_of_mem c mem)

theorem after_literal {quote : Char} {cs : List Char} (absent : quote ∉ cs)
    (brackets : List Char) :
    (⟨some quote, brackets⟩ : Nesting).after (cs ++ [quote]) = ⟨none, brackets⟩ := by
  induction cs with
  | nil => simp [step]
  | cons c rest ih =>
    simp only [List.mem_cons, not_or] at absent
    have other : c ≠ quote := fun same => absent.1 same.symm
    rw [List.cons_append, after_cons]
    simp only [step, other, if_false]
    exact ih absent.2

section Frame

variable {s : Nesting} {c : Char} {cs : List Char}

theorem partner?_partner {opening : Char} (pair : partner? c = some opening) :
    partner? opening = none := by
  unfold partner? at pair
  split at pair
  · cases pair
    decide
  split at pair
  · cases pair
    decide
  · cases pair

theorem fits_of_close {opening : Char} (pair : partner? c = some opening) {brackets : List Char}
    (fits : ∀ d ∈ close c opening brackets, partner? d = none) :
    ∀ d ∈ brackets, partner? d = none := by
  cases brackets with
  | nil => simp
  | cons first rest =>
    by_cases same : first = opening
    · rw [close, if_pos same] at fits
      exact List.forall_mem_cons.mpr ⟨same ▸ partner?_partner pair, fits⟩
    · rw [close, if_neg same] at fits
      exact fun d mem => fits d (List.mem_cons_of_mem c mem)

theorem fits_of_bracketed {brackets : List Char}
    (fits : ∀ d ∈ bracketed brackets c, partner? d = none) : ∀ d ∈ brackets, partner? d = none := by
  unfold bracketed at fits
  split at fits
  · exact fun d mem => fits d (List.mem_cons_of_mem c mem)
  split at fits
  · rename_i pair
    exact fits_of_close pair fits
  · exact fits

theorem fits_of_step (fits : (s.step c).Fits) : s.Fits := by
  unfold step at fits
  split at fits
  · split at fits <;> exact fits
  · split at fits
    · exact fits
    · exact fits_of_bracketed fits

theorem fits_of_after (fits : (s.after cs).Fits) : s.Fits := by
  induction cs generalizing s with
  | nil => exact fits
  | cons c rest ih => exact fits_of_step (ih fits)

theorem close_append {opening : Char} (pair : partner? c = some opening) {brackets : List Char}
    (fits : ∀ d ∈ close c opening brackets, partner? d = none) (outer : List Char) :
    close c opening (brackets ++ outer) = close c opening brackets ++ outer := by
  cases brackets with
  | nil =>
    -- a bracket that finds nothing to close here would be left over, and close something outside
    have stray := fits c List.mem_cons_self
    rw [pair] at stray
    cases stray
  | cons first rest =>
    simp only [List.cons_append, close]
    split <;> rfl

theorem bracketed_append {brackets : List Char}
    (fits : ∀ d ∈ bracketed brackets c, partner? d = none) (outer : List Char) :
    bracketed (brackets ++ outer) c = bracketed brackets c ++ outer := by
  unfold bracketed at fits ⊢
  split
  · rfl
  rename_i other
  rw [if_neg other] at fits
  split
  · rename_i pair
    rw [pair] at fits
    exact close_append pair fits outer
  · rfl

theorem step_within (fits : (s.step c).Fits) (outer : List Char) :
    (s.within outer).step c = (s.step c).within outer := by
  obtain ⟨quote, brackets⟩ := s
  cases quote with
  | some quote =>
    simp only [step, within]
    split <;> rfl
  | none =>
    simp only [step, within] at fits ⊢
    split
    · rfl
    · rename_i unquoted
      rw [if_neg unquoted] at fits
      simp only [bracketed_append fits]

theorem after_within (fits : (s.after cs).Fits) (outer : List Char) :
    (s.within outer).after cs = (s.after cs).within outer := by
  induction cs generalizing s with
  | nil => rfl
  | cons c rest ih =>
    rw [after_cons, after_cons, step_within (fits_of_after fits), ih fits]

end Frame

end Nesting

open Nesting

/-- Everything that the text opens is closed in it, and nothing else. -/
def Balanced (cs : List Char) : Prop := outside.after cs = outside

instance (cs : List Char) : Decidable (Balanced cs) :=
  inferInstanceAs (Decidable (outside.after cs = outside))

/-- Read inside any brackets the text closes none of them, at no point, and opens nothing that it
does not close. -/
def KeepsToItself (cs : List Char) : Prop :=
  ∀ outer : List Char, (⟨none, outer⟩ : Nesting).after cs = ⟨none, outer⟩ ∧
    ∀ front, front <+: cs → outer <:+ ((⟨none, outer⟩ : Nesting).after front).brackets

theorem fits_outside : outside.Fits := fun _ mem => nomatch mem

theorem balanced_nil : Balanced [] := rfl

namespace Balanced

variable {cs xs ys : List Char}

theorem after_eq (balanced : Balanced cs) (outer : List Char) :
    (⟨none, outer⟩ : Nesting).after cs = ⟨none, outer⟩ := by
  have fits : (outside.after cs).Fits := by rw [balanced]; exact fits_outside
  have framed := after_within fits outer
  rw [balanced] at framed
  exact framed

theorem keepsToItself (balanced : Balanced cs) : KeepsToItself cs := by
  intro outer
  refine ⟨balanced.after_eq outer, ?_⟩
  rintro front ⟨back, rfl⟩
  -- what is left over somewhere in the text is left over at its end
  have whole : ((outside.after front).after back).Fits := by
    rw [← after_append, balanced]
    exact fits_outside
  have framed : (⟨none, outer⟩ : Nesting).after front = (outside.after front).within outer :=
    after_within (fits_of_after whole) outer
  rw [framed]
  exact List.suffix_append _ outer

theorem append (first : Balanced xs) (second : Balanced ys) : Balanced (xs ++ ys) := by
  rw [Balanced, after_append, first, second]

theorem of_neutral (neutral : Neutral cs) : Balanced cs := after_of_neutral neutral []

theorem of_neutral_append (neutral : Neutral xs) (whole : Balanced (xs ++ ys)) : Balanced ys := by
  have skipped : outside.after xs = outside := of_neutral neutral
  rwa [Balanced, after_append, skipped] at whole

theorem surrounded {opening closing : List Char} (opened : (outside.after opening).quote = none)
    (closed : outside.after (opening ++ closing) = outside) (inner : Balanced cs) :
    Balanced (opening ++ cs ++ closing) := by
  have stays : (outside.after opening).after cs = outside.after opening := by
    cases place : outside.after opening with
    | mk quote brackets =>
      rw [place] at opened
      cases opened
      exact inner.after_eq brackets
  rw [Balanced, after_append, after_append, stays, ← after_append, closed]

theorem intercalate {separator : List Char} (between : Balanced separator)
    {parts : List (List Char)} (all : ∀ part ∈ parts, Balanced part) :
    Balanced (separator.intercalate parts) := by
  induction parts with
  | nil => exact balanced_nil
  | cons part rest ih =>
    have first := all part List.mem_cons_self
    have others := ih fun p mem => all p (List.mem_cons_of_mem part mem)
    cases rest with
    | nil => rwa [List.intercalate_singleton]
    | cons next rest =>
      rw [List.intercalate_cons_cons]
      exact (first.append between).append others

end Balanced

theorem balanced_enclose {quote : Char} (mark : isQuote quote = true) {cs : List Char}
    (absent : quote ∉ cs) : Balanced (enclose quote cs) := by
  have opened : outside.step quote = ⟨some quote, []⟩ := by simp [step, outside, mark]
  rw [Balanced, enclose, after_cons, opened, after_literal absent]
  rfl

theorem balanced_quoteChars (cs : List Char) : Balanced (quoteChars cs) := by
  unfold quoteChars
  split
  · rename_i absent
    exact balanced_enclose rfl absent
  split
  · rename_i absent
    exact balanced_enclose rfl absent
  · have between : Balanced separator := by rw [Balanced]; decide
    have parts : ∀ part ∈ (Cut.cut '\'' cs).map (enclose '\''), Balanced part := by
      intro part mem
      obtain ⟨cut, piece, rfl⟩ := List.mem_map.mp mem
      exact balanced_enclose rfl (Cut.notMem_of_mem_cut piece)
    exact Balanced.surrounded (by decide) (by decide) (between.intercalate parts)

theorem balanced_quote (text : String) : Balanced (quote text).toList := by
  rw [quote, String.toList_ofList]
  exact balanced_quoteChars text.toList

theorem balanced_quoteValue {v : Value} {expression : String}
    (quoted : quoteValue v = .ok expression) : Balanced expression.toList := by
  unfold quoteValue at quoted
  split at quoted
  · cases quoted
    exact balanced_quote ""
  · obtain ⟨text, _, rfl⟩ := Outcome.map_eq_ok quoted
    exact balanced_quote text

end ElementSearch.XPath
