import ElementSearch.Proofs.XPath.Nesting

/-! Round brackets behind an axis.
Behind a double slash, or behind the colons of an axis, a query goes on with a step and not with a
bracket.  What stands in literals does not count.  Text that is put behind a query brings such a
bracket in only if it has one itself or begins with a bracket, and a quoted text has none. -/

namespace ElementSearch.XPath

open Nesting

def Closed (cs : List Char) : Prop := (outside.after cs).quote = none

instance (cs : List Char) : Decidable (Closed cs) := inferInstanceAs (Decidable (_ = none))

/-- The characters outside of literals; of a literal the quote that opens it is kept. -/
def bareFrom (s : Nesting) : List Char → List Char
  | [] => []
  | c :: cs => if s.quote = none then c :: bareFrom (s.step c) cs else bareFrom (s.step c) cs

def bare (cs : List Char) : List Char := bareFrom outside cs

/-- What leads to the next step. -/
def signs : List (List Char) := [['/', '/'], [':', ':']]

/-- A round bracket opens directly behind a double slash or an axis. -/
def EntersBracket (cs : List Char) : Prop := ∃ sign ∈ signs, sign ++ ['('] <:+: bare cs

instance : DecidablePred EntersBracket := fun _ => inferInstanceAs (Decidable (∃ sign ∈ signs, _))

/-- The text can stand behind any other: no bracket is at its start, and none behind an axis. -/
structure Continues (cs : List Char) : Prop where
  start : '(' ∉ (bare cs).take 2
  free : ¬EntersBracket cs

instance (cs : List Char) : Decidable (Continues cs) :=
  decidable_of_iff ('(' ∉ (bare cs).take 2 ∧ ¬EntersBracket cs)
    ⟨fun h => ⟨h.1, h.2⟩, fun h => ⟨h.start, h.free⟩⟩

section Bare

variable {s t : Nesting} {xs ys : List Char}

theorem quote_step (same : s.quote = t.quote) (c : Char) : (s.step c).quote = (t.step c).quote := by
  unfold step
  rw [← same]
  cases s.quote with
  | some quote =>
    simp only []
    split
    · rfl
    · exact same
  | none =>
    simp only []
    split <;> rfl

theorem quote_after (same : s.quote = t.quote) (cs : List Char) :
    (s.after cs).quote = (t.after cs).quote := by
  induction cs generalizing s t with
  | nil => exact same
  | cons c rest ih => exact ih (quote_step same c)

theorem Closed.append (first : Closed xs) (second : Closed ys) : Closed (xs ++ ys) := by
  have same : (outside.after xs).quote = outside.quote := first
  rw [Closed, after_append, quote_after same]
  exact second

theorem Balanced.closed (balanced : Balanced xs) : Closed xs := by
  rw [Closed, balanced]
  rfl

theorem bareFrom_congr (same : s.quote = t.quote) (cs : List Char) :
    bareFrom s cs = bareFrom t cs := by
  induction cs generalizing s t with
  | nil => rfl
  | cons c rest ih => rw [bareFrom, bareFrom, same, ih (quote_step same c)]

theorem bareFrom_append (s : Nesting) (xs ys : List Char) :
    bareFrom s (xs ++ ys) = bareFrom s xs ++ bareFrom (s.after xs) ys := by
  induction xs generalizing s with
  | nil => rfl
  | cons c rest ih =>
    rw [List.cons_append, bareFrom, bareFrom, ih, after_cons]
    split <;> rfl

theorem bare_append (closed : Closed xs) (ys : List Char) :
    bare (xs ++ ys) = bare xs ++ bare ys := by
  rw [bare, bareFrom_append, bareFrom_congr (t := outside) closed ys]
  rfl

theorem bare_cons {c : Char} (mark : isQuote c = false) (cs : List Char) :
    bare (c :: cs) = c :: bare cs := by
  have same : (outside.step c).quote = outside.quote := by simp [step, outside, mark]
  have opened : bare (c :: cs) = c :: bareFrom (outside.step c) cs := rfl
  rw [opened, bareFrom_congr same]
  rfl

theorem head?_bare (cs : List Char) : (bare cs).head? = cs.head? := by
  cases cs <;> rfl

theorem bare_of_neutral {cs : List Char} (neutral : Neutral cs) : bare cs = cs := by
  induction cs with
  | nil => rfl
  | cons c rest ih =>
    obtain ⟨first, others⟩ := neutral_cons.mp neutral
    have mark : isQuote c = false := by
      simp only [isNeutral, Bool.and_eq_true, Bool.not_eq_true'] at first
      exact first.1.1
    rw [bare_cons mark, ih others]

theorem bare_enclose {quote : Char} (mark : isQuote quote = true) {cs : List Char}
    (absent : quote ∉ cs) : bare (enclose quote cs) = [quote] := by
  have hidden : bareFrom ⟨some quote, []⟩ (cs ++ [quote]) = [] := by
    induction cs with
    | nil => simp [bareFrom]
    | cons c rest ih =>
      simp only [List.mem_cons, not_or] at absent
      have other : c ≠ quote := fun same => absent.1 same.symm
      have stays : (⟨some quote, []⟩ : Nesting).step c = ⟨some quote, []⟩ := by
        simp [step, other]
      rw [List.cons_append, bareFrom, if_neg (by simp), stays, ih absent.2]
  have opened : bare (enclose quote cs) = quote :: bareFrom (outside.step quote) (cs ++ [quote]) :=
    rfl
  have begun : outside.step quote = ⟨some quote, []⟩ := by simp [step, outside, mark]
  rw [opened, begun, hidden]

end Bare

section Put

variable {xs ys : List Char}

theorem infix_append_cases {a b : Char} (start : '(' ∉ ys.take 2)
    (inside : [a, b, '('] <:+: xs ++ ys) : [a, b, '('] <:+: xs ∨ [a, b, '('] <:+: ys := by
  induction xs with
  | nil => exact .inr inside
  | cons x rest ih =>
    rcases List.infix_cons_iff.mp inside with here | later
    · have same : a = x ∧ [b, '('] <+: rest ++ ys := List.cons_prefix_cons.mp here
      obtain ⟨rfl, behind⟩ := same
      rcases rest with _ | ⟨y, _ | ⟨z, rest⟩⟩
      · obtain ⟨tail, rfl⟩ := behind
        exact absurd (by simp) start
      · obtain ⟨_, tail, rfl⟩ := List.cons_prefix_cons.mp behind
        exact absurd (by simp) start
      · obtain ⟨rfl, further⟩ := List.cons_prefix_cons.mp behind
        obtain ⟨rfl, _⟩ := List.cons_prefix_cons.mp further
        exact .inl (List.prefix_append [a, b, '('] rest).isInfix
    · exact (ih later).imp_left List.infix_cons

theorem free_append (closed : Closed xs) (free : ¬EntersBracket xs) (behind : Continues ys) :
    ¬EntersBracket (xs ++ ys) := by
  rintro ⟨sign, known, inside⟩
  have two : ∃ a b, sign = [a, b] := by
    simp only [signs, List.mem_cons, List.not_mem_nil, or_false] at known
    rcases known with rfl | rfl <;> exact ⟨_, _, rfl⟩
  obtain ⟨a, b, rfl⟩ := two
  rw [bare_append closed] at inside
  rcases infix_append_cases behind.start inside with first | second
  · exact free ⟨_, known, first⟩
  · exact behind.free ⟨_, known, second⟩

theorem Continues.append (closed : Closed xs) (first : Continues xs) (second : Continues ys) :
    Continues (xs ++ ys) where
  start := by
    rw [bare_append closed, List.take_append]
    simp only [List.mem_append, not_or]
    exact ⟨first.start, fun mem =>
      second.start ((List.take_sublist_take_left (by omega)).mem mem)⟩
  free := free_append closed first.free second

theorem continues_of_neutral (neutral : Neutral xs) : Continues xs := by
  have absent : '(' ∉ bare xs := by
    rw [bare_of_neutral neutral]
    exact fun mem => absurd (neutral _ mem) (by decide)
  exact ⟨fun mem => absent (List.mem_of_mem_take mem),
    fun ⟨_, _, inside⟩ => absent (inside.subset (by simp))⟩

theorem Continues.intercalate {separator : List Char} (between : Closed separator)
    (link : Continues separator) {parts : List (List Char)}
    (all : ∀ part ∈ parts, Closed part ∧ Continues part) :
    Continues (separator.intercalate parts) := by
  induction parts with
  | nil => exact continues_of_neutral neutral_nil
  | cons part rest ih =>
    obtain ⟨⟨closed, first⟩, others⟩ := List.forall_mem_cons.mp all
    cases rest with
    | nil => rwa [List.intercalate_singleton]
    | cons next rest =>
      rw [List.intercalate_cons_cons]
      exact (first.append closed link).append (closed.append between) (ih others)

theorem free_cons {c : Char} (mark : isQuote c = false) (other : c ≠ '/' ∧ c ≠ ':')
    (free : ¬EntersBracket xs) : ¬EntersBracket (c :: xs) := by
  rintro ⟨sign, known, inside⟩
  rw [bare_cons mark] at inside
  rcases List.infix_cons_iff.mp inside with here | later
  · simp only [signs, List.mem_cons, List.not_mem_nil, or_false] at known
    rcases known with rfl | rfl
    · exact other.1 (List.cons_prefix_cons.mp here).1.symm
    · exact other.2 (List.cons_prefix_cons.mp here).1.symm
  · exact free ⟨sign, known, later⟩

theorem continues_signed {sign : List Char} (known : sign ∈ signs)
    (begins : ∀ c ∈ ys.head?, c ≠ '(' ∧ c ≠ '/' ∧ c ≠ ':') (free : ¬EntersBracket ys) :
    Continues (sign ++ ys) := by
  have double : ∃ c, sign = [c, c] ∧ (c = '/' ∨ c = ':') := by
    simp only [signs, List.mem_cons, List.not_mem_nil, or_false] at known
    rcases known with rfl | rfl
    · exact ⟨'/', rfl, .inl rfl⟩
    · exact ⟨':', rfl, .inr rfl⟩
  obtain ⟨c, rfl, part⟩ := double
  have mark : isQuote c = false := by rcases part with rfl | rfl <;> rfl
  have spelled : bare ([c, c] ++ ys) = c :: c :: bare ys := by
    rw [List.cons_append, bare_cons mark, List.cons_append, bare_cons mark, List.nil_append]
  constructor
  · rw [spelled]
    rcases part with rfl | rfl <;> simp
  · rintro ⟨sign, known', inside⟩
    rw [spelled] at inside
    rw [← head?_bare] at begins
    rcases List.infix_cons_iff.mp inside with here | inside
    · -- the sign itself, with the bracket as the first character of the text
      simp only [signs, List.mem_cons, List.not_mem_nil, or_false] at known'
      have behind : ['('] <+: bare ys := by
        rcases known' with rfl | rfl
        · exact (List.cons_prefix_cons.mp (List.cons_prefix_cons.mp here).2).2
        · exact (List.cons_prefix_cons.mp (List.cons_prefix_cons.mp here).2).2
      obtain ⟨tail, same⟩ := behind
      exact (begins '(' (by rw [← same]; rfl)).1 rfl
    rcases List.infix_cons_iff.mp inside with here | later
    · -- a sign that ends with the first character of the text
      simp only [signs, List.mem_cons, List.not_mem_nil, or_false] at known'
      rcases known' with rfl | rfl
      · obtain ⟨tail, same⟩ := (List.cons_prefix_cons.mp here).2
        exact (begins '/' (by rw [← same]; rfl)).2.1 rfl
      · obtain ⟨tail, same⟩ := (List.cons_prefix_cons.mp here).2
        exact (begins ':' (by rw [← same]; rfl)).2.2 rfl
    · exact free ⟨sign, known', later⟩

theorem enters_of_sign {front sign : List Char} (known : sign ∈ signs) (closed : Closed xs)
    (opening : bare xs = front ++ sign) (ys : List Char) : EntersBracket (xs ++ '(' :: ys) := by
  refine ⟨sign, known, front, bare ys, ?_⟩
  rw [bare_append closed, opening, bare_cons rfl]
  simp

end Put

section Quoted

variable {xs ys : List Char}

def Level (cs : List Char) : Prop := ∀ c ∈ bare cs, c ≠ '/' ∧ c ≠ ':'

instance (cs : List Char) : Decidable (Level cs) := List.decidableBAll _ _

theorem Level.append (closed : Closed xs) (first : Level xs) (second : Level ys) :
    Level (xs ++ ys) := by
  rw [Level, bare_append closed]
  exact List.forall_mem_append.mpr ⟨first, second⟩

theorem Level.intercalate {separator : List Char} (between : Closed separator)
    (level : Level separator) {parts : List (List Char)}
    (all : ∀ part ∈ parts, Closed part ∧ Level part) : Level (separator.intercalate parts) := by
  induction parts with
  | nil => exact fun _ mem => nomatch mem
  | cons part rest ih =>
    obtain ⟨⟨closed, first⟩, others⟩ := List.forall_mem_cons.mp all
    cases rest with
    | nil => rwa [List.intercalate_singleton]
    | cons next rest =>
      rw [List.intercalate_cons_cons]
      exact (first.append closed level).append (closed.append between) (ih others)

theorem Level.free (level : Level xs) : ¬EntersBracket xs := by
  rintro ⟨sign, known, inside⟩
  simp only [signs, List.mem_cons, List.not_mem_nil, or_false] at known
  rcases known with rfl | rfl
  · exact (level '/' (inside.subset (by simp))).1 rfl
  · exact (level ':' (inside.subset (by simp))).2 rfl

theorem level_enclose {quote : Char} (mark : quote = '\'' ∨ quote = '"') {cs : List Char}
    (absent : quote ∉ cs) : Level (enclose quote cs) := by
  have isMark : isQuote quote = true := by rcases mark with rfl | rfl <;> rfl
  rw [Level, bare_enclose isMark absent, List.forall_mem_singleton]
  rcases mark with rfl | rfl <;> decide

theorem level_quoteChars (cs : List Char) : Level (quoteChars cs) := by
  unfold quoteChars
  split
  · rename_i absent
    exact level_enclose (.inl rfl) absent
  split
  · rename_i absent
    exact level_enclose (.inr rfl) absent
  · have parts : ∀ part ∈ (Cut.cut '\'' cs).map (enclose '\''), Balanced part ∧ Level part := by
      intro part mem
      obtain ⟨cut, piece, rfl⟩ := List.mem_map.mp mem
      have absent := Cut.notMem_of_mem_cut piece
      exact ⟨balanced_enclose rfl absent, level_enclose (.inl rfl) absent⟩
    have between : Balanced separator := by rw [Balanced]; decide
    have arguments := Level.intercalate between.closed (by decide) fun part mem =>
      (parts part mem).imp_left Balanced.closed
    have inner := between.intercalate fun part mem => (parts part mem).1
    have call : Closed concatOpen ∧ Level concatOpen := by decide
    have opened := call.2.append call.1 arguments
    exact opened.append (call.1.append inner.closed) (by decide)

theorem level_quoteValue {v : Value} {expression : String}
    (quoted : quoteValue v = .ok expression) : Level expression.toList := by
  have level (text : String) : Level (quote text).toList := by
    rw [quote, String.toList_ofList]
    exact level_quoteChars text.toList
  unfold quoteValue at quoted
  split at quoted
  · cases quoted
    exact level ""
  · obtain ⟨text, _, rfl⟩ := Outcome.map_eq_ok quoted
    exact level text

theorem continues_of_level (closed : Closed xs) (level : Level xs) (two : 2 ≤ (bare xs).length)
    (start : '(' ∉ (bare xs).take 2) (behind : Level ys) : Continues (xs ++ ys) where
  start := by rwa [bare_append closed, List.take_append_of_le_length two]
  free := (level.append closed behind).free

end Quoted

end ElementSearch.XPath
