import ElementSearch.Proofs.XPath.Quote
import Mathlib.Data.List.TakeWhile

/-! String expressions at the front of a query.
`IsPrimary` says which characters are a literal, or `concat` of two literals or more, and what they
stand for.  `readPrimary?` takes such an expression from the front of any characters, and it takes
exactly what the rules allow: no expression begins another one.  A quoted text is therefore read as
a whole and nothing behind it is, whatever the text and whatever follows. -/

namespace ElementSearch.XPath

def IsGap (cs : List Char) : Prop := ∀ c ∈ cs, isSpace c = true

/-- There are no escapes: a literal ends at the first quote of its own kind. -/
inductive IsLiteral : List Char → List Char → Prop
  | quoted {quote : Char} {content : List Char} (mark : quote = '\'' ∨ quote = '"')
      (absent : quote ∉ content) : IsLiteral (quote :: (content ++ [quote])) content

/-- The arguments of a call, with commas between them and the bracket that closes it. -/
inductive AreArguments : List Char → List (List Char) → Prop
  | last {before expression after content : List Char} (gap : IsGap before)
      (literal : IsLiteral expression content) (gap' : IsGap after) :
      AreArguments (before ++ (expression ++ (after ++ [')']))) [content]
  | more {before expression after content others : List Char} {contents : List (List Char)}
      (gap : IsGap before) (literal : IsLiteral expression content) (gap' : IsGap after)
      (rest : AreArguments others contents) :
      AreArguments (before ++ (expression ++ (after ++ ',' :: others))) (content :: contents)

/-- The characters are a string expression for the text. -/
inductive IsPrimary : List Char → List Char → Prop
  | literal {expression content : List Char} (literal : IsLiteral expression content) :
      IsPrimary expression content
  | concat {gap arguments : List Char} {contents : List (List Char)} (blank : IsGap gap)
      (given : AreArguments arguments contents) (several : 2 ≤ contents.length) :
      IsPrimary (['c', 'o', 'n', 'c', 'a', 't'] ++ (gap ++ '(' :: arguments)) contents.flatten

def readTo? (quote : Char) : List Char → Option (List Char × List Char)
  | [] => none
  | c :: cs =>
    if c = quote then some ([], cs)
    else (readTo? quote cs).map fun (content, rest) => (c :: content, rest)

def readLiteral? : List Char → Option (List Char × List Char)
  | [] => none
  | c :: cs => if c = '\'' ∨ c = '"' then readTo? c cs else none

def skipGap (cs : List Char) : List Char := cs.dropWhile isSpace

section Literals

variable {quote : Char} {cs content rest : List Char}

theorem readTo?_iff :
    readTo? quote cs = some (content, rest) ↔ cs = content ++ quote :: rest ∧ quote ∉ content := by
  induction cs generalizing content with
  | nil => simp [readTo?]
  | cons c cs ih =>
    by_cases closes : c = quote
    · have ends : readTo? quote (c :: cs) = some ([], cs) := by rw [readTo?, if_pos closes]
      rw [ends]
      cases content with
      | nil => simp [closes]
      | cons d content =>
        have other (whole : c :: cs = d :: (content ++ quote :: rest)) : quote ∈ d :: content := by
          have same : c = d := (List.cons.inj whole).1
          exact List.mem_cons.mpr (.inl (closes ▸ same))
        constructor
        · intro impossible
          cases impossible
        · rintro ⟨whole, absent⟩
          exact absurd (other whole) absent
    · have goes : readTo? quote (c :: cs) =
          (readTo? quote cs).map fun (content, rest) => (c :: content, rest) := by
        rw [readTo?, if_neg closes]
      rw [goes, Option.map_eq_some_iff]
      constructor
      · rintro ⟨⟨content', rest'⟩, read, same⟩
        obtain ⟨rfl, rfl⟩ := Prod.mk.inj same
        obtain ⟨rfl, absent⟩ := ih.mp read
        have kept : quote ∉ c :: content' := by
          simp only [List.mem_cons, not_or]
          exact ⟨fun same => closes same.symm, absent⟩
        exact ⟨rfl, kept⟩
      · rintro ⟨whole, absent⟩
        cases content with
        | nil => exact absurd (List.cons.inj whole).1 closes
        | cons d content =>
          obtain ⟨rfl, tail⟩ := List.cons.inj whole
          have inside : quote ∉ content := fun mem => absent (List.mem_cons_of_mem c mem)
          exact ⟨(content, rest), ih.mpr ⟨tail, inside⟩, rfl⟩

theorem readLiteral?_iff :
    readLiteral? cs = some (content, rest) ↔
      ∃ expression, cs = expression ++ rest ∧ IsLiteral expression content := by
  cases cs with
  | nil =>
    constructor
    · intro impossible
      cases impossible
    · rintro ⟨_, whole, ⟨_, _⟩⟩
      cases whole
  | cons c cs =>
    rw [readLiteral?]
    constructor
    · intro read
      split at read
      · rename_i mark
        obtain ⟨rfl, absent⟩ := readTo?_iff.mp read
        exact ⟨c :: (content ++ [c]), by simp, .quoted mark absent⟩
      · cases read
    · rintro ⟨_, whole, ⟨mark, absent⟩⟩
      obtain ⟨rfl, tail⟩ := List.cons.inj whole
      have inside : cs = content ++ c :: rest := by simpa using tail
      rw [if_pos mark]
      exact readTo?_iff.mpr ⟨inside, absent⟩

theorem IsLiteral.opens {expression : List Char} (literal : IsLiteral expression content) :
    ∃ c inside, expression = c :: inside ∧ isSpace c = false := by
  obtain ⟨mark, absent⟩ := literal
  refine ⟨_, _, rfl, ?_⟩
  rcases mark with rfl | rfl <;> rfl

theorem length_readLiteral? (read : readLiteral? cs = some (content, rest)) :
    rest.length < cs.length := by
  obtain ⟨expression, rfl, literal⟩ := readLiteral?_iff.mp read
  obtain ⟨c, inside, rfl, _⟩ := literal.opens
  simp only [List.length_append, List.length_cons]
  omega

end Literals

theorem length_skipGap_le (cs : List Char) : (skipGap cs).length ≤ cs.length :=
  (List.dropWhile_sublist _).length_le

theorem eq_gap_append (cs : List Char) : ∃ gap, IsGap gap ∧ cs = gap ++ skipGap cs :=
  ⟨cs.takeWhile isSpace, fun _ => List.mem_takeWhile_imp, List.takeWhile_append_dropWhile.symm⟩

theorem skipGap_iff {c : Char} (solid : isSpace c = false) {cs rest : List Char} :
    skipGap cs = c :: rest ↔ ∃ gap, IsGap gap ∧ cs = gap ++ c :: rest := by
  constructor
  · intro skipped
    rw [← skipped]
    exact eq_gap_append cs
  · rintro ⟨gap, blank, rfl⟩
    have passed : (gap ++ c :: rest).dropWhile isSpace = (c :: rest).dropWhile isSpace :=
      List.dropWhile_append_of_pos blank
    rw [skipGap, passed, List.dropWhile_cons, solid]
    rfl

theorem readLiteral?_skipGap_iff {cs content rest : List Char} :
    readLiteral? (skipGap cs) = some (content, rest) ↔
      ∃ gap expression, IsGap gap ∧ IsLiteral expression content ∧
        cs = gap ++ (expression ++ rest) := by
  rw [readLiteral?_iff]
  constructor
  · rintro ⟨expression, skipped, literal⟩
    obtain ⟨gap, blank, whole⟩ := eq_gap_append cs
    exact ⟨gap, expression, blank, literal, skipped ▸ whole⟩
  · rintro ⟨gap, expression, blank, literal, rfl⟩
    obtain ⟨c, inside, rfl, solid⟩ := literal.opens
    exact ⟨c :: inside, (skipGap_iff solid).mpr ⟨gap, blank, rfl⟩, literal⟩

def readArguments? (cs : List Char) : Option (List (List Char) × List Char) :=
  match read : readLiteral? (skipGap cs) with
  | none => none
  | some (content, rest) =>
    match skipped : skipGap rest with
    | ')' :: rest => some ([content], rest)
    | ',' :: others =>
      have shorter : others.length < cs.length := by
        have literal := length_readLiteral? read
        have first := length_skipGap_le cs
        have second := length_skipGap_le rest
        simp only [skipped, List.length_cons] at second
        omega
      (readArguments? others).map fun (contents, rest) => (content :: contents, rest)
    | _ => none
termination_by cs.length

theorem readArguments?_last {cs content rest tail : List Char}
    (read : readLiteral? (skipGap cs) = some (content, rest))
    (closed : skipGap rest = ')' :: tail) : readArguments? cs = some ([content], tail) := by
  rw [readArguments?]
  split
  · rename_i nothing
    cases read.symm.trans nothing
  · rename_i something
    cases read.symm.trans something
    split <;> simp_all

theorem readArguments?_more {cs content rest others : List Char}
    (read : readLiteral? (skipGap cs) = some (content, rest))
    (going : skipGap rest = ',' :: others) :
    readArguments? cs =
      (readArguments? others).map fun (contents, rest) => (content :: contents, rest) := by
  rw [readArguments?]
  split
  · rename_i nothing
    cases read.symm.trans nothing
  · rename_i something
    cases read.symm.trans something
    split <;> simp_all

theorem readArguments?_iff {cs : List Char} {contents : List (List Char)} {rest : List Char} :
    readArguments? cs = some (contents, rest) ↔
      ∃ arguments, cs = arguments ++ rest ∧ AreArguments arguments contents := by
  -- Soundness follows the reader, completeness the rules.
  constructor
  · intro read
    fun_induction readArguments? cs generalizing contents with
    | case1 cs nothing => cases read
    | case2 cs content after something rest' closed =>
      cases read
      obtain ⟨before, expression, gap, literal, rfl⟩ := readLiteral?_skipGap_iff.mp something
      obtain ⟨gap', blank, rfl⟩ := (skipGap_iff rfl).mp closed
      exact ⟨_, by simp, .last gap literal blank⟩
    | case3 cs content after something others going shorter ih =>
      obtain ⟨⟨contents', rest'⟩, given, same⟩ := Option.map_eq_some_iff.mp read
      obtain ⟨rfl, rfl⟩ := Prod.mk.inj same
      obtain ⟨arguments, rfl, tail⟩ := ih given
      obtain ⟨before, expression, gap, literal, rfl⟩ := readLiteral?_skipGap_iff.mp something
      obtain ⟨gap', blank, rfl⟩ := (skipGap_iff rfl).mp going
      exact ⟨_, by simp, .more gap literal blank tail⟩
    | case4 => cases read
  · rintro ⟨arguments, rfl, given⟩
    induction given with
    | last gap literal blank =>
      refine readArguments?_last (readLiteral?_skipGap_iff.mpr ⟨_, _, gap, literal, ?_⟩)
        ((skipGap_iff rfl).mpr ⟨_, blank, rfl⟩)
      simp
    | more gap literal blank _ ih =>
      rw [readArguments?_more (readLiteral?_skipGap_iff.mpr ⟨_, _, gap, literal, ?_⟩)
        ((skipGap_iff rfl).mpr ⟨_, blank, rfl⟩), ih]
      · rfl
      · simp

def readCall? (cs : List Char) : Option (List Char × List Char) :=
  match skipGap cs with
  | '(' :: cs =>
    ((readArguments? cs).filter fun given => 2 ≤ given.1.length).map fun (contents, rest) =>
      (contents.flatten, rest)
  | _ => none

def readPrimary? : List Char → Option (List Char × List Char)
  | 'c' :: 'o' :: 'n' :: 'c' :: 'a' :: 't' :: cs => readCall? cs
  | cs => readLiteral? cs

theorem readCall?_iff {cs value rest : List Char} :
    readCall? cs = some (value, rest) ↔
      ∃ gap arguments contents, cs = gap ++ '(' :: (arguments ++ rest) ∧ IsGap gap ∧
        AreArguments arguments contents ∧ 2 ≤ contents.length ∧ value = contents.flatten := by
  constructor
  · intro read
    unfold readCall? at read
    split at read
    · rename_i called
      obtain ⟨⟨contents, rest'⟩, given, same⟩ := Option.map_eq_some_iff.mp read
      obtain ⟨rfl, rfl⟩ := Prod.mk.inj same
      obtain ⟨given, several⟩ := Option.filter_eq_some_iff.mp given
      obtain ⟨gap, blank, rfl⟩ := (skipGap_iff rfl).mp called
      obtain ⟨arguments, rfl, rules⟩ := readArguments?_iff.mp given
      exact ⟨gap, arguments, contents, rfl, blank, rules, of_decide_eq_true several, rfl⟩
    · cases read
  · rintro ⟨gap, arguments, contents, rfl, blank, rules, several, rfl⟩
    have called : skipGap (gap ++ '(' :: (arguments ++ rest)) = '(' :: (arguments ++ rest) :=
      (skipGap_iff rfl).mpr ⟨gap, blank, rfl⟩
    have given : readArguments? (arguments ++ rest) = some (contents, rest) :=
      readArguments?_iff.mpr ⟨arguments, rfl, rules⟩
    rw [readCall?, called]
    exact Option.map_eq_some_iff.mpr
      ⟨(contents, rest), Option.filter_eq_some_iff.mpr ⟨given, decide_eq_true several⟩, rfl⟩

theorem readPrimary?_iff {cs value rest : List Char} :
    readPrimary? cs = some (value, rest) ↔
      ∃ expression, cs = expression ++ rest ∧ IsPrimary expression value := by
  constructor
  · intro read
    unfold readPrimary? at read
    split at read
    · obtain ⟨gap, arguments, contents, rfl, blank, rules, several, rfl⟩ := readCall?_iff.mp read
      exact ⟨_, by simp, .concat blank rules several⟩
    · obtain ⟨expression, rfl, literal⟩ := readLiteral?_iff.mp read
      exact ⟨expression, rfl, .literal literal⟩
  · rintro ⟨expression, rfl, primary⟩
    cases primary with
    | literal literal =>
      have read : readLiteral? (expression ++ rest) = some (value, rest) :=
        readLiteral?_iff.mpr ⟨expression, rfl, literal⟩
      obtain ⟨rfl | rfl, _⟩ := literal
      · exact read
      · exact read
    | @concat gap arguments contents blank given several =>
      have whole : gap ++ '(' :: arguments ++ rest = gap ++ '(' :: (arguments ++ rest) := by simp
      exact readCall?_iff.mpr ⟨gap, arguments, contents, whole, blank, given, several, rfl⟩

theorem IsPrimary.read {expression value : List Char} (primary : IsPrimary expression value)
    (rest : List Char) : readPrimary? (expression ++ rest) = some (value, rest) :=
  readPrimary?_iff.mpr ⟨expression, rfl, primary⟩

theorem IsPrimary.unique {expression expression' value value' rest rest' : List Char}
    (primary : IsPrimary expression value) (primary' : IsPrimary expression' value')
    (same : expression ++ rest = expression' ++ rest') :
    expression = expression' ∧ value = value' ∧ rest = rest' := by
  have read := primary.read rest
  rw [same, primary'.read rest'] at read
  cases read
  exact ⟨List.append_cancel_right same, rfl, rfl⟩

section Quoted

theorem isGap_nil : IsGap [] := fun _ mem => nomatch mem

theorem isGap_space : IsGap [' '] := by
  intro c mem
  rw [List.mem_singleton.mp mem]
  rfl

theorem AreArguments.spaced {arguments : List Char} {contents : List (List Char)}
    (given : AreArguments arguments contents) : AreArguments (' ' :: arguments) contents := by
  have wider {gap : List Char} (blank : IsGap gap) : IsGap (' ' :: gap) :=
    List.forall_mem_cons.mpr ⟨rfl, blank⟩
  cases given with
  | last gap literal gap' => exact .last (wider gap) literal gap'
  | more gap literal gap' rest => exact .more (wider gap) literal gap' rest

theorem areArguments_parts {parts : List (List Char)} (some_ : parts ≠ [])
    (absent : ∀ part ∈ parts, '\'' ∉ part) :
    AreArguments (separator.intercalate (parts.map (enclose '\'')) ++ [')'])
      (parts.intersperse ['\'']) := by
  induction parts with
  | nil => exact absurd rfl some_
  | cons part rest ih =>
    have literal : IsLiteral (enclose '\'' part) part :=
      .quoted (.inl rfl) (absent part List.mem_cons_self)
    cases rest with
    | nil =>
      have only := AreArguments.last isGap_nil literal isGap_nil
      simpa using only
    | cons next others =>
      have tail := ih (by simp) fun p mem => absent p (List.mem_cons_of_mem _ mem)
      have mark : '"' ∉ ['\''] := by decide
      have quote : IsLiteral ('"' :: (['\''] ++ ['"'])) ['\''] := .quoted (.inr rfl) mark
      have both := AreArguments.more isGap_nil literal isGap_nil
        (.more isGap_space quote isGap_nil tail.spaced)
      rw [List.intersperse_cons_cons, List.map_cons, List.map_cons, List.intercalate_cons_cons,
        ← List.map_cons]
      simpa [separator] using both

theorem isPrimary_quoteChars (cs : List Char) : IsPrimary (quoteChars cs) cs := by
  unfold quoteChars
  split
  · rename_i absent
    exact .literal (.quoted (.inl rfl) absent)
  split
  · rename_i absent
    exact .literal (.quoted (.inr rfl) absent)
  rename_i single _
  have present : '\'' ∈ cs := Decidable.not_not.mp single
  have given := areArguments_parts (Cut.cut_ne_nil '\'' cs) fun part => Cut.notMem_of_mem_cut
  have several : 2 ≤ ((Cut.cut '\'' cs).intersperse ['\'']).length := by
    have parts := two_le_length_cut present
    rw [List.length_intersperse]
    omega
  have whole : ((Cut.cut '\'' cs).intersperse ['\'']).flatten = cs := Cut.intercalate_cut '\'' cs
  have call := IsPrimary.concat isGap_nil given several
  rw [whole] at call
  simpa [concatOpen] using call

end Quoted

/-- What a value stands for inside a query: its text, and nothing for null. -/
def spelled (v : Value) : Outcome String :=
  match v with
  | .null => .ok ""
  | v => v.display

theorem quoteValue_eq (v : Value) : quoteValue v = (spelled v).map quote := by
  cases v <;> rfl

/-- A value without a text is not quoted.  Any other is quoted as a string expression for its text,
and from the front of the expression and whatever follows it a reader takes exactly that
expression. -/
theorem quoted_reads_back (v : Value) :
    match spelled v with
    | .error fault => quoteValue v = .error fault
    | .ok text => ∃ quoted, quoteValue v = .ok quoted ∧ IsPrimary quoted.toList text.toList ∧
        ∀ rest, readPrimary? (quoted.toList ++ rest) = some (text.toList, rest) ∧
          ∀ expression value rest', quoted.toList ++ rest = expression ++ rest' →
            IsPrimary expression value →
              expression = quoted.toList ∧ value = text.toList ∧ rest' = rest := by
  rw [quoteValue_eq]
  cases spelled v with
  | error fault => rfl
  | ok text =>
    have primary : IsPrimary (quote text).toList text.toList := by
      rw [quote, String.toList_ofList]
      exact isPrimary_quoteChars text.toList
    refine ⟨quote text, rfl, primary, fun rest => ⟨primary.read rest, ?_⟩⟩
    intro expression value rest' same other
    exact other.unique primary same.symm

end ElementSearch.XPath
