import ElementSearch.Proofs.XPath.Token

/-! Location paths of names.
A step that names an element and says nothing else is a name without a colon, and steps stand behind
one slash or two.  Such a path is read as its names and its slashes.  A text with a character that
no name may have is not read at all, unless the character stands in a literal. -/

namespace ElementSearch.XPath

open Reading

def IsName (cs : List Char) : Prop :=
  ∃ c rest, cs = c :: rest ∧ isNameStart c = true ∧ ∀ d ∈ rest, isNameChar d = true

def IsSlash (cs : List Char) : Prop := cs = ['/'] ∨ cs = ['/', '/']

/-- Names with one slash or two between neighbours, and the tokens that they are. -/
inductive NamePath : List Char → List Token → Prop
  | last {w : List Char} (name : IsName w) : NamePath w [.name w]
  | more {w s cs : List Char} {ts : List Token} (name : IsName w) (slash : IsSlash s)
      (steps : NamePath cs ts) : NamePath (w ++ s ++ cs) (.name w :: .sign s :: ts)

theorem isNameChar_of_start {c : Char} (start : isNameStart c = true) : isNameChar c = true := by
  rw [isNameChar, start, Bool.true_or]

theorem IsName.chars {w : List Char} (name : IsName w) : ∀ c ∈ w, isNameChar c = true := by
  obtain ⟨c, rest, rfl, start, further⟩ := name
  exact List.forall_mem_cons.mpr ⟨isNameChar_of_start start, further⟩

theorem IsSlash.chars {s : List Char} (slash : IsSlash s) : ∀ c ∈ s, c = '/' := by
  rcases slash with rfl | rfl <;> simp

theorem NamePath.chars {cs : List Char} {ts : List Token} (path : NamePath cs ts) :
    ∀ c ∈ cs, c = '/' ∨ isNameChar c = true := by
  induction path with
  | last name => exact fun c mem => .inr (name.chars c mem)
  | more name slash _ ih =>
    refine List.forall_mem_append.mpr ⟨List.forall_mem_append.mpr ⟨?_, ?_⟩, ih⟩
    · exact fun c mem => .inr (name.chars c mem)
    · exact fun c mem => .inl (slash.chars c mem)

theorem NamePath.opens {cs : List Char} {ts : List Token} (path : NamePath cs ts) :
    ∃ c rest, cs = c :: rest ∧ isNameStart c = true := by
  cases path with
  | last name =>
    obtain ⟨c, rest, rfl, start, _⟩ := name
    exact ⟨c, rest, rfl, start⟩
  | more name _ _ =>
    obtain ⟨c, rest, rfl, start, _⟩ := name
    exact ⟨c, _, rfl, start⟩

section Read

variable {c : Char} {w s cs : List Char} {ts : List Token}

theorem start?_nameStart (start : isNameStart c = true) :
    start? c = some ([], inName false [c]) := by
  have blank : isSpace c = false := by
    cases space : isSpace c with
    | false => rfl
    | true =>
      have known : c = ' ' ∨ c = '\t' ∨ c = '\r' ∨ c = '\n' := by simpa [isSpace] using space
      rcases known with rfl | rfl | rfl | rfl <;> exact absurd start (by decide)
  have single : c ≠ '\'' := fun same => absurd (same ▸ start) (by decide)
  have double : c ≠ '"' := fun same => absurd (same ▸ start) (by decide)
  simp [start?, blank, single, double, start]

theorem scan?_cons {r next : Reading} {tokens : List Token}
    (stepped : r.step? c = some (tokens, next)) (cs : List Char) :
    r.scan? (c :: cs) = (next.scan? cs).map fun read => (tokens ++ read.1, read.2) := by
  rw [scan?, stepped]
  cases read : next.scan? cs <;> simp [read]

theorem scan?_inName (all : ∀ d ∈ cs, isNameChar d = true) (seen : List Char) :
    (inName false seen).scan? cs = some ([], inName false (seen ++ cs)) := by
  induction cs generalizing seen with
  | nil => simp [scan?]
  | cons d rest ih =>
    obtain ⟨first, further⟩ := List.forall_mem_cons.mp all
    have stepped : (inName false seen).step? d = some ([], inName false (seen ++ [d])) := by
      simp [step?, extend?, first]
    rw [scan?_cons stepped, ih further]
    simp

theorem step?_nameStart (start : isNameStart c = true) :
    between.step? c = some ([], inName false [c]) := by
  simp [step?, extend?, ended?, start?_nameStart start]

theorem IsName.scan? (name : IsName w) : between.scan? w = some ([], inName false w) := by
  obtain ⟨c, rest, rfl, start, further⟩ := name
  rw [scan?_cons (step?_nameStart start), scan?_inName further]
  rfl

theorem scan?_slash (slash : IsSlash s) (start : isNameStart c = true) :
    (inName false w).scan? (s ++ c :: cs) =
      (between.scan? (c :: cs)).map fun read => (.name w :: .sign s :: read.1, read.2) := by
  have ended : (inName false w).step? '/' = some ([.name w], afterSign '/') := by
    have notIn : isNameChar '/' = false := by decide
    have opened : start? '/' = some ([], afterSign '/') := by decide
    simp [step?, extend?, ended?, notIn, opened]
  rcases slash with rfl | rfl
  · have alone : isPair '/' c = false := by
      have other : c ≠ '/' := fun same => absurd (same ▸ start) (by decide)
      simp [isPair, other]
    have passed : (afterSign '/').step? c = some ([.sign ['/']], inName false [c]) := by
      simp [step?, extend?, ended?, alone, start?_nameStart start]
    rw [List.singleton_append, scan?_cons ended, scan?_cons passed,
      scan?_cons (step?_nameStart start), Option.map_map, Option.map_map]
    rfl
  · have doubled : (afterSign '/').step? '/' = some ([.sign ['/', '/']], between) := by decide
    rw [List.cons_append, List.singleton_append, scan?_cons ended, scan?_cons doubled,
      Option.map_map]
    rfl

theorem NamePath.scan? (path : NamePath cs ts) :
    ∃ front w, between.scan? cs = some (front, inName false w) ∧ ts = front ++ [.name w] := by
  induction path with
  | last name => exact ⟨[], _, name.scan?, rfl⟩
  | @more w s cs ts name slash steps ih =>
    obtain ⟨front, last, read, rfl⟩ := ih
    obtain ⟨c, rest, rfl, start⟩ := steps.opens
    have behind : (inName false w).scan? (s ++ c :: rest) =
        some (.name w :: .sign s :: front, inName false last) := by
      rw [scan?_slash slash start, read]
      rfl
    refine ⟨.name w :: .sign s :: front, last, ?_, rfl⟩
    rw [List.append_assoc]
    exact scan?_append_of_eq name.scan? behind

theorem scan?_below : between.scan? ['.', '/', '/'] =
    some ([.sign ['.'], .sign ['/', '/']], between) := by decide

theorem NamePath.tokens? {path : String} (named : NamePath path.toList ts) :
    tokens? (".//" ++ path) = some (.sign ['.'] :: .sign ['/', '/'] :: ts) := by
  obtain ⟨front, w, read, rfl⟩ := named.scan?
  have whole : (".//" ++ path).toList = ['.', '/', '/'] ++ path.toList := String.toList_append
  rw [XPath.tokens?, whole, scan?_append_of_eq scan?_below read]
  rfl

end Read

section Foreign

/-- Characters that only a literal may have. -/
def IsForeign (c : Char) : Prop := 128 ≤ c.toNat ∧ isNameChar c = false

def Reading.InLiteral : Reading → Prop
  | inLiteral .. => True
  | _ => False

variable {c d : Char} {cs : List Char} {r next : Reading} {ts : List Token}

theorem IsForeign.ne (foreign : IsForeign c) (ascii : d.toNat < 128) : c ≠ d := by
  rintro rfl
  have high := foreign.1
  omega

theorem IsForeign.step? (foreign : IsForeign c) (outside : ¬r.InLiteral) : r.step? c = none := by
  have ne {d : Char} (ascii : d.toNat < 128) : c ≠ d := foreign.ne ascii
  have name : isNameChar c = false := foreign.2
  have start : isNameStart c = false := by
    rw [isNameChar, Bool.or_eq_false_iff] at name
    exact name.1
  have digit : isDigit c = false := by
    have high := foreign.1
    simp only [isDigit, Bool.and_eq_false_iff, decide_eq_false_iff_not, Char.le_def]
    right
    intro below
    have small : c.toNat ≤ 57 := UInt32.le_iff_toNat_le.mp below
    omega
  have unopened : start? c = none := by
    simp [start?, isSpace, isLoneSign, opensSign, start, digit, ne]
  have unextended : r.extend? c = none := by
    cases r with
    | inLiteral => exact absurd trivial outside
    | afterSign d => simp [extend?, isPair, digit, ne]
    | _ => simp [extend?, start, digit, name, ne]
  rw [Reading.step?, unextended]
  cases r.ended? <;> simp [unopened]

-- Only a quote begins a literal; the goals left are readings of other tokens.
theorem not_inLiteral_start? (single : c ≠ '\'') (double : c ≠ '"')
    (read : start? c = some (ts, next)) : ¬next.InLiteral := by
  simp only [start?, single, double, decide_false, Bool.or_self, Bool.false_eq_true, if_false]
    at read
  repeat' split at read
  all_goals
    cases read
    try exact not_false

theorem not_inLiteral_extend? (outside : ¬r.InLiteral) (read : r.extend? c = some (ts, next)) :
    ¬next.InLiteral := by
  cases r with
  | inLiteral => exact absurd trivial outside
  | between | inNumber | inName | afterColon | afterDollar | afterSign =>
    simp only [extend?] at read
    repeat' split at read
    all_goals
      cases read
      try exact not_false

theorem not_inLiteral_step? (single : c ≠ '\'') (double : c ≠ '"') (outside : ¬r.InLiteral)
    (read : r.step? c = some (ts, next)) : ¬next.InLiteral := by
  unfold Reading.step? at read
  split at read
  · rename_i extended
    cases read
    exact not_inLiteral_extend? outside extended
  · simp only [bind, Option.bind_eq_some_iff, pure, Option.some.injEq] at read
    obtain ⟨before, _, ⟨tokens, next'⟩, started, same⟩ := read
    cases same
    exact not_inLiteral_start? single double started

theorem IsForeign.scan? (foreign : IsForeign c) (mem : c ∈ cs)
    (unquoted : ∀ d ∈ cs, d ≠ '\'' ∧ d ≠ '"') (outside : ¬r.InLiteral) : r.scan? cs = none := by
  induction cs generalizing r with
  | nil => cases mem
  | cons d rest ih =>
    obtain ⟨⟨single, double⟩, others⟩ := List.forall_mem_cons.mp unquoted
    cases stepped : r.step? d with
    | none =>
      rw [Reading.scan?, stepped]
      rfl
    | some read =>
      obtain ⟨tokens, next⟩ := read
      rw [scan?_cons stepped]
      rcases List.mem_cons.mp mem with rfl | behind
      · rw [foreign.step? outside] at stepped
        cases stepped
      · rw [ih behind others (not_inLiteral_step? single double outside stepped)]
        rfl

theorem IsForeign.tokens? {query : String} (foreign : IsForeign c) (mem : c ∈ query.toList)
    (unquoted : ∀ d ∈ query.toList, d ≠ '\'' ∧ d ≠ '"') : tokens? query = none := by
  have outside : ¬between.InLiteral := not_false
  rw [XPath.tokens?, foreign.scan? mem unquoted outside]
  rfl

end Foreign

end ElementSearch.XPath
