import ElementSearch.Proofs.XPath.Token

/-! Quoted texts as tokens.
A quoted text is one literal, or `concat` of at least two; read from between two tokens it ends
between two tokens again, whatever its characters are, and its value is the text. -/

namespace ElementSearch.XPath

open Reading

def arguments? : List Token → Option (List (List Char))
  | [.literal s, .sign [')']] => some [s]
  | .literal s :: .sign [','] :: rest => (arguments? rest).map (s :: ·)
  | _ => none

/-- What a string expression stands for; `concat` takes two arguments or more. -/
def stringValue? : List Token → Option (List Char)
  | [.literal s] => some s
  | .name ['c', 'o', 'n', 'c', 'a', 't'] :: .sign ['('] :: rest => do
    let parts ← arguments? rest
    if 2 ≤ parts.length then some parts.flatten else none
  | _ => none

def partTokens : List (List Char) → List Token
  | [] => []
  | [part] => [.literal part]
  | part :: rest =>
    .literal part :: .sign [','] :: .literal ['\''] :: .sign [','] :: partTokens rest

theorem scan?_enclose {quote : Char} (mark : quote = '\'' ∨ quote = '"') {cs : List Char}
    (absent : quote ∉ cs) : between.scan? (enclose quote cs) = some ([.literal cs], between) := by
  have opened : between.step? quote = some ([], inLiteral quote []) := by
    rcases mark with rfl | rfl <;> decide
  rw [enclose, scan?, opened]
  simp [scan?_inLiteral absent]

theorem scan?_separator :
    between.scan? separator = some ([.sign [','], .literal ['\''], .sign [',']], between) := by
  decide

theorem scan?_parts {parts : List (List Char)} (some_ : parts ≠ [])
    (absent : ∀ part ∈ parts, '\'' ∉ part) :
    between.scan? (separator.intercalate (parts.map (enclose '\''))) =
      some (partTokens parts, between) := by
  induction parts with
  | nil => exact absurd rfl some_
  | cons part rest ih =>
    have head := scan?_enclose (.inl rfl) (absent part List.mem_cons_self)
    cases rest with
    | nil => simpa [partTokens] using head
    | cons next others =>
      have tail := ih (by simp) fun p mem => absent p (List.mem_cons_of_mem _ mem)
      rw [List.map_cons, List.map_cons, List.intercalate_cons_cons, ← List.map_cons,
        List.append_assoc]
      exact scan?_append_of_eq head (scan?_append_of_eq scan?_separator tail)

theorem arguments?_parts {parts : List (List Char)} (some_ : parts ≠ []) :
    arguments? (partTokens parts ++ [.sign [')']]) = some (parts.intersperse ['\'']) := by
  induction parts with
  | nil => exact absurd rfl some_
  | cons part rest ih =>
    cases rest with
    | nil => rfl
    | cons next others =>
      have tail := ih (by simp)
      rw [partTokens, List.intersperse_cons_cons]
      simp only [List.cons_append, arguments?, tail, Option.map_some]
      simp

theorem two_le_length_cut {c : Char} {cs : List Char} (present : c ∈ cs) :
    2 ≤ (Cut.cut c cs).length := by
  have whole := Cut.intercalate_cut c cs
  cases parts : Cut.cut c cs with
  | nil => exact absurd parts (Cut.cut_ne_nil c cs)
  | cons part rest =>
    cases rest with
    | nil =>
      rw [parts, List.intercalate_singleton] at whole
      have absent : c ∉ part := Cut.notMem_of_mem_cut (parts ▸ List.mem_cons_self)
      exact absurd (whole ▸ present) absent
    | cons next others => simp

theorem scan?_concatOpen :
    between.scan? concatOpen =
      some ([.name ['c', 'o', 'n', 'c', 'a', 't'], .sign ['(']], between) := by
  decide

theorem scan?_quoteChars (cs : List Char) :
    ∃ expression, between.scan? (quoteChars cs) = some (expression, between) ∧
      stringValue? expression = some cs := by
  unfold quoteChars
  split
  · rename_i absent
    exact ⟨_, scan?_enclose (.inl rfl) absent, rfl⟩
  split
  · rename_i absent
    exact ⟨_, scan?_enclose (.inr rfl) absent, rfl⟩
  rename_i single _
  have present : '\'' ∈ cs := Decidable.not_not.mp single
  have some_ := Cut.cut_ne_nil '\'' cs
  have inner := scan?_parts some_ fun part mem => Cut.notMem_of_mem_cut mem
  have closed : between.scan? [')'] = some ([.sign [')']], between) := by decide
  refine ⟨_, scan?_append_of_eq (scan?_append_of_eq scan?_concatOpen inner) closed, ?_⟩
  have several := two_le_length_cut present
  have whole : ((Cut.cut '\'' cs).intersperse ['\'']).flatten = cs := Cut.intercalate_cut '\'' cs
  simp only [stringValue?, arguments?_parts some_, List.cons_append, List.nil_append, bind,
    Option.bind_some, whole, List.length_intersperse]
  rw [if_pos (by omega)]

end ElementSearch.XPath
