import ElementSearch.Proofs.Css.Reading

/-! Escaped strings as a selector is read.
An escaped string is taken as a whole unless a line ends in it: line ends are not escaped, and there
the string breaks off.  What is read is the text itself unless it has a backslash before a digit.
That backslash is escaped, but numbered escapes are looked for before the escaping backslash is
dropped, so the two are taken apart: the digits become a character, and the first backslash goes
with it. -/

namespace ElementSearch.Css

/-- Some backslash stands before a hexadecimal digit. -/
def HasPoint (cs : List Char) : Prop := SlashBefore (fun c => Hexadecimal.isDigit c = true) cs

def heard (cs : List Char) : List Char := dropBackslashes (replacePoints 0 (stringChars cs))

theorem stringChars_append (xs ys : List Char) :
    stringChars (xs ++ ys) = stringChars xs ++ stringChars ys := List.flatMap_append

theorem stringChars_of_isBare {cs : List Char} (bare : IsBare cs) : stringChars cs = cs := by
  induction cs with
  | nil => rfl
  | cons c rest ih =>
    have quote : c ≠ '"' := fun same => bare.1 (same ▸ List.mem_cons_self)
    have slash : c ≠ '\\' := fun same => bare.2 (same ▸ List.mem_cons_self)
    rw [stringChars_cons, ih ((isBare_cons quote slash).mp bare)]
    simp [stringChar, quote, slash]

theorem stringChar_of_lineEnd {c : Char} (lineEnd : isLineEnd c = true) : stringChar c = [c] := by
  rcases stringChar_cases c with ⟨_, rfl | rfl⟩ | ⟨bare, _⟩
  · exact absurd lineEnd (by decide)
  · exact absurd lineEnd (by decide)
  · exact bare

section Special

variable {c : Char} (special : c = '\\' ∨ c = '"') (rest : List Char)

include special

theorem hexSize_special : hexSize (c :: rest) = 0 := by
  rcases special with rfl | rfl <;> rfl

theorem escapeSize_special : escapeSize (c :: rest) = 1 := by
  rcases special with rfl | rfl <;> rfl

theorem newlineSize_special : newlineSize (c :: rest) = 0 := by
  rcases special with rfl | rfl <;> rfl

theorem stringSize_special (quote : Char) :
    stringSize quote 0 ('\\' :: c :: rest) = 2 + stringSize quote 0 rest := by
  rw [stringSize]
  simp only [escapeSize_special special, newlineSize_special special, stringSize, if_true,
    Nat.zero_max]
  omega

end Special

theorem stringSize_stringChars {cs : List Char} (inLine : ∀ c ∈ cs, isLineEnd c = false)
    (rest : List Char) :
    stringSize '"' 0 (stringChars cs ++ rest) =
      (stringChars cs).length + stringSize '"' 0 rest := by
  induction cs with
  | nil => simp [stringChars]
  | cons c others ih =>
    obtain ⟨first, further⟩ := List.forall_mem_cons.mp inLine
    rw [stringChars_cons, List.append_assoc, List.length_append]
    rcases stringChar_cases c with ⟨escaped, special⟩ | ⟨bare, slash, quote⟩
    · rw [escaped]
      change stringSize '"' 0 ('\\' :: c :: (stringChars others ++ rest)) = _
      rw [stringSize_special special, ih further]
      simp only [List.length_cons, List.length_nil]
      omega
    · have inside : (decide (c = '"') || ['\n', '\r', '\x0c'].contains c) = false := by
        rw [decide_eq_false quote]
        exact first
      rw [bare, List.singleton_append, stringSize, if_neg slash, if_neg (by rw [inside]; decide),
        ih further, List.length_singleton]
      omega

theorem newlineSize_of_inLine {cs : List Char} (inLine : ∀ c ∈ cs, isLineEnd c = false) :
    newlineSize cs = 0 := by
  unfold newlineSize
  split
  · exact absurd (inLine '\r' List.mem_cons_self) (by decide)
  · rename_i c rest _
    have first : ['\n', '\r', '\x0c'].contains c = false := inLine c List.mem_cons_self
    rw [first]
    rfl
  · rfl

theorem joinLines_of_inLine {cs : List Char} (inLine : ∀ c ∈ cs, isLineEnd c = false) :
    joinLines 0 cs = cs := by
  induction cs with
  | nil => rfl
  | cons c rest ih =>
    obtain ⟨_, further⟩ := List.forall_mem_cons.mp inLine
    have size := newlineSize_of_inLine further
    rw [joinLines, if_neg (by simp [size]), ih further]

theorem inLine_stringChars {cs : List Char} (inLine : ∀ c ∈ cs, isLineEnd c = false) :
    ∀ c ∈ stringChars cs, isLineEnd c = false := by
  intro c mem
  obtain ⟨d, within, written⟩ := List.mem_flatMap.mp mem
  rcases stringChar_cases d with ⟨escaped, _⟩ | ⟨bare, _⟩
  · rw [escaped] at written
    rcases List.mem_cons.mp written with rfl | written
    · decide
    · exact List.mem_singleton.mp written ▸ inLine d within
  · rw [bare] at written
    exact List.mem_singleton.mp written ▸ inLine d within

theorem stringValue_stringChars {cs : List Char} (inLine : ∀ c ∈ cs, isLineEnd c = false) :
    stringValue (stringChars cs) = String.ofList (heard cs) := by
  rw [stringValue, joinLines_of_inLine (inLine_stringChars inLine), heard]

section Read

variable {cs : List Char} (inLine : ∀ c ∈ cs, isLineEnd c = false) (rest : List Char) (pos : Nat)

include inLine

theorem readString_closed :
    readString '"' (stringChars cs ++ '"' :: rest) pos =
      .token .string (String.ofList (heard cs)) pos ((stringChars cs).length + 1) := by
  have size : stringSize '"' 0 (stringChars cs ++ '"' :: rest) = (stringChars cs).length := by
    rw [stringSize_stringChars inLine]
    rfl
  simp only [readString, size, List.drop_left, List.take_left, if_true,
    stringValue_stringChars inLine]

theorem readString_broken {c : Char} (lineEnd : isLineEnd c = true) :
    readString '"' (stringChars cs ++ c :: rest) pos =
      ⟨some (.defect ("Invalid string at " ++ toString pos)), 0⟩ := by
  have slash : c ≠ '\\' := by
    rintro rfl
    exact absurd lineEnd (by decide)
  have quote : c ≠ '"' := by
    rintro rfl
    exact absurd lineEnd (by decide)
  have ended : ['\n', '\r', '\x0c'].contains c = true := lineEnd
  have size : stringSize '"' 0 (stringChars cs ++ c :: rest) = (stringChars cs).length := by
    rw [stringSize_stringChars inLine, stringSize, if_neg slash, if_pos (by rw [ended]; simp)]
    rfl
  simp only [readString, size, List.drop_left, if_neg quote]

end Read

section Points

variable {cs : List Char}

theorem isBare_append {xs ys : List Char} : IsBare (xs ++ ys) ↔ IsBare xs ∧ IsBare ys := by
  unfold IsBare
  grind

theorem isBare_of_hex {cs : List Char} (hex : ∀ d ∈ cs, Hexadecimal.isDigit d = true) :
    IsBare cs :=
  ⟨fun mem => absurd (hex _ mem) (by decide), fun mem => absurd (hex _ mem) (by decide)⟩

theorem takeWhile_stringChars (cs : List Char) :
    (stringChars cs).takeWhile Hexadecimal.isDigit = cs.takeWhile Hexadecimal.isDigit := by
  induction cs with
  | nil => rfl
  | cons c rest ih =>
    rw [stringChars_cons]
    rcases stringChar_cases c with ⟨escaped, special⟩ | ⟨bare, _⟩
    · rw [escaped]
      rcases special with rfl | rfl <;> rfl
    · rw [bare, List.singleton_append, List.takeWhile_cons, List.takeWhile_cons, ih]

theorem hexSize_stringChars (cs : List Char) : hexSize (stringChars cs) = hexSize cs := by
  rw [hexSize, hexSize, takeWhile_stringChars]

theorem hex_of_mem_take {d : Char} (mem : d ∈ cs.take (hexSize cs)) :
    Hexadecimal.isDigit d = true := by
  have front : cs.takeWhile Hexadecimal.isDigit =
      cs.take (cs.takeWhile Hexadecimal.isDigit).length :=
    List.prefix_iff_eq_take.mp (List.takeWhile_prefix _)
  rw [hexSize, ← List.take_take, ← front] at mem
  exact List.mem_takeWhile_imp (List.mem_of_mem_take mem)

theorem endSize_cons {c : Char} (inLine : isLineEnd c = false) (rest : List Char) :
    endSize (c :: rest) = if isBlank c then 1 else 0 := by
  unfold endSize
  split
  · rename_i same
    obtain ⟨rfl, _⟩ := List.cons.inj same
    exact absurd inLine (by decide)
  · rename_i same
    obtain ⟨rfl, rfl⟩ := List.cons.inj same
    rfl
  · rename_i nothing
    cases nothing

theorem exists_gap (inLine : ∀ c ∈ cs, isLineEnd c = false) :
    ∃ gap behind, cs = gap ++ behind ∧ IsBare gap ∧ endSize (stringChars cs) = gap.length := by
  cases cs with
  | nil => exact ⟨[], [], rfl, isBare_nil, rfl⟩
  | cons c rest =>
    have first := (List.forall_mem_cons.mp inLine).1
    rw [stringChars_cons]
    rcases stringChar_cases c with ⟨escaped, _⟩ | ⟨bare, slash, quote⟩
    · rw [escaped]
      exact ⟨[], c :: rest, rfl, isBare_nil, rfl⟩
    · rw [bare, List.singleton_append, endSize_cons first]
      split
      · exact ⟨[c], rest, rfl, (isBare_cons quote slash).mpr isBare_nil, rfl⟩
      · exact ⟨[], c :: rest, rfl, isBare_nil, rfl⟩

theorem exists_point (inLine : ∀ c ∈ cs, isLineEnd c = false) (some_ : hexSize cs ≠ 0) :
    ∃ point behind, cs = point ++ behind ∧ IsBare point ∧ point ≠ [] ∧
      pointSize (stringChars cs) = point.length := by
  have whole : cs.take (hexSize cs) ++ cs.drop (hexSize cs) = cs := List.take_append_drop _ _
  have hex : IsBare (cs.take (hexSize cs)) := isBare_of_hex fun _ => hex_of_mem_take
  have length : (cs.take (hexSize cs)).length = hexSize cs := by
    have front := (List.takeWhile_prefix (p := Hexadecimal.isDigit) (l := cs)).length_le
    rw [List.length_take, hexSize]
    omega
  obtain ⟨gap, behind, after, bare, size⟩ :=
    exists_gap fun c mem => inLine c (List.mem_of_mem_drop (i := hexSize cs) mem)
  have spelled : (stringChars cs).drop (hexSize cs) = stringChars (cs.drop (hexSize cs)) := by
    rw [← whole, stringChars_append, stringChars_of_isBare hex, whole]
    exact List.drop_left' length
  refine ⟨cs.take (hexSize cs) ++ gap, behind, ?_, isBare_append.mpr ⟨hex, bare⟩, ?_, ?_⟩
  · rw [List.append_assoc, ← after, whole]
  · intro nothing
    have none_ := (List.append_eq_nil_iff.mp nothing).1
    rw [none_] at length
    exact some_ length.symm
  · rw [pointSize, hexSize_stringChars, spelled, size, List.length_append, length]
    exact if_neg some_

end Points

section Heard

variable {cs : List Char}

theorem dropBackslashes_cons {c : Char} (slash : c ≠ '\\') (cs : List Char) :
    dropBackslashes (c :: cs) = c :: dropBackslashes cs := by
  rw [dropBackslashes]
  exact fun _ _ same _ => slash same

theorem dropBackslashes_special {c : Char} (special : c = '\\' ∨ c = '"') (cs : List Char) :
    dropBackslashes ('\\' :: c :: cs) = c :: dropBackslashes cs := by
  rcases special with rfl | rfl <;> rfl

theorem replacePoints_keep {c : Char} {rest : List Char}
    (other : ¬(c = '\\' ∧ hexSize rest ≠ 0)) :
    replacePoints 0 (c :: rest) = c :: replacePoints 0 rest := by
  rw [replacePoints, if_neg (by simpa using other)]

theorem heard_cons {c : Char} (other : ¬(c = '\\' ∧ hexSize cs ≠ 0)) :
    heard (c :: cs) = c :: heard cs := by
  unfold heard
  rw [stringChars_cons]
  rcases stringChar_cases c with ⟨escaped, special⟩ | ⟨bare, slash, _⟩
  · have kept : ¬(c = '\\' ∧ hexSize (stringChars cs) ≠ 0) := by rwa [hexSize_stringChars]
    rw [escaped, List.cons_append, List.singleton_append,
      replacePoints_keep fun begun => begun.2 (hexSize_special special _),
      replacePoints_keep kept, dropBackslashes_special special]
  · rw [bare, List.singleton_append, replacePoints_keep fun begun => slash begun.1,
      dropBackslashes_cons slash]

theorem toNat_ofNat {n : Nat} (valid : n.isValidChar) : (Char.ofNat n).toNat = n := by
  unfold Char.ofNat
  rw [dif_pos valid]
  rfl

theorem pointChar_ne_null (n : Nat) : pointChar n ≠ '\x00' := by
  unfold pointChar
  split
  · decide
  · rename_i known
    simp only [Bool.or_eq_true, decide_eq_true_eq, Bool.and_eq_true, not_or] at known
    have valid : n.isValidChar := by
      unfold Nat.isValidChar
      omega
    intro null
    have number := toNat_ofNat valid
    rw [null] at number
    exact known.1.1 number.symm

theorem heard_point (inLine : ∀ c ∈ cs, isLineEnd c = false) (some_ : hexSize cs ≠ 0) :
    ∃ p point behind, cs = point ++ behind ∧ point ≠ [] ∧ p ≠ '\x00' ∧
      heard ('\\' :: cs) = (if p = '\n' then ['\\', '\n'] else [p]) ++ heard behind := by
  obtain ⟨point, behind, whole, bare, present, size⟩ := exists_point inLine some_
  have spelled : stringChars cs = point ++ stringChars behind := by
    rw [whole, stringChars_append, stringChars_of_isBare bare]
  have begun : hexSize (stringChars cs) ≠ 0 := by rwa [hexSize_stringChars]
  refine ⟨pointChar (Hexadecimal.number ((stringChars cs).take (hexSize (stringChars cs)))), point,
    behind, whole, present, pointChar_ne_null _, ?_⟩
  -- the escaping backslash begins nothing, the escaped one begins the numbered escape
  have escaped : stringChars ('\\' :: cs) = '\\' :: '\\' :: stringChars cs := rfl
  have replaced : replacePoints 0 ('\\' :: stringChars cs) =
      pointChar (Hexadecimal.number ((stringChars cs).take (hexSize (stringChars cs)))) ::
        replacePoints 0 (stringChars behind) := by
    rw [replacePoints, if_pos (by simp [begun]), size]
    rw [spelled, replacePoints_known]
  have kept := hexSize_special (.inl rfl) (stringChars cs)
  rw [heard, escaped, replacePoints_keep fun begun => begun.2 kept, replaced, dropBackslashes]
  split
  · rename_i feed
    rw [feed]
    rfl
  · rfl

theorem length_heard_le (inLine : ∀ c ∈ cs, isLineEnd c = false) :
    (heard cs).length ≤ cs.length := by
  -- by length, for a numbered escape takes its digits with it and leaves no tail of the list
  induction size : cs.length using Nat.strongRecOn generalizing cs with
  | ind n ih =>
    cases cs with
    | nil => simp [heard, stringChars, replacePoints, dropBackslashes]
    | cons c rest =>
      have further := (List.forall_mem_cons.mp inLine).2
      rw [List.length_cons] at size
      by_cases point : c = '\\' ∧ hexSize rest ≠ 0
      · obtain ⟨rfl, some_⟩ := point
        obtain ⟨p, digits, behind, rfl, present, _, read⟩ := heard_point further some_
        have positive := List.length_pos_iff.mpr present
        rw [List.length_append] at size
        have shorter := ih behind.length (by omega)
          (fun c mem => further c (List.mem_append_right _ mem)) rfl
        rw [read, List.length_append]
        split <;> simp <;> omega
      · have shorter := ih rest.length (by omega) further rfl
        rw [heard_cons point, List.length_cons]
        omega

theorem mem_of_mem_replacePoints {c : Char} {k : Nat} (mem : c ∈ replacePoints k cs) :
    c ∈ cs ∨ ∃ n, c = pointChar n := by
  induction cs generalizing k with
  | nil => cases mem
  | cons d rest ih =>
    cases k with
    | succ k => exact (ih mem).imp_left (List.mem_cons_of_mem d)
    | zero =>
      rw [replacePoints] at mem
      split at mem
      · rcases List.mem_cons.mp mem with rfl | mem
        · exact .inr ⟨_, rfl⟩
        · exact (ih mem).imp_left (List.mem_cons_of_mem d)
      · rcases List.mem_cons.mp mem with rfl | mem
        · exact .inl List.mem_cons_self
        · exact (ih mem).imp_left (List.mem_cons_of_mem d)

theorem null_mem_of_heard (mem : '\x00' ∈ heard cs) : '\x00' ∈ cs := by
  rcases mem_of_mem_replacePoints ((dropBackslashes_sublist _).mem mem) with mem | ⟨n, point⟩
  · obtain ⟨d, within, written⟩ := List.mem_flatMap.mp mem
    rcases stringChar_cases d with ⟨escaped, _⟩ | ⟨bare, _⟩
    · rw [escaped] at written
      rcases List.mem_cons.mp written with slash | written
      · exact absurd slash (by decide)
      · exact List.mem_singleton.mp written ▸ within
    · rw [bare] at written
      exact List.mem_singleton.mp written ▸ within
  · exact absurd point.symm (pointChar_ne_null n)

theorem hexSize_ne_zero_iff :
    hexSize cs ≠ 0 ↔ ∃ d rest, cs = d :: rest ∧ Hexadecimal.isDigit d = true := by
  cases cs with
  | nil => simp [hexSize]
  | cons d rest => by_cases digit : Hexadecimal.isDigit d = true <;> simp [hexSize, digit]

theorem hasPoint_cons {c : Char} :
    HasPoint (c :: cs) ↔ (c = '\\' ∧ hexSize cs ≠ 0) ∨ HasPoint cs := by
  rw [HasPoint, slashBefore_cons, ← hexSize_ne_zero_iff]
  rfl

theorem heard_ne_of_point (inLine : ∀ c ∈ cs, isLineEnd c = false) (some_ : hexSize cs ≠ 0) :
    heard ('\\' :: cs) ≠ '\\' :: cs := by
  -- A numbered escape leaves its backslash to a line feed only, and none follows this one.
  obtain ⟨p, point, behind, rfl, present, _, read⟩ := heard_point inLine some_
  have shorter := length_heard_le fun c mem => inLine c (List.mem_append_right point mem)
  intro same
  rw [read] at same
  split at same
  · have next : '\n' :: heard behind = point ++ behind := (List.cons.inj same).2
    have broken : isLineEnd '\n' = false := inLine '\n' (next ▸ List.mem_cons_self)
    exact absurd broken (by decide)
  · have lengths := congrArg List.length same
    have positive := List.length_pos_iff.mpr present
    simp only [List.length_append, List.length_cons, List.length_nil] at lengths
    omega

theorem heard_eq_self_iff (inLine : ∀ c ∈ cs, isLineEnd c = false) :
    heard cs = cs ↔ ¬HasPoint cs := by
  induction cs with
  | nil => simp [heard, stringChars, replacePoints, dropBackslashes, HasPoint,
      not_slashBefore_nil]
  | cons c rest ih =>
    have further := (List.forall_mem_cons.mp inLine).2
    by_cases point : c = '\\' ∧ hexSize rest ≠ 0
    · obtain ⟨rfl, some_⟩ := point
      have present : HasPoint ('\\' :: rest) := hasPoint_cons.mpr (.inl ⟨rfl, some_⟩)
      exact iff_of_false (heard_ne_of_point further some_) (not_not_intro present)
    · rw [heard_cons point, List.cons_inj_right, ih further, hasPoint_cons, or_iff_right point]

end Heard

section Mended

variable (cs : List Char)

theorem isLineEnd_mend (c : Char) : isLineEnd (mend c) = isLineEnd c := by
  by_cases null : c = '\x00'
  · subst null
    rfl
  · rw [mend_of_ne null]

theorem inLine_map_mend :
    (∀ c ∈ cs.map mend, isLineEnd c = false) ↔ ∀ c ∈ cs, isLineEnd c = false := by
  simp [isLineEnd_mend]

theorem stringChar_mend (c : Char) : (stringChar c).map mend = stringChar (mend c) := by
  by_cases null : c = '\x00'
  · subst null
    rfl
  · rw [mend_of_ne null]
    refine map_mend_of_notMem fun mem => ?_
    rcases stringChar_cases c with ⟨escaped, _⟩ | ⟨bare, _⟩
    · rw [escaped] at mem
      rcases List.mem_cons.mp mem with slash | mem
      · exact absurd slash (by decide)
      · exact null (List.mem_singleton.mp mem).symm
    · rw [bare] at mem
      exact null (List.mem_singleton.mp mem).symm

theorem map_mend_stringChars : (stringChars cs).map mend = stringChars (cs.map mend) := by
  induction cs with
  | nil => rfl
  | cons c rest ih =>
    rw [stringChars_cons, List.map_append, stringChar_mend, ih, List.map_cons, stringChars_cons]

end Mended

end ElementSearch.Css
