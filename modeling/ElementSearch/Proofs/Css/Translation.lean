import ElementSearch.Css.Path
import ElementSearch.Proofs.Css.StringReading

/-! From an escaped value to a condition.
The selector of an id and that of a name are read token by token and translated into a query with
one condition, which compares an attribute with what was read for the value.  A string that breaks
off at a line end has no translation. -/

namespace ElementSearch.Css

section Lexing

variable {c : Char} {rest : List Char} {pos extra : Nat} {t : Token} {message v : String}

theorem lexFrom_token {taken behind : List Char}
    (begins : read c (taken ++ behind) pos = ⟨some (.token t), taken.length⟩) :
    lexFrom pos (c :: (taken ++ behind)) = .token t :: lexFrom (pos + 1 + taken.length) behind := by
  rw [lexFrom, begins]
  simp

theorem lexFrom_char {kind : TokenKind} {value : String}
    (begins : read c rest pos = .token kind value pos 0) :
    lexFrom pos (c :: rest) = .token ⟨kind, value, pos⟩ :: lexFrom (pos + 1) rest := by
  rw [lexFrom, begins]
  simp [Reading.token]

theorem lexFrom_defect (begins : read c rest pos = ⟨some (.defect message), extra⟩) :
    lexFrom pos (c :: rest) = [.defect message] := by
  rw [lexFrom, begins]

theorem read_hash (pos : Nat) (some_ : nameSize 0 rest ≠ 0) :
    read '#' rest pos =
      .token .hash (nameValue (rest.take (nameSize 0 rest))) pos (nameSize 0 rest) := by
  unfold read
  rw [if_neg (by decide), if_neg (by simp [identSize, startsName, isLetter]),
    if_pos (by simp [some_])]

theorem read_quote : read '"' rest pos = readString '"' rest pos := rfl

theorem lex_hash (some_ : v ≠ "") :
    ∃ finish, lex ("#" ++ identifier v) =
      [.token ⟨.hash, String.ofList (dropBackslashes (v.toList.map mend)), 0⟩,
        .token ⟨.finish, "", finish⟩] := by
  have written : identifierChars v.toList ≠ [] := fun nothing =>
    some_ (String.toList_eq_nil_iff.mp (identifierChars_injective nothing))
  have size := nameSize_identifierChars v.toList
  have spelled : ("#" ++ identifier v).toList.map mend =
      '#' :: (identifierChars v.toList ++ []) := by
    have kept := map_mend_of_notMem (null_notMem_identifierChars v.toList)
    simp only [identifier, String.toList_append, String.toList_ofList, List.map_append, kept,
      List.append_nil]
    rfl
  have begins := read_hash 0 (size.symm ▸ mt List.length_eq_zero_iff.mp written)
  rw [size, List.take_length, nameValue, replacePoints_identifierChars] at begins
  rw [lex_eq, spelled, lexFrom_token (by rw [List.append_nil]; exact begins), lexFrom_nil]
  exact ⟨_, rfl⟩

theorem lex_sign : lex "#" = [.token ⟨.delim, "#", 0⟩, .token ⟨.finish, "", 1⟩] := by
  have sign : read '#' [] 0 = .token .delim "#" 0 0 := rfl
  change lexFrom 0 ['#'] = _
  rw [lexFrom_char sign, lexFrom_nil]

def opening : List Lexeme :=
  [.token ⟨.delim, "[", 0⟩, .token ⟨.ident, "name", 1⟩, .token ⟨.delim, "=", 5⟩]

theorem lexFrom_opening (rest : List Char) :
    lexFrom 0 ("[name=".toList ++ rest) = opening ++ lexFrom 6 rest := by
  have bracket : read '[' ("name=".toList ++ rest) 0 = .token .delim "[" 0 0 := rfl
  have name : read 'n' ("ame".toList ++ '=' :: rest) 1 = .token .ident "name" 1 3 := rfl
  have equals : read '=' rest 5 = .token .delim "=" 5 0 := rfl
  have first := lexFrom_char bracket
  have second := lexFrom_token name
  have third := lexFrom_char equals
  calc lexFrom 0 ("[name=".toList ++ rest)
    _ = .token ⟨.delim, "[", 0⟩ :: lexFrom 1 ("name=".toList ++ rest) := first
    _ = .token ⟨.delim, "[", 0⟩ :: .token ⟨.ident, "name", 1⟩ :: lexFrom 5 ('=' :: rest) :=
        congrArg _ second
    _ = opening ++ lexFrom 6 rest := by
        rw [third]
        rfl

theorem toList_attributeEquals (v : String) :
    (attributeEquals "name" v).toList.map mend =
      "[name=".toList ++ '"' :: (stringChars (v.toList.map mend) ++ ['"', ']']) := by
  have close : ['"', ']'].map mend = ['"', ']'] := rfl
  have open_ : "[name=\"".toList.map mend = "[name=".toList ++ ['"'] := rfl
  have spelled : (attributeEquals "name" v).toList =
      "[name=\"".toList ++ (stringChars v.toList ++ ['"', ']']) := by
    simp [attributeEquals, string]
  rw [spelled, List.map_append, List.map_append, map_mend_stringChars, close, open_,
    List.append_assoc]
  rfl

theorem lex_name (inLine : ∀ c ∈ v.toList, isLineEnd c = false) :
    ∃ close finish, lex (attributeEquals "name" v) =
      opening ++ [.token ⟨.string, String.ofList (heard (v.toList.map mend)), 6⟩,
        .token ⟨.delim, "]", close⟩, .token ⟨.finish, "", finish⟩] := by
  have bracket (pos : Nat) : read ']' [] pos = .token .delim "]" pos 0 := rfl
  have taken : (stringChars (v.toList.map mend) ++ ['"']).length =
      (stringChars (v.toList.map mend)).length + 1 := by simp
  have begins := readString_closed ((inLine_map_mend v.toList).mpr inLine) [']'] 6
  rw [List.append_cons, ← taken, ← read_quote] at begins
  rw [lex_eq, toList_attributeEquals, lexFrom_opening, List.append_cons, lexFrom_token begins,
    lexFrom_char (bracket _), lexFrom_nil]
  exact ⟨_, _, rfl⟩

theorem lex_broken (broken : ∃ c ∈ v.toList, isLineEnd c = true) :
    lex (attributeEquals "name" v) = opening ++ [.defect "Invalid string at 6"] := by
  have mended : ∃ c ∈ v.toList.map mend, isLineEnd c = true := by
    obtain ⟨c, mem, lineEnd⟩ := broken
    exact ⟨mend c, List.mem_map_of_mem mem, (isLineEnd_mend c).trans lineEnd⟩
  -- the first line end is where the string breaks off
  obtain ⟨c, found⟩ := Option.isSome_iff_exists.mp (List.find?_isSome.mpr mended)
  obtain ⟨lineEnd, front, rest, whole, earlier⟩ := List.find?_eq_some_iff_append.mp found
  have inLine : ∀ d ∈ front, isLineEnd d = false := by simpa using earlier
  have begins := readString_broken inLine (stringChars rest ++ ['"', ']']) 6 lineEnd
  have spelled : stringChars (v.toList.map mend) ++ ['"', ']'] =
      stringChars front ++ c :: (stringChars rest ++ ['"', ']']) := by
    rw [whole, stringChars_append, stringChars_cons, stringChar_of_lineEnd lineEnd]
    simp
  rw [← read_quote] at begins
  rw [lex_eq, toList_attributeEquals, lexFrom_opening, spelled, lexFrom_defect begins]
  rfl

end Lexing

section Parsing

variable {text id value message : String} {close finish : Nat}

theorem parse_hash (read : lex text = [.token ⟨.hash, id, 0⟩, .token ⟨.finish, "", finish⟩]) :
    parse text = .ok [⟨.hash (.element none none) id, false⟩] := by
  rw [parse, read]
  rfl

theorem parse_sign : parse "#" = .error "Expected selector, got <DELIM '#' at 0>" := by
  rw [parse, lex_sign]
  rfl

theorem parse_name (read : lex text = opening ++ [.token ⟨.string, value, 6⟩,
    .token ⟨.delim, "]", close⟩, .token ⟨.finish, "", finish⟩]) :
    parse text = .ok [⟨.attrib (.element none none)
      ⟨none, some "name", some (.equals, value), false⟩, false⟩] := by
  rw [parse, read]
  rfl

theorem parse_broken (read : lex text = opening ++ [.defect message]) :
    parse text = .error message := by
  rw [parse, read]
  rfl

end Parsing

section Paths

variable {text condition v : String} {selector : Selector} {m : Meaning}

theorem toPath_of_parse (read : parse text = .ok [⟨selector, false⟩])
    (means : meaning .generic selector = .ok m) :
    toPath .generic text = .ok (".//" ++ m.step.text) := by
  rw [toPath, read]
  simp only [List.mapM_cons, List.mapM_nil, chosenPath, means]
  rfl

theorem text_require_any (some_ : condition ≠ "") :
    ((Step.ofElement "*").require condition).text = "*[" ++ condition ++ "]" := by
  have present : condition.isEmpty = false := by simpa using some_
  have written : ((Step.ofElement "*").require condition).text =
      "*" ++ ("[" ++ condition ++ "]") := by
    simp [Step.text, Step.require, Step.ofElement, present]
  rw [written, String.append_assoc, ← String.append_assoc]
  rfl

def equalsPath (node value : String) : String := ".//*[" ++ node ++ " = " ++ literal value ++ "]"

theorem text_equals (node value : String) :
    ".//" ++ (compareWith (.ofElement "*") .equals node value).text = equalsPath node value := by
  have some_ : node ++ " = " ++ literal value ≠ "" := by simp
  rw [compareWith, text_require_any some_]
  simp only [← String.append_assoc]
  rfl

theorem toPath_id (some_ : v ≠ "") :
    toPath .generic ("#" ++ identifier v) =
      .ok (equalsPath "@id" (String.ofList (dropBackslashes (v.toList.map mend)))) := by
  obtain ⟨_, read⟩ := lex_hash some_
  rw [toPath_of_parse (parse_hash read) rfl]
  exact congrArg Except.ok (text_equals "@id" _)

theorem toPath_sign :
    toPath .generic "#" = .error (.unsupported "Expected selector, got <DELIM '#' at 0>") := by
  rw [toPath, parse_sign]

theorem toPath_name (inLine : ∀ c ∈ v.toList, isLineEnd c = false) :
    toPath .generic (attributeEquals "name" v) =
      .ok (equalsPath "@name" (String.ofList (heard (v.toList.map mend)))) := by
  obtain ⟨_, _, read⟩ := lex_name inLine
  rw [toPath_of_parse (parse_name read) rfl]
  exact congrArg Except.ok (text_equals "@name" _)

theorem toPath_broken (broken : ∃ c ∈ v.toList, isLineEnd c = true) :
    toPath .generic (attributeEquals "name" v) =
      .error (.unsupported "Invalid string at 6") := by
  rw [toPath, parse_broken (lex_broken broken)]

end Paths

end ElementSearch.Css
