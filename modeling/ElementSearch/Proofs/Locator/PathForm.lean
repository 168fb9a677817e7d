import ElementSearch.Proofs.Css.Translation
import ElementSearch.Proofs.Locator.Escapes
import ElementSearch.Proofs.XPath.Runs

/-! XPath forms of ids and names.
The XPath form of an id or a name compares the attribute with a string expression.  It is reached by
way of the selector, and the reader of selectors does not always give back what was escaped: the
value survives unless it has a null character or a backslash that is taken for an escape, and a name
with a line end has no XPath form at all. -/

namespace ElementSearch.LocatorOf

open Css XPath

/-- The XPath form of the locator asks for elements whose attribute is exactly `value`. -/
def Compares (l : Locator) (node value : String) : Prop :=
  ∃ expression, l.toPath = .ok (.text (".//*[" ++ node ++ " = " ++ expression ++ "]")) ∧
    IsPrimary expression.toList value.toList

section Forms

variable {l : Locator} {node value value' : String}

theorem Compares.unique (compares : l.Compares node value) (compares' : l.Compares node value') :
    value = value' := by
  obtain ⟨expression, form, primary⟩ := compares
  obtain ⟨expression', form', primary'⟩ := compares'
  rw [form] at form'
  have same : expression = expression' := by simpa using form'
  subst same
  have alone : expression.toList ++ [] = expression.toList ++ [] := rfl
  exact String.toList_inj.mp (primary.unique primary' alone).2.1

theorem compares_of_toPath (form : l.toPath = .ok (.text (equalsPath node value))) :
    l.Compares node value := by
  refine ⟨_, form, ?_⟩
  rw [literal, quoteRuns, String.toList_ofList]
  exact isPrimary_quoteRunsChars value.toList

theorem Compares.iff {cs : List Char} {v : String} (compares : l.Compares node (String.ofList cs)) :
    l.Compares node v ↔ cs = v.toList := by
  constructor
  · intro given
    rw [given.unique compares, String.toList_ofList]
  · rintro rfl
    rwa [String.ofList_toList] at compares

theorem Compares.ne_error {fault : Fault} (compares : l.Compares node value) :
    l.toPath ≠ .error fault := by
  obtain ⟨_, form, _⟩ := compares
  rw [form]
  exact nofun

end Forms

section Keyed

variable {v value : String}

theorem classify_keyed_name (fallback : Kind) (strict : Bool) (v : String) :
    classify [] fallback strict (keyed "name" v) = .ok (ofKeyed .name v) := rfl

theorem toPath_keyed_id (v : String) :
    (ofKeyed .id v).toPath = (ofKeyed .id v).pathOfSelector (.text ("#" ++ identifier v)) := rfl

theorem toPath_keyed_name (v : String) :
    (ofKeyed .name v).toPath =
      (ofKeyed .name v).pathOfSelector (.text (attributeEquals "name" v)) := rfl

theorem path_of_id (some_ : v ≠ "") :
    (ofKeyed .id v).toPath =
      .ok (.text (equalsPath "@id" (String.ofList (dropBackslashes (v.toList.map mend))))) := by
  simp only [toPath_keyed_id, pathOfSelector, toPath_id some_]

theorem path_of_name (inLine : ∀ c ∈ v.toList, isLineEnd c = false) :
    (ofKeyed .name v).toPath =
      .ok (.text (equalsPath "@name" (String.ofList (heard (v.toList.map mend))))) := by
  simp only [toPath_keyed_name, pathOfSelector, toPath_name inLine]

def brokenName (v : String) : String :=
  "Can't convert " ++ Value.labelled "name" v ++ " to XPath" ++ ": Invalid string at 6"

theorem path_of_broken (broken : ∃ c ∈ v.toList, isLineEnd c = true) :
    (ofKeyed .name v).toPath = .error (.badValue (brokenName v)) := by
  have shown : (Value.locator (ofKeyed .name v)).display = .ok (Value.labelled "name" v) := rfl
  simp only [toPath_keyed_name, pathOfSelector, toPath_broken broken, noPath, shown]
  rfl

theorem path_of_empty : ∃ message, (ofKeyed .id "").toPath = .error (.badValue message) := by
  have alone : "#" ++ identifier "" = "#" := rfl
  simp only [toPath_keyed_id, pathOfSelector, alone, toPath_sign]
  exact ⟨_, rfl⟩

theorem inLine_of_compares_name (compares : (ofKeyed .name v).Compares "@name" value) :
    ∀ c ∈ v.toList, isLineEnd c = false := by
  intro c mem
  by_contra lineEnd
  exact compares.ne_error (path_of_broken ⟨c, mem, Bool.not_eq_false _ ▸ lineEnd⟩)

theorem name_refused_iff :
    (ofKeyed .name v).toPath = .error (.badValue (brokenName v)) ↔
      ∃ c ∈ v.toList, isLineEnd c = true := by
  refine ⟨fun refused => ?_, path_of_broken⟩
  by_contra inLine
  have kept : ∀ c ∈ v.toList, isLineEnd c = false := by simpa using inLine
  exact (compares_of_toPath (path_of_name kept)).ne_error refused

theorem exists_compares_name_iff :
    (∃ value, (ofKeyed .name v).Compares "@name" value) ↔
      ∀ c ∈ v.toList, isLineEnd c = false := by
  constructor
  · rintro ⟨_, compares⟩
    exact inLine_of_compares_name compares
  · intro inLine
    exact ⟨_, compares_of_toPath (path_of_name inLine)⟩

theorem heard_map_mend_iff (inLine : ∀ c ∈ v.toList, isLineEnd c = false) :
    heard (v.toList.map mend) = v.toList ↔ '\x00' ∉ v.toList ∧ ¬HasPoint v.toList := by
  rw [eq_of_map_mend_iff (fun _ => null_mem_of_heard), heard_eq_self_iff inLine]

theorem compares_name_iff :
    (ofKeyed .name v).Compares "@name" v ↔
      (∀ c ∈ v.toList, isLineEnd c = false) ∧ '\x00' ∉ v.toList ∧ ¬HasPoint v.toList := by
  constructor
  · intro compares
    have inLine := inLine_of_compares_name compares
    have same := (compares_of_toPath (path_of_name inLine)).iff.mp compares
    exact ⟨inLine, (heard_map_mend_iff inLine).mp same⟩
  · rintro ⟨inLine, kept⟩
    exact (compares_of_toPath (path_of_name inLine)).iff.mpr ((heard_map_mend_iff inLine).mpr kept)

theorem some_of_compares_id (compares : (ofKeyed .id v).Compares "@id" value) : v ≠ "" := by
  rintro rfl
  obtain ⟨_, refused⟩ := path_of_empty
  exact compares.ne_error refused

theorem exists_compares_id_iff :
    (∃ value, (ofKeyed .id v).Compares "@id" value) ↔ v ≠ "" := by
  constructor
  · rintro ⟨_, compares⟩
    exact some_of_compares_id compares
  · intro some_
    exact ⟨_, compares_of_toPath (path_of_id some_)⟩

theorem compares_id_iff :
    (ofKeyed .id v).Compares "@id" v ↔ v ≠ "" ∧ '\x00' ∉ v.toList ∧ ¬HasEscape v.toList := by
  have kept : dropBackslashes (v.toList.map mend) = v.toList ↔
      '\x00' ∉ v.toList ∧ ¬HasEscape v.toList := by
    rw [eq_of_map_mend_iff (fun cs => (dropBackslashes_sublist cs).mem),
      dropBackslashes_eq_self_iff]
  constructor
  · intro compares
    have some_ := some_of_compares_id compares
    exact ⟨some_, kept.mp ((compares_of_toPath (path_of_id some_)).iff.mp compares)⟩
  · rintro ⟨some_, whole⟩
    exact (compares_of_toPath (path_of_id some_)).iff.mpr (kept.mpr whole)

end Keyed

/-- A name has an XPath form unless a line ends in it, and an id unless it is empty.  The form is
about the given text just when the text has no null character and, in a name, no backslash before a
hexadecimal digit, or in an id, no backslash before any character but a line feed. -/
theorem keyed_path_form_iff (fallback : Kind) (strict : Bool) (v : String) :
    ∃ l m, classify [] fallback strict (keyed "name" v) = .ok l ∧
      classify [] fallback strict (keyed "id" v) = .ok m ∧
      (l.toPath = .error (.badValue (brokenName v)) ↔ ∃ c ∈ v.toList, isLineEnd c = true) ∧
      ((∃ value, l.Compares "@name" value) ↔ ∀ c ∈ v.toList, isLineEnd c = false) ∧
      (l.Compares "@name" v ↔ (∀ c ∈ v.toList, isLineEnd c = false) ∧ '\x00' ∉ v.toList ∧
        ¬HasPoint v.toList) ∧
      ((∃ value, m.Compares "@id" value) ↔ v ≠ "") ∧
      (m.Compares "@id" v ↔ v ≠ "" ∧ '\x00' ∉ v.toList ∧ ¬HasEscape v.toList) :=
  ⟨ofKeyed .name v, ofKeyed .id v, classify_keyed_name fallback strict v,
    classify_keyed_id fallback strict v, name_refused_iff, exists_compares_name_iff,
    compares_name_iff, exists_compares_id_iff, compares_id_iff⟩

/-- A line feed leaves a name without an XPath form, digits behind a backslash become a character,
and an id loses its backslash. -/
theorem keyed_path_forms_astray :
    classify [] .fuzzy false (keyed "name" "a\nb") = .ok (ofKeyed .name "a\nb") ∧
      (ofKeyed .name "a\nb").toPath = .error (.badValue (brokenName "a\nb")) ∧
      (ofKeyed .name "\\41").toPath = .ok (.text ".//*[@name = 'A']") ∧
      (ofKeyed .id "a\\b").toPath = .ok (.text ".//*[@id = 'ab']") ∧
      ¬(ofKeyed .id "a\\b").Compares "@id" "a\\b" := by
  have digits := path_of_name (v := "\\41") (by simp [isLineEnd])
  have letter := path_of_id (v := "a\\b") (by simp)
  refine ⟨rfl, path_of_broken ⟨'\n', by decide, by decide⟩, digits, letter, fun compares => ?_⟩
  exact absurd (compares.unique (compares_of_toPath letter)) (by decide)

end ElementSearch.LocatorOf
