import ElementSearch.Proofs.Locator.Brackets

/-! Sub-locators behind an axis.
A step that goes to a sub-locator puts its query behind a double slash or an axis, without any of
the dots and slashes in front.  Nothing is lost with them when they are one of the ways to begin a
path; a parent step there is lost, and of a query that has nothing else nothing is left. -/

namespace ElementSearch.LocatorOf

variable {s : String}

/-- What a path may begin with; it is not needed behind an axis. -/
def openings : List String := ["", ".//", "//", "./", "/"]

/-- The path ends with a step and not with a slash. -/
def NamesStep (path : String) : Prop := ∃ c ∈ path.toList.getLast?, c ≠ '/'

/-- `sub` is the path without its opening, so it has all steps of the path. -/
def KeepsSteps (path sub : String) : Prop :=
  (∃ opening ∈ openings, path = opening ++ sub) ∧ (NamesStep path → sub ≠ "")

def isLead (c : Char) : Bool := c == '.' || c == '/'

def leadOf (path : String) : String := String.ofList (path.toList.takeWhile isLead)

theorem lead_append_bare (path : String) : path = leadOf path ++ bareOf path := by
  have parts : path.toList.takeWhile isLead ++ stripLead path.toList = path.toList :=
    List.takeWhile_append_dropWhile
  rw [leadOf, bareOf, ← String.ofList_append, parts, String.ofList_toList]

theorem mem_leadOf {c : Char} (mem : c ∈ (leadOf s).toList) : c = '.' ∨ c = '/' := by
  rw [leadOf, String.toList_ofList] at mem
  simpa [isLead] using List.mem_takeWhile_imp mem

theorem head?_bareOf : ∀ c ∈ (bareOf s).toList.head?, c ≠ '.' ∧ c ≠ '/' := by
  rw [bareOf, String.toList_ofList]
  exact head?_stripLead s.toList

theorem bareOf_eq_empty_iff : bareOf s = "" ↔ ∀ c ∈ s.toList, c = '.' ∨ c = '/' := by
  rw [← String.toList_eq_nil_iff, bareOf, String.toList_ofList, stripLead,
    List.dropWhile_eq_nil_iff]
  simp

theorem not_namesStep_opening : ∀ opening ∈ openings, ¬NamesStep opening := by
  simp [openings, NamesStep]

theorem keepsSteps_bareOf_iff : KeepsSteps s (bareOf s) ↔ leadOf s ∈ openings := by
  constructor
  · rintro ⟨⟨opening, known, same⟩, _⟩
    have front : leadOf s ++ bareOf s = opening ++ bareOf s := (lead_append_bare s).symm.trans same
    rwa [(String.append_left_inj _).mp front]
  · intro known
    refine ⟨⟨leadOf s, known, lead_append_bare s⟩, fun names empty => ?_⟩
    have whole := lead_append_bare s
    rw [empty, String.append_empty] at whole
    exact not_namesStep_opening _ known (whole ▸ names)

/-- A step that goes to a sub-locator leaves out all dots and slashes in front of its query.  The
query keeps its steps exactly when these are at most an opening, and nothing is left of it when it
has nothing but dots and slashes. -/
theorem nested_steps_kept_iff (filters : List Filter) {axis : Axis} (known : axis ∈ axes)
    {receiver next : Locator} {v : Value} (done : receiver.refine filters (axis.step v) = .ok next)
    {l : Locator} (isLocator : classified filters v = .ok l) {s : String}
    (isForm : l.toPath = .ok (.text s)) :
    (∃ y, receiver.pathText = .ok y ∧
        next = ofPath (y ++ (axis.front ++ axis.sign ++ bareOf s ++ axis.closing))) ∧
      s = leadOf s ++ bareOf s ∧ (∀ c ∈ (leadOf s).toList, c = '.' ∨ c = '/') ∧
      (∀ c ∈ (bareOf s).toList.head?, c ≠ '.' ∧ c ≠ '/') ∧
      (KeepsSteps s (bareOf s) ↔ leadOf s ∈ openings) ∧
      (bareOf s = "" ↔ ∀ c ∈ s.toList, c = '.' ∨ c = '/') := by
  obtain ⟨y, form⟩ := form_of_narrowing (axis.suffix?_step known filters v) done
  rw [refine_of_form known form isLocator isForm] at done
  split at done
  · cases done
  · cases done
    exact ⟨⟨y, form, rfl⟩, lead_append_bare s, fun _ => mem_leadOf, head?_bareOf,
      keepsSteps_bareOf_iff, bareOf_eq_empty_iff⟩

def childAxis : Axis := ⟨.withChild, "[./child", "::", "]"⟩

theorem nested_steps_kept_withChild :
    childAxis ∈ axes ∧
      (ofPath ".//a").refine [] (childAxis.step (pathObject "//b/..")) =
        .ok (ofPath ".//a[./child::b/..]") ∧
      classified [] (pathObject "//b/..") = .ok (ofPath "//b/..") ∧
      (ofPath "//b/..").toPath = .ok (.text "//b/..") ∧
      bareOf "//b/.." = "b/.." ∧ KeepsSteps "//b/.." "b/.." := by
  have known : childAxis ∈ axes := List.mem_cons_of_mem _ List.mem_cons_self
  have done : (ofPath ".//a").refine [] (childAxis.step (pathObject "//b/..")) =
      .ok (ofPath ".//a[./child::b/..]") := rfl
  have isForm : (ofPath "//b/..").toPath = .ok (.text "//b/..") := toPath_ofPath "//b/.."
  have isLocator := classified_pathObject "//b/.."
  obtain ⟨_, _, _, _, keeps, _⟩ := nested_steps_kept_iff [] known done isLocator isForm
  exact ⟨known, done, isLocator, isForm, rfl, keeps.mpr (by decide)⟩

/-- A parent step in front is left out, whatever step goes to the sub-locator. -/
theorem parent_step_left_out :
    (∀ axis ∈ axes, (ofPath ".//a").refine [] (axis.step (pathObject "../b")) =
        .ok (ofPath (".//a" ++ (axis.front ++ axis.sign ++ "b" ++ axis.closing)))) ∧
      ¬KeepsSteps "../b" "b" ∧
      (ofPath ".//a").refine [] (.find (pathObject "..")) = .ok (ofPath ".//a//") ∧
      NamesStep ".." ∧ ¬KeepsSteps ".." "" := by
  have step : ¬KeepsSteps "../b" (bareOf "../b") := by
    rw [keepsSteps_bareOf_iff]
    decide
  have parent : NamesStep ".." := ⟨'.', rfl, by decide⟩
  refine ⟨fun axis known => ?_, step, rfl, parent, fun keeps => keeps.2 parent rfl⟩
  exact refine_of_form known (pathText_ofPath ".//a") (classified_pathObject "../b")
    (toPath_ofPath "../b")

end ElementSearch.LocatorOf
