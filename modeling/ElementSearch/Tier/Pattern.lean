import ElementSearch.XPath.Pattern

/-! The queries for human text.
Each is a pattern whose holes take the string expression for the text that is looked for:
links, buttons and images to click on; checkboxes and radio buttons; fields by their label,
placeholder or name; and the options of a list. -/

namespace ElementSearch.Tier

open XPath Pattern

def buttonInput : String := "./@type = 'submit' or ./@type = 'image' or ./@type = 'button'"

/-- Inputs that are pressed or not shown are no fields. -/
def notExcluded : String :=
  "[not(./@type = 'submit' or ./@type = 'image' or ./@type = 'hidden')]"

def fieldPath : String := ".//*[self::input | self::textarea | self::select]" ++ notExcluded

def checkablePath : String := ".//input[@type = 'checkbox' or @type = 'radio']"

def clickableNarrow : Pattern :=
  union
    [[".//a[normalize-space(.)=", .slot, "]"],
      [".//button[normalize-space(.)=", .slot, "]"],
      [".//a/img[normalize-space(@alt)=", .slot, "]/ancestor::a"],
      [".//input[", buttonInput, "][normalize-space(@value)=", .slot, "]"]]

def clickableWide : Pattern :=
  union
    [[".//a[./@href][((contains(normalize-space(string(.)), ", .slot,
        ")) or .//img[contains(./@alt, ", .slot, ")])]"],
      [".//input[", buttonInput, "][contains(./@value, ", .slot, ")]"],
      [".//input[./@type = 'image'][contains(./@alt, ", .slot, ")]"],
      [".//button[contains(normalize-space(string(.)), ", .slot, ")]"],
      [".//label[contains(normalize-space(string(.)), ", .slot, ")]"],
      [".//input[", buttonInput, "][./@name = ", .slot, "]"],
      [".//button[./@name = ", .slot, "]"],
      [".//*[@aria-label = ", .slot, "]"],
      [".//*[@title = ", .slot, "]"],
      [".//*[@aria-labelledby = //*[@id][normalize-space(string(.)) = ", .slot, "]/@id ]"]]

def clickableSelf : Pattern :=
  ["./self::*[contains(normalize-space(string(.)), ", .slot,
    ") or contains(normalize-space(@value), ", .slot, ")]"]

def checkableByText : Pattern :=
  union
    [[checkablePath, "[(@id = //label[@for][contains(normalize-space(string(.)), ", .slot,
        ")]/@for) or @placeholder = ", .slot, "]"],
      [".//label[contains(normalize-space(string(.)), ", .slot,
        ")]//input[@type = 'radio' or @type = 'checkbox']"]]

def checkableByName : Pattern := [checkablePath, "[@name = ", .slot, "]"]

def fieldLabelEquals : Pattern :=
  union
    [[fieldPath, "[((./@name = ", .slot,
        ") or ./@id = //label[@for][normalize-space(string(.)) = ", .slot,
        "]/@for or ./@placeholder = ", .slot, ")]"],
      [".//label[normalize-space(string(.)) = ", .slot, "]/", fieldPath]]

def fieldLabelContains : Pattern :=
  union
    [[fieldPath, "[(((./@name = ", .slot,
        ") or ./@id = //label[@for][contains(normalize-space(string(.)), ", .slot,
        ")]/@for) or ./@placeholder = ", .slot, ")]"],
      [".//label[contains(normalize-space(string(.)), ", .slot, ")]/", fieldPath],
      [".//*[@aria-label = ", .slot, "]", notExcluded],
      [".//*[@title = ", .slot, "]", notExcluded],
      [".//*[@aria-labelledby = //*[@id][normalize-space(string(.)) = ", .slot, "]/@id ]",
        notExcluded]]

def fieldByName : Pattern := [fieldPath, "[@name = ", .slot, "]"]

def optionByVisibleText : Pattern :=
  ["./option[normalize-space(.) = ", .slot, "]|./optgroup/option[normalize-space(.) = ", .slot,
    "]"]

def optionByValue : Pattern :=
  ["./option[normalize-space(@value) = ", .slot,
    "]|./optgroup/option[normalize-space(@value) = ", .slot, "]"]

theorem slots_clickableWide : slots clickableWide = 11 := by decide

end ElementSearch.Tier
