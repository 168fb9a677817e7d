import ElementSearch.Locator.Filter

/-! Filters that fill a template.
A trigger takes a part out of a value or of its locator; the filter then puts a locator in place
whose value is a template with that part in every pair of braces. -/

namespace ElementSearch

inductive Trigger where
  | never
  /-- a text with the given start; the part is the rest -/
  | start (mark : String)
  /-- a dictionary with the key; the part is the value under it -/
  | key (name : String)
  /-- a locator of the kind; the part is its value -/
  | found (kind : Kind)

structure Template where
  trigger : Trigger
  kind : Kind
  text : String

namespace Trigger

def entry? (name : String) : List (Value × Value) → Option Value
  | [] => none
  | (.text label, value) :: rest => if label = name then some value else entry? name rest
  | _ :: rest => entry? name rest

def part? (t : Trigger) (raw : Value) (l : Locator) : Outcome (Option String) :=
  match t with
  | never => .ok none
  | start mark =>
    match raw with
    | .text s =>
      .ok (if mark.toList.isPrefixOf s.toList
        then some (String.ofList (s.toList.drop mark.length)) else none)
    | _ => .ok none
  | key name =>
    match raw with
    | .dict entries =>
      match entry? name entries with
      | some value => value.display.map some
      | none => .ok none
    | _ => .ok none
  | found kind => if l.kind = kind then l.value.display.map some else .ok none

end Trigger

namespace Template

def fillChars (part : List Char) : List Char → List Char
  | '\x7b' :: '\x7d' :: rest => part ++ fillChars part rest
  | c :: rest => c :: fillChars part rest
  | [] => []

def fill (t : Template) (part : String) : String :=
  String.ofList (fillChars part.toList t.text.toList)

def filter (t : Template) : Filter := fun raw l => do
  match ← t.trigger.part? raw l with
  | none => return none
  | some part => return some (LocatorOf.make t.kind (t.fill part) raw)

end Template

end ElementSearch
