import ElementSearch.Css.Sniff
import ElementSearch.Fault.Message
import ElementSearch.Locator.Filter
import ElementSearch.Value.Equality

/-! What a value means as a locator.
A text that looks like XPath or like a selector is one, a tilde introduces an accessibility
label, and any other text is of the fallback kind.  A dictionary names its kind by its first key
that is not `props`; a key that names no kind is the engine of a custom locator.  Numbers and the
like are read as the texts that display them. -/

namespace ElementSearch

namespace LocatorOf

def accessibilityEngine : String := "accessibility"

/-- A tilde and at least one more character. -/
def looksAccessible : List Char → Bool
  | '~' :: _ :: _ => true
  | _ => false

def ofText (fallback : Kind) (s : String) : Locator :=
  let cs := s.toList
  if Css.looksLikePath cs then { make .xpath s s with output := s }
  else if looksAccessible cs then
    { make .custom (String.ofList cs.tail) s with engine := accessibilityEngine, output := s }
  else if Css.looksLikeSelector cs then { make .css s s with output := s }
  else { make fallback s s with output := s }

/-- What an object says about kind, engine and value. -/
structure Head where
  kind : Kind
  engine : Value
  value : Value

def isAuxiliary (key : Value) : Bool :=
  match key with
  | .text s => s == "props"
  | _ => false

def kindOfKey (key : Value) : Kind :=
  match key with
  | .text s => (Kind.ofKey? s).getD .custom
  | _ => .custom

/-- A list or tuple of hosts becomes a tuple, and so does a single host. -/
def shadowHosts (v : Value) : Value :=
  match v with
  | .list items => .tuple items
  | .tuple items => .tuple items
  | v => .tuple [v]

def propsOf (entries : Entries) : Value := (entries.get? (.text "props")).getD .null

/-- The locator of an object; without a kind it matches nothing. -/
def ofHead (entries : Entries) : Option Head → Locator
  | none => { make .unknown .null (.dict entries) with strict := .bool true }
  | some head =>
    { make head.kind head.value (.dict entries) with
      engine := head.engine, props := propsOf entries, strict := .bool true }

/-- A value that is neither a text nor an object counts as the text that it is written as. -/
def ofWritten (filters : List Filter) (fallback : Kind) (v : Value) : Outcome Locator := do
  let s ← v.inspect
  Filter.applyAll filters v (ofText fallback s)

mutual

def classify (filters : List Filter) (fallback : Kind) (strict : Bool) : Value → Outcome Locator
  | .locator l => .ok l
  | .null => Filter.applyAll filters .null (make .unknown .null .null)
  | .dict entries => do
    match ← headOf filters entries with
    | none =>
      if strict then .error (Cause.invalidKind (.dict entries) .null).fault
      else Filter.applyAll filters (.dict entries) (ofHead entries none)
    | some head => Filter.applyAll filters (.dict entries) (ofHead entries (some head))
  | .text s =>
    Filter.applyAll filters (.text s)
      (if s.isEmpty then make .unknown .null (.text s) else ofText fallback s)
  | .bool b => ofWritten filters fallback (.bool b)
  | .int n => ofWritten filters fallback (.int n)
  | .float x => ofWritten filters fallback (.float x)
  | .list items => ofWritten filters fallback (.list items)
  | .tuple items => ofWritten filters fallback (.tuple items)

def headOf (filters : List Filter) : List (Value × Value) → Outcome (Option Head)
  | [] => .ok none
  | (key, value) :: rest =>
    if isAuxiliary key then headOf filters rest
    else if key.isNull then .ok none
    else match kindOfKey key with
      | .frame =>
        match value with
        | .list items => do return some ⟨.frame, .null, .tuple (← frames filters items)⟩
        | .tuple items => do return some ⟨.frame, .null, .tuple (← frames filters items)⟩
        | value => do return some ⟨.frame, .null, .locator (← classify filters .css false value)⟩
      | .shadow => .ok (some ⟨.shadow, .null, shadowHosts value⟩)
      | .custom => .ok (some ⟨.custom, key, value⟩)
      | kind => .ok (some ⟨kind, .null, value⟩)

def frames (filters : List Filter) : List Value → Outcome (List Value)
  | [] => .ok []
  | x :: xs => do
    let first ← classify filters .css false x
    let rest ← frames filters xs
    return .locator first :: rest

end

/-- A locator to start a chain from: nothing in particular means every element. -/
def start (filters : List Filter) (v : Value) : Outcome Locator :=
  match v with
  | .null => everything
  | .text s => if s.isEmpty then everything else classify filters .css false (.text s)
  | v => classify filters .css false v
where
  everything : Outcome Locator :=
    classify filters .fuzzy false (.dict [(.text "xpath", .text "//*")])

theorem classify_locator (filters : List Filter) (fallback : Kind) (strict : Bool) (l : Locator) :
    classify filters fallback strict (.locator l) = .ok l := by
  simp [classify]

end LocatorOf

end ElementSearch
