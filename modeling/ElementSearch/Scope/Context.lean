import ElementSearch.Value.Basic

/-! Where a search takes place.
A context is a base, usually a page, and the scopes opened on top of it, the innermost one first.
A scope belongs to an element or to a frame. -/

namespace ElementSearch

/-- What a browser holds and a search only passes on. -/
inductive Handle where
  /-- a page or a frame -/
  | place (name : String)
  | element (name : String)
deriving DecidableEq

namespace Handle

instance : Inhabited Handle := ⟨place ""⟩

def shown : Handle → String
  | place name => name
  | element name => "<" ++ name ++ ">"

end Handle

structure Scope where
  locator : Locator
  root : Handle

def Scope.isFrame (s : Scope) : Bool := s.locator.kind = .frame

structure Context where
  base : Handle
  scopes : List Scope

namespace Context

instance : Inhabited Context := ⟨⟨default, []⟩⟩

def ofBase (base : Handle) : Context := ⟨base, []⟩

def root (c : Context) : Handle :=
  match c.scopes with
  | [] => c.base
  | scope :: _ => scope.root

def depth (c : Context) : Nat := c.scopes.length

def active (c : Context) : Option Locator := c.scopes.head?.map Scope.locator

def inElement (c : Context) : Bool := c.scopes.any fun scope => !scope.isFrame

def elementScope? (c : Context) : Option Scope := c.scopes.find? fun scope => !scope.isFrame

def enter (c : Context) (scope : Scope) : Context := { c with scopes := scope :: c.scopes }

def close (c : Context) : Context := { c with scopes := c.scopes.tail }

theorem inElement_iff (c : Context) : c.inElement = true ↔ c.elementScope?.isSome := by
  simp [inElement, elementScope?, List.any_eq_true]

end Context

end ElementSearch
