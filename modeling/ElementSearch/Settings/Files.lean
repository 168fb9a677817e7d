import ElementSearch.Settings.Store
import ElementSearch.Text.Cut

/-! A tree of files.
A path is a list of names, from the root or from the directory one is in; single dots and empty
names in it say nothing.  Following it visits one directory after the other, and a path without
steps up is the place that it leads to.  Writing a file makes the directories above it, and they
stay when the file is deleted or when the writing fails. -/

namespace ElementSearch

structure Path where
  rooted : Bool
  names : List String
deriving DecidableEq

namespace Path

def ofText (text : String) : Path :=
  let names := (Cut.cut '/' text.toList).map String.ofList
  ⟨text.toList.head? == some '/', names.filter fun name => name != "" && name != "."⟩

def text (p : Path) : String :=
  if p.rooted then "/" ++ "/".intercalate p.names
  else if p.names.isEmpty then "."
  else "/".intercalate p.names

/-- The second path as seen from the first. -/
def join (p q : Path) : Path := if q.rooted then q else ⟨p.rooted, p.names ++ q.names⟩

def file (p : Path) (name : String) : Path := p.join (ofText name)

def parent (p : Path) : Path := { p with names := p.names.dropLast }

def enter (p : Path) (name : String) : Path :=
  if name = ".." then
    match p.names.getLast? with
    | none => if p.rooted then p else ⟨false, [".."]⟩
    | some last => if last = ".." then ⟨p.rooted, p.names ++ [".."]⟩ else p.parent
  else ⟨p.rooted, p.names ++ [name]⟩

def start (p : Path) : Path := ⟨p.rooted, []⟩

def fits (name : String) : Bool := name.utf8ByteSize ≤ 255

/-- A path that no system follows has 4096 bytes or more. -/
def isEndless (p : Path) : Bool := p.text.utf8ByteSize ≥ 4096

def hasNul (text : String) : Bool := text.toList.any fun c => c.toNat = 0

end Path

/-- What a file holds; `none` is a text that cannot be read as settings. -/
structure Files where
  documents : List (Path × Option Sheet)
  directories : List Path

/-- A change of the files that may end in a fault. -/
abbrev Filing := ExceptT Fault (StateM Files)

namespace Files

def empty : Files := ⟨[], []⟩

def read? (files : Files) (place : Path) : Option (Option Sheet) :=
  (files.documents.find? fun entry => entry.1 == place).map Prod.snd

def isFile (files : Files) (place : Path) : Bool := (files.read? place).isSome

def isDirectory (files : Files) (place : Path) : Bool :=
  place.names.all (fun name => name == "..") || files.directories.contains place

def holds (files : Files) (place : Path) : Bool := files.isFile place || files.isDirectory place

/-- The place that the names lead to; only directories can be entered. -/
def follow (files : Files) (place : Path) : List String → Outcome Path
  | [] => .ok place
  | name :: rest =>
    if files.isDirectory place then
      if Path.fits name then files.follow (place.enter name) rest
      else .error (.file .refused)
    else .error (.file (if files.isFile place then .notDirectory else .missing))

def locate (files : Files) (p : Path) : Outcome Path :=
  if p.names.any Path.hasNul then .error (.badValue "embedded null byte")
  else if p.isEndless then .error (.file .refused)
  else files.follow p.start p.names

/-- A path that leads nowhere has nothing at its end. -/
def has (files : Files) (p : Path) : Outcome Bool :=
  match files.locate p with
  | .ok place => .ok (files.holds place)
  | .error (.file .refused) => .error (.file .refused)
  | .error _ => .ok false

def content (files : Files) (p : Path) : Outcome (Option Sheet) := do
  let place ← files.locate p
  match files.read? place with
  | some content => return content
  | none => .error (.file (if files.isDirectory place then .directory else .missing))

def addDirectory (files : Files) (place : Path) : Files :=
  { files with directories := files.directories ++ [place] }

def put (files : Files) (place : Path) (content : Option Sheet) : Files :=
  { files with
    documents := (files.documents.filter fun entry => entry.1 != place) ++ [(place, content)] }

def remove (files : Files) (place : Path) : Files :=
  { files with documents := files.documents.filter fun entry => entry.1 != place }

def makeOne (p : Path) : Filing Unit := do
  let files ← get
  let place ← (files.locate p : Outcome Path)
  if files.holds place then throw (.file .taken) else set (files.addDirectory place)

/-- A directory that is there already is as good as a new one. -/
def settle (p : Path) (fault : Fault) : Filing Unit := do
  match fault, (← get).locate p with
  | .file _, .ok place => if (← get).isDirectory place then return () else throw fault
  | _, _ => throw fault

/-- How a change ends, with what it did until then. -/
def attempt (change : Filing Unit) : Filing (Outcome Unit) :=
  ExceptT.mk (Except.ok <$> change.run)

/-- A directory and those above it; `names` lead to it from the last one up. -/
def makeAll (rooted : Bool) : (names : List String) → Filing Unit
  | [] => return ()
  | name :: above => do
    let p : Path := ⟨rooted, (name :: above).reverse⟩
    match ← attempt (makeOne p) with
    | .ok () => return ()
    | .error (.file .missing) =>
      makeAll rooted above
      match ← attempt (makeOne p) with
      | .ok () => return ()
      | .error fault => settle p fault
    | .error fault => settle p fault

def makeDirectory (p : Path) : Filing Unit := makeAll p.rooted p.names.reverse

def write (p : Path) (content : Option Sheet) : Filing Unit := do
  makeDirectory p.parent
  let files ← get
  let place ← (files.locate p : Outcome Path)
  if files.isDirectory place then throw (.file .directory) else set (files.put place content)

def delete (p : Path) : Filing Unit := do
  let files ← get
  let place ← (files.locate p : Outcome Path)
  if files.isFile place then set (files.remove place)
  else throw (.file (if files.isDirectory place then .directory else .missing))

end Files

end ElementSearch
