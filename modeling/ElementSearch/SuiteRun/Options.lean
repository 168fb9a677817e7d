import ElementSearch.Decimal.Numeral

/-! The options of a suite run.
Long options may be shortened as long as they stay unambiguous and take their argument from the
next word or after an equals sign; short ones may be written together.  A later use of an option
wins.  Words that belong to no option are refused.  Two hyphens written right behind an option
that takes arguments leave it without any. -/

namespace ElementSearch.SuiteRun

inductive Switch where
  | help
  | suite
  | tags
  | parallel
  | browser
  | noHeadless
  | noAllure
  | verbose
deriving DecidableEq

inductive Arity where
  | none
  | one
  | many
deriving DecidableEq

def Switch.arity : Switch → Arity
  | suite => .one
  | tags => .many
  | parallel => .one
  | browser => .one
  | _ => .none

def spellings : List (String × Switch) :=
  [("-h", .help), ("--help", .help), ("--suite", .suite), ("--tags", .tags),
    ("--parallel", .parallel), ("-n", .parallel), ("--browser", .browser),
    ("--no-headless", .noHeadless), ("--no-allure", .noAllure), ("--verbose", .verbose),
    ("-v", .verbose)]

/-- A setting that was left without an argument has no value. -/
structure Options where
  suite : Option String
  tags : List String
  parallel : Option Int
  browser : Option String
  noHeadless : Bool
  noAllure : Bool
  verbose : Bool

namespace Options

def standard : Options := ⟨some "all", [], some 1, some "chromium", false, false, false⟩

def suites : List String := ["all", "ui", "unit"]

def browsers : List String := ["chromium", "firefox", "webkit"]

end Options

inductive Refusal where
  | helpWanted
  | rejected
deriving DecidableEq

def Refusal.exitCode : Refusal → Int
  | helpWanted => 0
  | rejected => 2

abbrev Reading := Except Refusal

/-- An option as it was written. -/
structure Mention where
  /-- none if there is no such option -/
  switch : Option Switch
  long : Bool
  /-- what is written right behind the switch -/
  argument : Option (List Char)

inductive Word where
  | argument (text : String)
  /-- two hyphens alone: no options from here on -/
  | dashes
  | option (mention : Mention)

def spelled? (cs : List Char) : Option Switch :=
  (spellings.find? fun spelling => spelling.1.toList == cs).map Prod.snd

def isLong (cs : List Char) : Bool := ['-', '-'].isPrefixOf cs

/-- The text before the first equals sign, and what follows it if there is one. -/
def splitEquals (cs : List Char) : List Char × Option (List Char) :=
  match cs.dropWhile fun c => c != '=' with
  | [] => (cs, none)
  | _ :: back => (cs.takeWhile fun c => c != '=', some back)

def candidates (cs : List Char) : List Mention :=
  if isLong cs then
    let (front, back) := splitEquals cs
    (spellings.filter fun spelling => front.isPrefixOf spelling.1.toList).map fun spelling =>
      ⟨some spelling.2, true, back⟩
  else
    match spelled? (cs.take 2) with
    | some s => [⟨some s, false, some (cs.drop 2)⟩]
    | none => []

def isDecimalDigit (c : Char) : Bool := (Alphanumeric.decimalValue? c).isSome

/-- A hyphen before a number, with or without a whole part; a line feed at the end is
overlooked. -/
def isNegative (cs : List Char) : Bool :=
  match cs with
  | '-' :: rest =>
    let rest := if rest.getLast? == some '\n' then rest.dropLast else rest
    match rest.dropWhile isDecimalDigit with
    | [] => !rest.isEmpty
    | '.' :: fraction => !fraction.isEmpty && fraction.all isDecimalDigit
    | _ => false
  | _ => false

def readWord (text : String) : Reading Word :=
  let cs := text.toList
  if cs.head? != some '-' then .ok (.argument text)
  else match spelled? cs with
    | some s => .ok (.option ⟨some s, isLong cs, none⟩)
    | none =>
      if cs.length = 1 then .ok (.argument text)
      else
        let (front, back) := splitEquals cs
        match back, spelled? front with
        | some back, some s => .ok (.option ⟨some s, isLong front, some back⟩)
        | _, _ =>
          match candidates cs with
          | [mention] => .ok (.option mention)
          | _ :: _ :: _ => .error .rejected
          | [] =>
            if isNegative cs || cs.contains ' ' then .ok (.argument text)
            else .ok (.option ⟨none, isLong cs, none⟩)

def readWords : List String → Reading (List Word)
  | [] => .ok []
  | text :: rest =>
    if text = "--" then .ok (.dashes :: rest.map .argument)
    else do
      let word ← readWord text
      let others ← readWords rest
      return word :: others

/-- What one word and the words after it come to: switches with their arguments, and how many
words were taken. -/
structure Harvest where
  uses : List (Switch × List String)
  taken : Nat

def argumentsAhead : List Word → List String
  | .argument text :: rest => text :: argumentsAhead rest
  | _ => []

def fromAhead (s : Switch) (ahead : List String) : Reading Harvest :=
  match s.arity with
  | .none => .ok ⟨[(s, [])], 0⟩
  | .one =>
    match ahead with
    | [] => .error .rejected
    | text :: _ => .ok ⟨[(s, [text])], 1⟩
  | .many =>
    match ahead with
    | [] => .error .rejected
    | texts => .ok ⟨[(s, texts)], texts.length⟩

def written (cs : List Char) : List String :=
  if cs = ['-', '-'] then [] else [String.ofList cs]

/-- A switch with something written right behind it: its argument, or more short switches. -/
def fromCluster (s : Switch) (long : Bool) (ahead : List String) (cs : List Char) :
    Reading Harvest :=
  if s.arity ≠ .none then .ok ⟨[(s, written cs)], 0⟩
  else if long then .error .rejected
  else match cs with
    | [] => .error .rejected
    | c :: rest =>
      match spelled? ['-', c] with
      | none => .error .rejected
      | some next => do
        let harvest ←
          if rest.isEmpty then fromAhead next ahead else fromCluster next false ahead rest
        return { harvest with uses := (s, []) :: harvest.uses }

def Mention.harvest (m : Mention) (ahead : List String) : Reading Harvest :=
  match m.switch, m.argument with
  | none, _ => .ok ⟨[], 0⟩
  | some s, none => fromAhead s ahead
  | some s, some cs => fromCluster s m.long ahead cs

def choice (choices : List String) (text : String) : Reading String :=
  if choices.contains text then .ok text else .error .rejected

def number (text : String) : Reading Int :=
  match Numeral.read? text with
  | some n => .ok n
  | none => .error .rejected

def Options.use (o : Options) (s : Switch) (arguments : List String) : Reading Options :=
  let argument := arguments.head?
  match s with
  | .help => .error .helpWanted
  | .suite => do return { o with suite := ← argument.mapM (choice suites) }
  | .tags => .ok { o with tags := arguments }
  | .parallel => do return { o with parallel := ← argument.mapM number }
  | .browser => do return { o with browser := ← argument.mapM (choice browsers) }
  | .noHeadless => .ok { o with noHeadless := true }
  | .noAllure => .ok { o with noAllure := true }
  | .verbose => .ok { o with verbose := true }

/-- Goes through the words; `skip` of them already belong to an option. -/
def collect (o : Options) (extra : Bool) (skip : Nat) : List Word → Reading Options
  | [] => if extra then .error .rejected else .ok o
  | .argument _ :: rest =>
    match skip with
    | 0 => collect o true 0 rest
    | n + 1 => collect o extra n rest
  | .dashes :: rest => collect o true 0 rest
  | .option mention :: rest => do
    let harvest ← mention.harvest (argumentsAhead rest)
    let o ← harvest.uses.foldlM (fun o use => o.use use.1 use.2) o
    collect o (extra || mention.switch.isNone) harvest.taken rest

def readOptions (texts : List String) : Reading Options := do
  let words ← readWords texts
  collect .standard false 0 words

end ElementSearch.SuiteRun
