import ElementSearch.Script
import ElementSearch.SuiteRun.Options

/-! Suite runs.
A run starts the tests of a suite and then, unless told otherwise, renders their report.  A
report that cannot be rendered is noted and does not change how the run ends. -/

namespace ElementSearch.SuiteRun

structure Site where
  interpreter : String
  home : String
  results : String
  report : String

/-- How a program ends, if it is there at all. -/
inductive Ended where
  | code (n : Int)
  | missing

structure Command where
  words : List String
  directory : Option String
  /-- a bad end is a failure of the caller -/
  checked : Bool

structure Transcript where
  code : Int
  ran : List Command
  notes : List Note

def suitePath (suite : String) : String :=
  if suite = "unit" then "testsuites/unit"
  else if suite = "ui" then "testsuites/ui_testing/tests"
  else "testsuites/"

def testWords (site : Site) (o : Options) (suite : String) (parallel : Int) : List String :=
  [site.interpreter, "-m", "pytest", suitePath suite] ++
    (if o.tags.isEmpty then [] else ["-m", " or ".intercalate o.tags]) ++
    (if parallel > 1 then ["-n", toString parallel] else []) ++
    (if o.noAllure then [] else ["--alluredir", site.results]) ++
    [if o.verbose then "-v" else "-q"]

def testCommand (site : Site) (o : Options) : Outcome Command :=
  match o.suite, o.parallel with
  | some suite, some parallel => .ok ⟨testWords site o suite parallel, some site.home, false⟩
  | _, _ => .error .wrongType

def reportCommand (site : Site) : Command :=
  ⟨["allure", "generate", site.results, "-o", site.report, "--clean"], none, true⟩

def environment (o : Options) : List (Option String) :=
  [o.browser, some (if o.noHeadless then "false" else "true")]

def signalNames : List (Nat × String) :=
  [(1, "SIGHUP"), (2, "SIGINT"), (3, "SIGQUIT"), (4, "SIGILL"), (5, "SIGTRAP"), (6, "SIGABRT"),
    (7, "SIGBUS"), (8, "SIGFPE"), (9, "SIGKILL"), (10, "SIGUSR1"), (11, "SIGSEGV"),
    (12, "SIGUSR2"), (13, "SIGPIPE"), (14, "SIGALRM"), (15, "SIGTERM"), (16, "SIGSTKFLT"),
    (17, "SIGCHLD"), (18, "SIGCONT"), (19, "SIGSTOP"), (20, "SIGTSTP"), (21, "SIGTTIN"),
    (22, "SIGTTOU"), (23, "SIGURG"), (24, "SIGXCPU"), (25, "SIGXFSZ"), (26, "SIGVTALRM"),
    (27, "SIGPROF"), (28, "SIGWINCH"), (29, "SIGIO"), (30, "SIGPWR"), (31, "SIGSYS"),
    (34, "SIGRTMIN"), (64, "SIGRTMAX")]

def endText (n : Int) : String :=
  if n < 0 then
    match signalNames.find? fun entry => entry.1 == n.natAbs with
    | some (number, name) => "died with <Signals." ++ name ++ ": " ++ toString number ++ ">."
    | none => "died with unknown signal " ++ toString n.natAbs ++ "."
  else "returned non-zero exit status " ++ toString n ++ "."

def failureText (c : Command) (n : Int) : String :=
  "Command '" ++ Value.listed c.words ++ "' " ++ endText n

def reportNote (site : Site) (ended : Ended) : Note :=
  match ended with
  | .missing => ⟨.warning, "Allure CLI not found, skipping report generation"⟩
  | .code 0 => ⟨.info, "Report generated: " ++ site.report⟩
  | .code n =>
    ⟨.error, "Failed to generate Allure report: " ++ failureText (reportCommand site) n⟩

def verdict (n : Int) : Note :=
  if n = 0 then ⟨.info, "Test run passed"⟩
  else ⟨.error, "Test run failed (exit code: " ++ toString n ++ ")"⟩

/-- The run of a command, given how the tests and the rendering of the report end. -/
def runCommand (site : Site) (o : Options) (command : Command) (tests report : Ended) :
    Outcome Transcript :=
  let announced : Note := ⟨.info, "Executing: " ++ " ".intercalate command.words⟩
  match tests with
  | .missing => .error (.file .missing)
  | .code n =>
    if o.noAllure then .ok ⟨n, [command], [announced, verdict n]⟩
    else .ok ⟨n, [command, reportCommand site], [announced, reportNote site report, verdict n]⟩

def run (site : Site) (o : Options) (tests report : Ended) : Outcome Transcript := do
  runCommand site o (← testCommand site o) tests report

def consoleFormat : String :=
  "<green>\x7btime:HH:mm:ss\x7d</green> | <level>\x7blevel: <8\x7d</level> | \x7bmessage\x7d"

end ElementSearch.SuiteRun
