import ElementSearch.SuiteRun

/-! The command line of suite runs: it prints the commands of the run that its arguments ask for,
each on a line of its own.  The environment says which interpreter runs the tests. -/

open ElementSearch

def site (interpreter : String) : SuiteRun.Site :=
  ⟨interpreter, ".", "reports/allure-results", "reports/allure-report"⟩

def commandLine (c : SuiteRun.Command) : String := " ".intercalate c.words

def main (arguments : List String) : IO UInt32 := do
  match SuiteRun.readOptions arguments with
  | .error refusal => return refusal.exitCode.toNat.toUInt32
  | .ok o =>
    let interpreter := (← IO.getEnv "INTERPRETER").getD "interpreter"
    match SuiteRun.run (site interpreter) o (.code 0) (.code 0) with
    | .error _ => return 1
    | .ok t =>
      for command in t.ran do
        IO.println (commandLine command)
      return 0
