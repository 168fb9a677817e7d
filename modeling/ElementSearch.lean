import ElementSearch.Action
import ElementSearch.Css.Escape
import ElementSearch.Css.Path
import ElementSearch.Css.Pseudo
import ElementSearch.Css.Selector
import ElementSearch.Css.Sniff
import ElementSearch.Css.Step
import ElementSearch.Css.Token
import ElementSearch.Decimal.Binary64
import ElementSearch.Decimal.Numeral
import ElementSearch.Decimal.Shortest
import ElementSearch.Driver
import ElementSearch.Fault
import ElementSearch.Fault.Message
import ElementSearch.Locator.Classify
import ElementSearch.Locator.Filter
import ElementSearch.Locator.Kind
import ElementSearch.Locator.Marker
import ElementSearch.Locator.Query
import ElementSearch.Locator.Refine
import ElementSearch.Locator.Template
import ElementSearch.Lookup
import ElementSearch.Main
import ElementSearch.Procedure
import ElementSearch.Proofs.Action.Attempts
import ElementSearch.Proofs.Action.Confinement
import ElementSearch.Proofs.Action.Deed
import ElementSearch.Proofs.Action.Errand
import ElementSearch.Proofs.Action.Secrecy
import ElementSearch.Proofs.Css.AttributeTest
import ElementSearch.Proofs.Css.Escaping
import ElementSearch.Proofs.Css.Identifier
import ElementSearch.Proofs.Css.Language
import ElementSearch.Proofs.Css.Nesting
import ElementSearch.Proofs.Css.Reading
import ElementSearch.Proofs.Css.Refusal
import ElementSearch.Proofs.Css.StringReading
import ElementSearch.Proofs.Css.Translation
import ElementSearch.Proofs.Decimal.Neutral
import ElementSearch.Proofs.Locator.Brackets
import ElementSearch.Proofs.Locator.Chain
import ElementSearch.Proofs.Locator.Classify
import ElementSearch.Proofs.Locator.Component
import ElementSearch.Proofs.Locator.Compose
import ElementSearch.Proofs.Locator.Escapes
import ElementSearch.Proofs.Locator.Interchange
import ElementSearch.Proofs.Locator.Narrowing
import ElementSearch.Proofs.Locator.Nested
import ElementSearch.Proofs.Locator.PathForm
import ElementSearch.Proofs.Locator.Plain
import ElementSearch.Proofs.Locator.Position
import ElementSearch.Proofs.Locator.Refusal
import ElementSearch.Proofs.Locator.Restate
import ElementSearch.Proofs.Locator.Shorthand
import ElementSearch.Proofs.Locator.Shown
import ElementSearch.Proofs.Locator.Sniffers
import ElementSearch.Proofs.Locator.Strategies
import ElementSearch.Proofs.Locator.WellFormed
import ElementSearch.Proofs.Lookup.Calls
import ElementSearch.Proofs.Lookup.Options
import ElementSearch.Proofs.Lookup.Place
import ElementSearch.Proofs.Lookup.Walk
import ElementSearch.Proofs.Scope.Blocks
import ElementSearch.Proofs.Scope.Frames
import ElementSearch.Proofs.Scope.Layers
import ElementSearch.Proofs.Scope.Naming
import ElementSearch.Proofs.Scope.Opening
import ElementSearch.Proofs.Scope.Run
import ElementSearch.Proofs.Script.Requests
import ElementSearch.Proofs.Script.Run
import ElementSearch.Proofs.Session.Registration
import ElementSearch.Proofs.Settings.Failure
import ElementSearch.Proofs.Settings.Load
import ElementSearch.Proofs.Settings.Merging
import ElementSearch.Proofs.Settings.Placing
import ElementSearch.Proofs.Settings.Reference
import ElementSearch.Proofs.Settings.Run
import ElementSearch.Proofs.Settings.Store
import ElementSearch.Proofs.Settings.Tree
import ElementSearch.Proofs.Settings.Unfold
import ElementSearch.Proofs.Settings.Unshared
import ElementSearch.Proofs.Settings.Writing
import ElementSearch.Proofs.Stateful
import ElementSearch.Proofs.Text.Words
import ElementSearch.Proofs.Tier.Exclusion
import ElementSearch.Proofs.Tier.OptionText
import ElementSearch.Proofs.Tier.Outline
import ElementSearch.Proofs.Tier.PlainPath
import ElementSearch.Proofs.Value.Keyed
import ElementSearch.Proofs.Value.Named
import ElementSearch.Proofs.Value.Plain
import ElementSearch.Proofs.Value.Same
import ElementSearch.Proofs.XPath.Axis
import ElementSearch.Proofs.XPath.Branches
import ElementSearch.Proofs.XPath.NamePath
import ElementSearch.Proofs.XPath.Nesting
import ElementSearch.Proofs.XPath.Primary
import ElementSearch.Proofs.XPath.Quote
import ElementSearch.Proofs.XPath.Runs
import ElementSearch.Proofs.XPath.Segments
import ElementSearch.Proofs.XPath.Sum
import ElementSearch.Proofs.XPath.Token
import ElementSearch.Proofs.XPath.Whitespace
import ElementSearch.Rehearsal
import ElementSearch.Report
import ElementSearch.Scope
import ElementSearch.Scope.Context
import ElementSearch.Script
import ElementSearch.Session
import ElementSearch.Settings
import ElementSearch.Settings.Files
import ElementSearch.Settings.Store
import ElementSearch.SuiteRun
import ElementSearch.SuiteRun.Options
import ElementSearch.Text.Alphanumeric
import ElementSearch.Text.Blank
import ElementSearch.Text.Cut
import ElementSearch.Text.Grammar
import ElementSearch.Text.Hexadecimal
import ElementSearch.Text.Intervals
import ElementSearch.Text.LetterCase
import ElementSearch.Text.Printable
import ElementSearch.Text.Quoted
import ElementSearch.Tier
import ElementSearch.Tier.Pattern
import ElementSearch.Value.Basic
import ElementSearch.Value.Display
import ElementSearch.Value.Document
import ElementSearch.Value.Equality
import ElementSearch.Value.Whole
import ElementSearch.XPath.Literal
import ElementSearch.XPath.Pattern
