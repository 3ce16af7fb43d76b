import BrowserControl.Text.CodePoint
import BrowserControl.Text.Uppercase
import BrowserControl.Text.Printable
import BrowserControl.Text.Hexadecimal
import BrowserControl.Text.Quoted
import BrowserControl.Text.Utf8
import BrowserControl.Text.Line
import BrowserControl.Decimal.Binary64
import BrowserControl.Decimal.Numeral
import BrowserControl.Decimal.Shortest
import BrowserControl.Failure
import BrowserControl.Attempt
import BrowserControl.Fault
import BrowserControl.Locating.Locator
import BrowserControl.Locating.Comparison
import BrowserControl.Locating.Page
import BrowserControl.Locating.Search
import BrowserControl.Locating.Retriever
import BrowserControl.Json.Value
import BrowserControl.Json.Problem
import BrowserControl.Json.Token
import BrowserControl.Json.Reader
import BrowserControl.Time
import BrowserControl.Logging
import BrowserControl.Settings
import BrowserControl.Window.Browser
import BrowserControl.Window.Wait
import BrowserControl.Window.Session
import BrowserControl.Window.Script
import BrowserControl.Text.Split
import BrowserControl.Select.Literal
import BrowserControl.Select.Box
import BrowserControl.Select.Picker
import BrowserControl.Select.Control
import BrowserControl.Proofs.Duplicates
import BrowserControl.Proofs.Window.Calls
import BrowserControl.Proofs.Window.Detection
import BrowserControl.Proofs.Window.Operations
import BrowserControl.Proofs.Window.Runs
import BrowserControl.Proofs.Window.Lifecycle
import BrowserControl.Proofs.Window.Conduct
import BrowserControl.Proofs.Window.Nesting
import BrowserControl.Proofs.Window.Release
import BrowserControl.Proofs.Window.InFlight
import BrowserControl.Proofs.Window.Disposal
import BrowserControl.Proofs.Window.Silence
import BrowserControl.Proofs.Locating.Order
import BrowserControl.Proofs.Locating.Quiet
import BrowserControl.Proofs.Locating.Descent
import BrowserControl.Proofs.Locating.Trails
import BrowserControl.Proofs.Locating.Interruption
import BrowserControl.Proofs.Locating.DocumentOrder
import BrowserControl.Proofs.Text.Unquoting
import BrowserControl.Proofs.Locating.SourceTexts
import BrowserControl.Proofs.Text.Pieces
import BrowserControl.Proofs.Select.Quiet
import BrowserControl.Proofs.Select.Picking
import BrowserControl.Proofs.Select.Matching
import BrowserControl.Proofs.Select.Refinement
import BrowserControl.Proofs.Select.Multiplicity
import BrowserControl.Proofs.Select.Quoting
import BrowserControl.Proofs.Select.Selecting
import BrowserControl.Proofs.Window.Looks
import BrowserControl.Proofs.Window.Polling
import BrowserControl.Proofs.Window.Patience
import BrowserControl.Proofs.Decimal.Comparison
import BrowserControl.Proofs.Decimal.WholeNumbers
import BrowserControl.Proofs.Window.Retry
import BrowserControl.Proofs.Settings.Usability
import BrowserControl.Proofs.Locating.Agreement
import BrowserControl.Proofs.Locating.Origins
import BrowserControl.Proofs.Window.Candour
import BrowserControl.Proofs.Window.Closing
import BrowserControl.Proofs.Select.Undoing
import BrowserControl.Proofs.Select.Faults
import BrowserControl.Proofs.Select.Parts
import BrowserControl.Proofs.Select.Direction
import BrowserControl.Proofs.Select.Reporting
import BrowserControl.Proofs.Json.Nesting
import BrowserControl.Proofs.Settings.Refusals
import BrowserControl.Proofs.Locating.Vetting
import BrowserControl.Proofs.Json.Settling
import BrowserControl.Proofs.Json.Spelling
import BrowserControl.Proofs.Settings.Bindings
