import Chancery.Main
import Chancery.Office.Calls
import Chancery.Office.Direct
import Chancery.Settings.Sample
import Chancery.Wire.Requests
import Chancery.Proofs.Identifier
import Chancery.Proofs.Text.Blank
import Chancery.Proofs.Text.Order
import Chancery.Proofs.Text.Bytes
import Chancery.Proofs.Text.Lowercase
import Chancery.Proofs.Text.Pattern
import Chancery.Proofs.Calendar.TextOrder
import Chancery.Proofs.Store.Writing
import Chancery.Proofs.Store.Constraints
import Chancery.Proofs.Store.Orderly
import Chancery.Proofs.Store.Sorting
import Chancery.Proofs.Store.Loading
import Chancery.Proofs.Store.Directory
import Chancery.Proofs.Store.Names
import Chancery.Proofs.Store.Rereading
import Chancery.Proofs.Store.Acceptance
import Chancery.Proofs.Office.Checks
import Chancery.Proofs.Office.Outcome
import Chancery.Proofs.Office.Runs
import Chancery.Proofs.Office.Failures
import Chancery.Proofs.Assignments.Fate
import Chancery.Proofs.Assignments.Lifecycle
import Chancery.Proofs.Assignments.Marks
import Chancery.Proofs.Assignments.Times
import Chancery.Proofs.Assignments.RoundTrip
import Chancery.Proofs.Acknowledgments.Entries
import Chancery.Proofs.Acknowledgments.Fate
import Chancery.Proofs.Acknowledgments.Convergence
import Chancery.Proofs.Acknowledgments.Completion
import Chancery.Proofs.Acknowledgments.Queues
import Chancery.Proofs.Acknowledgments.Loading
import Chancery.Proofs.Acknowledgments.Agreement
import Chancery.Proofs.Journal.Pages
import Chancery.Proofs.Journal.Listing
import Chancery.Proofs.Journal.Faithful
import Chancery.Proofs.Journal.Lateness
import Chancery.Proofs.Journal.Totals
import Chancery.Proofs.Journal.Search
import Chancery.Proofs.Dashboard.Window
import Chancery.Proofs.Dashboard.Expiring
import Chancery.Proofs.Dashboard.Finishing
import Chancery.Proofs.Dashboard.ByteSize
import Chancery.Proofs.Trail.Growth
import Chancery.Proofs.Trail.Standing
import Chancery.Proofs.Trail.Receipts
import Chancery.Proofs.Trail.Faithful
import Chancery.Proofs.Office.Privilege
import Chancery.Proofs.Office.OwnSummary
import Chancery.Proofs.Office.Frame
import Chancery.Proofs.Office.Freshness
import Chancery.Proofs.Office.Refusals
import Chancery.Proofs.Text.Scanning
import Chancery.Proofs.Calendar.Reading
import Chancery.Proofs.Json.Tokens
import Chancery.Proofs.Json.RoundTrip
import Chancery.Proofs.Wire.Lawful
import Chancery.Proofs.Wire.RoundTrip
import Chancery.Proofs.Settings.Substitution
import Chancery.Proofs.Settings.Pieces
import Chancery.Proofs.Settings.Validation
import Chancery.Proofs.Settings.Lookup
import Chancery.Proofs.Calendar.Spelling
import Chancery.Proofs.Office.Dates
import Chancery.Proofs.Identifier.Spelling
import Chancery.Proofs.Acknowledgments.Creation
import Chancery.Proofs.Office.Respelling
import Chancery.Proofs.Dashboard.Resolution
import Chancery.Proofs.Office.Directory
import Chancery.Proofs.Store.Attachment
