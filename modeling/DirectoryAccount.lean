import DirectoryAccount.Account.Assessment
import DirectoryAccount.Account.Control
import DirectoryAccount.Account.Facet
import DirectoryAccount.Account.Reading
import DirectoryAccount.Attribute
import DirectoryAccount.Binary64
import DirectoryAccount.Calendar
import DirectoryAccount.Check
import DirectoryAccount.ControlFlag
import DirectoryAccount.Diagnostics
import DirectoryAccount.Failure
import DirectoryAccount.Filetime
import DirectoryAccount.GeneralizedTime.Reading
import DirectoryAccount.GeneralizedTime.Written
import DirectoryAccount.Instant
import DirectoryAccount.Proofs.Account.ControlPresence
import DirectoryAccount.Proofs.Account.ControlUnion
import DirectoryAccount.Proofs.Account.Expiry
import DirectoryAccount.Proofs.Account.Footprint
import DirectoryAccount.Proofs.Account.FourFacets
import DirectoryAccount.Proofs.Account.Log
import DirectoryAccount.Proofs.Account.MalformedTime
import DirectoryAccount.Proofs.Account.Outcome
import DirectoryAccount.Proofs.Account.Precedence
import DirectoryAccount.Proofs.Account.Printing
import DirectoryAccount.Proofs.Account.Refusal
import DirectoryAccount.Proofs.Account.TextReading
import DirectoryAccount.Proofs.Account.Validity
import DirectoryAccount.Proofs.Binary64.ErrorBound
import DirectoryAccount.Proofs.Binary64.Grid
import DirectoryAccount.Proofs.Binary64.Nearest
import DirectoryAccount.Proofs.Check
import DirectoryAccount.Proofs.ControlFlag
import DirectoryAccount.Proofs.ControlFlag.Names
import DirectoryAccount.Proofs.Filetime
import DirectoryAccount.Proofs.Filetime.Instants
import DirectoryAccount.Proofs.Filetime.Seconds
import DirectoryAccount.Proofs.GeneralizedTime.Canonical
import DirectoryAccount.Proofs.GeneralizedTime.Fraction
import DirectoryAccount.Proofs.GeneralizedTime.FractionAccuracy
import DirectoryAccount.Proofs.GeneralizedTime.Language
import DirectoryAccount.Proofs.GeneralizedTime.LocalTime
import DirectoryAccount.Proofs.GeneralizedTime.Order
import DirectoryAccount.Proofs.GeneralizedTime.RoundTrip
import DirectoryAccount.Proofs.SearchResult
import DirectoryAccount.Proofs.SearchResult.RoundTrip
import DirectoryAccount.Proofs.Session
import DirectoryAccount.Proofs.Session.Verbosity
import DirectoryAccount.Proofs.Table
import DirectoryAccount.Proofs.Text.Decimal
import DirectoryAccount.Proofs.Text.IntegerText
import DirectoryAccount.Proofs.Text.IntegerWidth
import DirectoryAccount.Proofs.Text.Markup
import DirectoryAccount.Proofs.Text.Tags
import DirectoryAccount.Proofs.Text.Utf8
import DirectoryAccount.Proofs.Text.Utf8Malformed
import DirectoryAccount.Proofs.Traversal
import DirectoryAccount.Proofs.TwosComplement
import DirectoryAccount.Proofs.ValueText
import DirectoryAccount.SearchResult
import DirectoryAccount.Session
import DirectoryAccount.Table
import DirectoryAccount.Text.Digit
import DirectoryAccount.Text.Integer
import DirectoryAccount.Text.Markup
import DirectoryAccount.Text.Printable
import DirectoryAccount.Text.Quoted
import DirectoryAccount.Text.Utf8
import DirectoryAccount.TwosComplement
import DirectoryAccount.Value
