import Soliscope.Abi.Interface
import Soliscope.Abi.SolidityType
import Soliscope.Argument
import Soliscope.Compiler.Compile
import Soliscope.Compiler.Input
import Soliscope.Compiler.Invocation
import Soliscope.Compiler.Output
import Soliscope.Compiler.Result
import Soliscope.Compiler.Version
import Soliscope.Compression.Bits
import Soliscope.Compression.Checksum
import Soliscope.Compression.Format
import Soliscope.Compression.Inflate
import Soliscope.Compression.PrefixCode
import Soliscope.Explorer.Call
import Soliscope.Explorer.ChainId
import Soliscope.Explorer.Endpoint
import Soliscope.Explorer.Envelope
import Soliscope.Explorer.Failure
import Soliscope.Explorer.Header
import Soliscope.Explorer.Redaction
import Soliscope.Explorer.Redirection
import Soliscope.Explorer.Request
import Soliscope.Explorer.Status
import Soliscope.Explorer.Verification
import Soliscope.Json.Basic
import Soliscope.Json.Display
import Soliscope.Json.Finite
import Soliscope.Json.Reader
import Soliscope.Json.Writer
import Soliscope.Number.Binary64
import Soliscope.Number.Digits
import Soliscope.Number.Written
import Soliscope.Scan.Catalog
import Soliscope.Scan.Pattern
import Soliscope.Scan.Report
import Soliscope.Scan.Rule
import Soliscope.Scan.Score
import Soliscope.Scan.Severity
import Soliscope.Schema.Field
import Soliscope.Schema.Issue
import Soliscope.Schema.Number
import Soliscope.Schema.Time
import Soliscope.Schema.Validation
import Soliscope.Settings.Basic
import Soliscope.Settings.EnvFile
import Soliscope.Settings.Load
import Soliscope.Settings.Verbosity
import Soliscope.Solidity.Declaration
import Soliscope.Solidity.Import
import Soliscope.Solidity.Structure
import Soliscope.Text.Ascii
import Soliscope.Text.Blank
import Soliscope.Text.CaseRun
import Soliscope.Text.CodeRanges
import Soliscope.Text.DecimalDigit
import Soliscope.Text.Direction
import Soliscope.Text.Encoding
import Soliscope.Text.Identifier
import Soliscope.Text.Joining
import Soliscope.Text.Lines
import Soliscope.Text.Lower
import Soliscope.Text.Mark
import Soliscope.Text.Normal
import Soliscope.Text.Printable
import Soliscope.Text.Quoted
import Soliscope.Text.Script
import Soliscope.Text.Search
import Soliscope.Text.Upper
import Soliscope.Text.Utf8
import Soliscope.Text.Word
import Soliscope.Trace
import Soliscope.Url.Basic
import Soliscope.Url.DomainLetter
import Soliscope.Url.DomainName
import Soliscope.Url.Form
import Soliscope.Url.Host
import Soliscope.Url.Join
import Soliscope.Url.Percent
import Soliscope.Url.Punycode
import Soliscope.Web.AnswerDocuments
import Soliscope.Web.App
import Soliscope.Web.Cors
import Soliscope.Web.Location
import Soliscope.Web.Message
import Soliscope.Web.RequestDocuments
import Soliscope.Web.Routes
import Soliscope.Proofs.Compiler.Completion
import Soliscope.Proofs.Compiler.Diagnostics
import Soliscope.Proofs.Explorer.CallSecrecy
import Soliscope.Proofs.Explorer.Calls
import Soliscope.Proofs.Explorer.Dossiers
import Soliscope.Proofs.Explorer.Envelopes
import Soliscope.Proofs.Explorer.KeySecrecy
import Soliscope.Proofs.Explorer.LongPlaces
import Soliscope.Proofs.Explorer.Messages
import Soliscope.Proofs.Explorer.Polling
import Soliscope.Proofs.Explorer.Redaction
import Soliscope.Proofs.Explorer.Redirections
import Soliscope.Proofs.Explorer.Requests
import Soliscope.Proofs.Explorer.Transmission
import Soliscope.Proofs.Json.Depth
import Soliscope.Proofs.Schema.Acceptance
import Soliscope.Proofs.Text.Utf8
import Soliscope.Proofs.Url.Addresses
import Soliscope.Proofs.Url.Characters
import Soliscope.Proofs.Url.Forms
import Soliscope.Proofs.Url.Hosts
import Soliscope.Proofs.Url.Reading
import Soliscope.Proofs.Url.References
import Soliscope.Proofs.Json.Integers
import Soliscope.Proofs.Json.RoundTrip
import Soliscope.Proofs.Compiler.Handover
import Soliscope.Proofs.Explorer.Completion
import Soliscope.Proofs.Explorer.Submissions
import Soliscope.Proofs.Explorer.JobIds
import Soliscope.Proofs.Web.Compilations
import Soliscope.Proofs.Web.Interfaces
import Soliscope.Proofs.Web.ParameterNames
import Soliscope.Proofs.Abi.Agreement
import Soliscope.Proofs.Scan.Joining
import Soliscope.Proofs.Web.Effects
import Soliscope.Proofs.Solidity.Flattening
import Soliscope.Proofs.Solidity.Removal
import Soliscope.Proofs.Solidity.Inlining
import Soliscope.Proofs.Scan.Languages
import Soliscope.Proofs.Number.Decimals
import Soliscope.Proofs.Scan.Findings
import Soliscope.Proofs.Scan.LineEndings
import Soliscope.Proofs.Scan.Badges
import Soliscope.Proofs.Json.Names
import Soliscope.Proofs.Json.Display
import Soliscope.Proofs.Compiler.Artifacts
import Soliscope.Proofs.Explorer.Lookups
import Soliscope.Proofs.Text.Runs
import Soliscope.Proofs.Solidity.Declarations
import Soliscope.Proofs.Explorer.Masking
import Soliscope.Proofs.Explorer.RedactedLogs
import Soliscope.Proofs.Abi.Arrays
import Soliscope.Proofs.Settings.LogLevels
import Soliscope.Proofs.Explorer.MaskedKeys
import Soliscope.Proofs.Abi.TypeNames
