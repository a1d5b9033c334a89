import ListingCrawl.Agent.Basic
import ListingCrawl.Agent.Codex
import ListingCrawl.Agent.Gemini
import ListingCrawl.Agent.Program
import ListingCrawl.Agent.Tool
import ListingCrawl.Answer.Issue
import ListingCrawl.Answer.Objects
import ListingCrawl.Artifact.Document
import ListingCrawl.Artifact.FinalRecord
import ListingCrawl.Artifact.PageState
import ListingCrawl.Artifact.Pointer
import ListingCrawl.Artifact.Snapshot
import ListingCrawl.Command.Line
import ListingCrawl.Command.Run
import ListingCrawl.Decimal.Shortest
import ListingCrawl.Devtools
import ListingCrawl.Environment
import ListingCrawl.Files.Path
import ListingCrawl.Files.Tree
import ListingCrawl.Job.Basic
import ListingCrawl.Job.Error
import ListingCrawl.Job.Plan
import ListingCrawl.Job.Provenance
import ListingCrawl.Job.Recovery
import ListingCrawl.Job.Repair
import ListingCrawl.Job.ResultFile
import ListingCrawl.Job.Run
import ListingCrawl.Json.Basic
import ListingCrawl.Json.Lexical
import ListingCrawl.Json.Printer
import ListingCrawl.Json.Reader
import ListingCrawl.Json.Settled
import ListingCrawl.Json.Shape
import ListingCrawl.Main
import ListingCrawl.Marketplace
import ListingCrawl.Prompt.Basic
import ListingCrawl.Prompt.Schema
import ListingCrawl.Proofs.Agent.Exchange
import ListingCrawl.Proofs.Agent.Wrapper
import ListingCrawl.Proofs.Answer.CutOff
import ListingCrawl.Proofs.Answer.Diagnosis
import ListingCrawl.Proofs.Answer.Order
import ListingCrawl.Proofs.Answer.Presentation
import ListingCrawl.Proofs.Answer.Search
import ListingCrawl.Proofs.Answer.Structural
import ListingCrawl.Proofs.Answer.Whole
import ListingCrawl.Proofs.Artifact.FileReference
import ListingCrawl.Proofs.Artifact.Fragment
import ListingCrawl.Proofs.Artifact.Join
import ListingCrawl.Proofs.Artifact.OptionalFiles
import ListingCrawl.Proofs.Artifact.RawControls
import ListingCrawl.Proofs.Artifact.RunDirectory
import ListingCrawl.Proofs.Except
import ListingCrawl.Proofs.Files.Clean
import ListingCrawl.Proofs.Files.Components
import ListingCrawl.Proofs.Files.Directories
import ListingCrawl.Proofs.Files.Place
import ListingCrawl.Proofs.Files.Region
import ListingCrawl.Proofs.Files.Tree
import ListingCrawl.Proofs.Files.Writing
import ListingCrawl.Proofs.Job.Acceptance
import ListingCrawl.Proofs.Job.Advisory
import ListingCrawl.Proofs.Job.Calls
import ListingCrawl.Proofs.Job.Choice
import ListingCrawl.Proofs.Job.Confinement
import ListingCrawl.Proofs.Job.Course
import ListingCrawl.Proofs.Job.Direct
import ListingCrawl.Proofs.Job.Facts
import ListingCrawl.Proofs.Job.FinalRecord
import ListingCrawl.Proofs.Job.Interleaving
import ListingCrawl.Proofs.Job.Message
import ListingCrawl.Proofs.Job.Outcome
import ListingCrawl.Proofs.Job.Provenance
import ListingCrawl.Proofs.Job.Ready
import ListingCrawl.Proofs.Job.Repair
import ListingCrawl.Proofs.Job.Report
import ListingCrawl.Proofs.Job.ResultFile
import ListingCrawl.Proofs.Job.SnapshotRun
import ListingCrawl.Proofs.Job.Steps
import ListingCrawl.Proofs.Job.Stored
import ListingCrawl.Proofs.Json.AsRead
import ListingCrawl.Proofs.Json.ClosingBrace
import ListingCrawl.Proofs.Json.EscapedControls
import ListingCrawl.Proofs.Json.Fields
import ListingCrawl.Proofs.Json.Locality
import ListingCrawl.Proofs.Json.Nesting
import ListingCrawl.Proofs.Json.Numerals
import ListingCrawl.Proofs.Json.ObjectText
import ListingCrawl.Proofs.Json.Respelling
import ListingCrawl.Proofs.Json.RoundTrip
import ListingCrawl.Proofs.Json.Strings
import ListingCrawl.Proofs.Marketplace
import ListingCrawl.Proofs.Record.AsRead
import ListingCrawl.Proofs.Record.Canonical
import ListingCrawl.Proofs.Record.Conformance
import ListingCrawl.Proofs.Record.Contract
import ListingCrawl.Proofs.Record.Frame
import ListingCrawl.Proofs.Record.Images
import ListingCrawl.Proofs.Record.NormalForm
import ListingCrawl.Proofs.Record.Preservation
import ListingCrawl.Proofs.Record.Rule
import ListingCrawl.Proofs.Record.Verdict
import ListingCrawl.Proofs.Schema.Contract
import ListingCrawl.Proofs.Schema.Faults
import ListingCrawl.Proofs.Text.Decoding
import ListingCrawl.Proofs.Text.Octets
import ListingCrawl.Proofs.Text.Trim
import ListingCrawl.Proofs.Text.Upper
import ListingCrawl.Proofs.Time.Instant
import ListingCrawl.Record.Basic
import ListingCrawl.Record.Contract
import ListingCrawl.Record.Images
import ListingCrawl.Record.Normal
import ListingCrawl.Request
import ListingCrawl.Skill
import ListingCrawl.Text.Basic
import ListingCrawl.Text.Octets
import ListingCrawl.Text.Printable
import ListingCrawl.Text.Quoted
import ListingCrawl.Text.Upper
import ListingCrawl.Time.Instant
import ListingCrawl.Time.Rfc3339
import ListingCrawl.Url.Address
import ListingCrawl.Url.Domain
import ListingCrawl.Url.DomainTable
import ListingCrawl.Url.Path
import ListingCrawl.Url.Percent
import ListingCrawl.Url.Punycode
import ListingCrawl.Url.Reader
