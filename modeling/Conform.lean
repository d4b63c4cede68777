import Conform.Main
import Conform.Proofs.Checker.Report
import Conform.Proofs.Checker.Returns
import Conform.Proofs.Schema.RoundTrip
import Conform.Schema.Equality
import Conform.Value.JsonReader
import Conform.Proofs.Value.Json
import Conform.Proofs.Schema.Validity
import Conform.Proofs.Checker.Meaning
import Conform.Proofs.Document.Node
import Conform.Proofs.Document.Conversion
import Conform.Proofs.Document.Acceptance
import Conform.Proofs.Document.Compilation
import Conform.Proofs.Document.Rendered
import Conform.Proofs.Document.Failure
import Conform.Proofs.Yaml.Load
import Conform.Proofs.FileCheck
import Conform.Proofs.Checker.Message
import Conform.Proofs.CommandLine.Report
import Conform.Proofs.CommandLine.Verdict
import Conform.Proofs.Document.Cache
import Conform.Proofs.Yaml.Positions
import Conform.Proofs.CommandLine.Commands
import Conform.Proofs.CommandLine.Output
import Conform.Proofs.Value.JsonReader
import Conform.Proofs.Document.Records
import Conform.Proofs.Value.Equivalence
import Conform.Proofs.Checker.Literal
import Conform.Proofs.Checker.Congruence
import Conform.Proofs.Checker.Order
import Conform.Proofs.Schema.Rewriting
import Conform.Proofs.Checker.Loosening
import Conform.Proofs.Checker.Compiled
import Conform.Proofs.Checker.Regrouping
import Conform.Proofs.SourceMap.Search
import Conform.Proofs.Yaml.Repeated
import Conform.Proofs.Checker.Missing
import Conform.Proofs.Yaml.Stale
import Conform.Proofs.Pointer.Resolution
import Conform.Proofs.Schema.Nodes
import Conform.Proofs.Checker.Refusal
import Conform.Proofs.Schema.Composed
import Conform.Proofs.Checker.Faults
import Conform.Proofs.Checker.WellFormed
import Conform.Proofs.Checker.Location
import Conform.Proofs.Document.Children
import Conform.Proofs.Document.Offender
import Conform.Proofs.Document.Lookup
import Conform.Proofs.Document.Written
import Conform.Proofs.Document.Gate
import Conform.Proofs.Pointer.Decoding
