import WordingAudit.Config.Encode
import WordingAudit.Json.Printer
import WordingAudit.Main
import WordingAudit.Proofs.Traced
import WordingAudit.Proofs.Equivalence
import WordingAudit.Proofs.Modes
import WordingAudit.Proofs.Chain
import WordingAudit.Proofs.RuleSet
import WordingAudit.Proofs.Pattern.Groups
import WordingAudit.Proofs.Replacement
import WordingAudit.Proofs.Pattern.Fits
import WordingAudit.Proofs.Pattern.Code
import WordingAudit.Proofs.Pattern.Search
import WordingAudit.Proofs.Pattern.Occurrences
import WordingAudit.Proofs.Pattern.Reading
import WordingAudit.Proofs.Wildcard
import WordingAudit.Proofs.Selection
import WordingAudit.Proofs.Validation
import WordingAudit.Proofs.Pattern.Captures
import WordingAudit.Proofs.Extraction
import WordingAudit.Proofs.Files.Places
import WordingAudit.Proofs.Files.Listing
import WordingAudit.Proofs.Walk
import WordingAudit.Proofs.Scan
import WordingAudit.Proofs.Collection
import WordingAudit.Proofs.Composition
import WordingAudit.Proofs.Reported
import WordingAudit.Proofs.Links
import WordingAudit.Proofs.Failures
import WordingAudit.Proofs.Entries
import WordingAudit.Proofs.Json.Tree
import WordingAudit.Proofs.Flattening
import WordingAudit.Proofs.Flattened
import WordingAudit.Proofs.Compilation
import WordingAudit.Proofs.Contents
import WordingAudit.Proofs.Stages
import WordingAudit.Proofs.Json.Values
import WordingAudit.Proofs.Json.Sized
import WordingAudit.Proofs.Json.Records
import WordingAudit.Proofs.RuleFields
import WordingAudit.Proofs.Spelling
import WordingAudit.Proofs.Repetition
import WordingAudit.Proofs.Ranges
import WordingAudit.Proofs.Json.Rendering
import WordingAudit.Proofs.Json.Writing
import WordingAudit.Proofs.Settings
import WordingAudit.Proofs.Leniency
import WordingAudit.Proofs.Resolution
import WordingAudit.Proofs.Utf8
import WordingAudit.Proofs.Fetching
import WordingAudit.Proofs.Files.Parents
import WordingAudit.Proofs.Files.Placement
import WordingAudit.Proofs.Relocation
import WordingAudit.Proofs.Agreement
import WordingAudit.Proofs.Depth
import WordingAudit.Proofs.Printed
