import TileRules.Json.Printer
import TileRules.Json.Reader
import TileRules.Json.Record
import TileRules.RuleSet
import TileRules.Summary.Text
import TileRules.Text.Blank
import TileRules.Text.Number
import TileRules.Text.Quoted
import TileRules.Timestamp.Text
import TileRules.Digest.Sha256
import TileRules.Gzip
import TileRules.Files
import TileRules.Document.Rules
import TileRules.Toml.Reader
import TileRules.Config.Documents
import TileRules.Build
import TileRules.CommandLine.Compile
import TileRules.CommandLine.Inspect
import TileRules.Main
import TileRules.Proofs.Decoding
import TileRules.Proofs.Flattening
import TileRules.Proofs.Loading
import TileRules.Proofs.Lookalike
import TileRules.Proofs.Registration
import TileRules.Proofs.Depth
import TileRules.Proofs.Additions
import TileRules.Proofs.Hidden
import TileRules.Proofs.Reauthoring
import TileRules.Proofs.Verification
import TileRules.Proofs.Positive
import TileRules.Proofs.DepthPolicy
import TileRules.Proofs.Documents
import TileRules.Proofs.Build
import TileRules.Proofs.Negation
import TileRules.Proofs.Capacity
import TileRules.Proofs.Checked
import TileRules.Proofs.Overflow
import TileRules.Proofs.Inspection
import TileRules.Proofs.Partial
import TileRules.Proofs.Walk
import TileRules.Proofs.Region
