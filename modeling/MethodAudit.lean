import MethodAudit.Batch
import MethodAudit.Cache
import MethodAudit.CommandLine
import MethodAudit.Decimal.Double
import MethodAudit.Decl
import MethodAudit.Digest
import MethodAudit.Discovery
import MethodAudit.Dump
import MethodAudit.Dump.Reader
import MethodAudit.Dump.Writer
import MethodAudit.Event
import MethodAudit.Failure
import MethodAudit.Files.Path
import MethodAudit.Files.Tree
import MethodAudit.Hierarchy
import MethodAudit.Json.Decoder
import MethodAudit.Json.Fault
import MethodAudit.Json.Node
import MethodAudit.Json.Number
import MethodAudit.Json.Numeral
import MethodAudit.Json.Position
import MethodAudit.Json.Reading
import MethodAudit.Json.Spelling
import MethodAudit.Json.Token
import MethodAudit.Json.Value
import MethodAudit.KeyedList
import MethodAudit.Main
import MethodAudit.NameTable
import MethodAudit.Pattern
import MethodAudit.Pattern.Automaton
import MethodAudit.Pattern.Bracket
import MethodAudit.Pattern.Cursor
import MethodAudit.Pattern.Escape
import MethodAudit.Pattern.Fault
import MethodAudit.Pattern.Form
import MethodAudit.Pattern.Look
import MethodAudit.Pattern.Meaning
import MethodAudit.Pattern.Reader
import MethodAudit.Pattern.Search
import MethodAudit.Pattern.SetBuild
import MethodAudit.Pattern.Tree
import MethodAudit.Pattern.TreeBuild
import MethodAudit.Pattern.Utf8
import MethodAudit.Proofs.Accounting
import MethodAudit.Proofs.Adoption
import MethodAudit.Proofs.Ahead
import MethodAudit.Proofs.Ancestry
import MethodAudit.Proofs.Body
import MethodAudit.Proofs.CacheFile
import MethodAudit.Proofs.CacheRoundTrip
import MethodAudit.Proofs.CacheText
import MethodAudit.Proofs.Coherence
import MethodAudit.Proofs.Discovery
import MethodAudit.Proofs.DumpMembers
import MethodAudit.Proofs.DumpOrder
import MethodAudit.Proofs.DumpShape
import MethodAudit.Proofs.ExitCode
import MethodAudit.Proofs.Exported
import MethodAudit.Proofs.Files.Down
import MethodAudit.Proofs.Files.Entry
import MethodAudit.Proofs.Files.Path
import MethodAudit.Proofs.Files.Tree
import MethodAudit.Proofs.Filtering
import MethodAudit.Proofs.Findings
import MethodAudit.Proofs.Folding
import MethodAudit.Proofs.Hierarchy
import MethodAudit.Proofs.Idempotence
import MethodAudit.Proofs.Independence
import MethodAudit.Proofs.Json.Decode
import MethodAudit.Proofs.Json.Filling
import MethodAudit.Proofs.Json.Grammar
import MethodAudit.Proofs.Json.Meaning
import MethodAudit.Proofs.Json.Tokens
import MethodAudit.Proofs.Json.Tree
import MethodAudit.Proofs.Kinship
import MethodAudit.Proofs.Monotone
import MethodAudit.Proofs.Mutual
import MethodAudit.Proofs.NameTable
import MethodAudit.Proofs.Reordering
import MethodAudit.Proofs.Resolution
import MethodAudit.Proofs.Resolved
import MethodAudit.Proofs.Saving
import MethodAudit.Proofs.StmtMeaning
import MethodAudit.Proofs.StmtMembers
import MethodAudit.Proofs.StoredCache
import MethodAudit.Proofs.Surface
import MethodAudit.Proofs.Transparency
import MethodAudit.Proofs.Usage
import MethodAudit.Report
import MethodAudit.Rule
import MethodAudit.Run
import MethodAudit.Settings
import MethodAudit.SourceUnit
import MethodAudit.Stmt
import MethodAudit.Surface
import MethodAudit.Text.Age
import MethodAudit.Text.Category
import MethodAudit.Text.CharSet
import MethodAudit.Text.Classes
import MethodAudit.Text.Hex
import MethodAudit.Text.Printable
import MethodAudit.Text.Property
import MethodAudit.Text.Ranges
import MethodAudit.Text.Script
import MethodAudit.Text.Segment
import MethodAudit.Text.Table
import MethodAudit.Text.Trait
import MethodAudit.Text.Upper
import MethodAudit.Toml
import MethodAudit.Toml.Quoted
import MethodAudit.Toml.Reader
import MethodAudit.Toml.Scalar
import MethodAudit.Verdict
import MethodAudit.Violation
