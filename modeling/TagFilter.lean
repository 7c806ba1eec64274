import TagFilter.Main
import TagFilter.Proofs.LeafLiteral
import TagFilter.Proofs.Meaning
import TagFilter.Proofs.NodeShape
import TagFilter.Proofs.Parse
import TagFilter.Proofs.Print
import TagFilter.Proofs.TagRow
import TagFilter.Proofs.Transaction
import TagFilter.Proofs.SeedFilter
import TagFilter.Proofs.Pool
import TagFilter.Proofs.Batch
import TagFilter.Proofs.Freshness
import TagFilter.Proofs.Faithful
import TagFilter.Proofs.Fringe
import TagFilter.Proofs.Spelling
import TagFilter.Proofs.Xml
import TagFilter.Proofs.Json
import TagFilter.Proofs.InList
import TagFilter.Proofs.Severities
import TagFilter.Proofs.Relabel
import TagFilter.Proofs.Caret
import TagFilter.Proofs.Quoting
import TagFilter.Proofs.Spacing
import TagFilter.Proofs.DefaultColumn
import TagFilter.Proofs.SeedErrors
import TagFilter.Proofs.Unquote
import TagFilter.Proofs.DotCommand
import TagFilter.Proofs.Progress
