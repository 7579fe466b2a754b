import Wikidown.Catalog
import Wikidown.Main
import Wikidown.Proofs.Addresses
import Wikidown.Proofs.Batches
import Wikidown.Proofs.BlockConversion
import Wikidown.Proofs.Breaks
import Wikidown.Proofs.CodeDocument
import Wikidown.Proofs.Columns
import Wikidown.Proofs.Dashes
import Wikidown.Proofs.DerivedOutputs
import Wikidown.Proofs.Fences
import Wikidown.Proofs.InlineConversion
import Wikidown.Proofs.ItemRuns
import Wikidown.Proofs.LineConversion
import Wikidown.Proofs.LinkDocument
import Wikidown.Proofs.Outcomes
import Wikidown.Proofs.QuotePieces
import Wikidown.Proofs.QuotedDocument
import Wikidown.Proofs.ReadBack
import Wikidown.Proofs.Restored
import Wikidown.Proofs.SettledJobs
import Wikidown.Proofs.SourceFaults
import Wikidown.Proofs.Tags
