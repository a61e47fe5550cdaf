import XmlGraft.Document.Writes
import XmlGraft.Document.ToValue
import XmlGraft.Proofs.Outcome
import XmlGraft.Proofs.Path.Written
import XmlGraft.Proofs.Path.Cutting
import XmlGraft.Proofs.Path.Derivation
import XmlGraft.Proofs.Path.Acceptance
import XmlGraft.Proofs.Path.Spelling
import XmlGraft.Proofs.Path.WellFormed
import XmlGraft.Proofs.Path.RoundTrip
import XmlGraft.Proofs.Xml.Plain
import XmlGraft.Proofs.Document.Designation
import XmlGraft.Proofs.Document.Upsert
import XmlGraft.Proofs.Document.Root
import XmlGraft.Proofs.Document.Walk
import XmlGraft.Proofs.Document.Outcomes
import XmlGraft.Proofs.Document.Preservation
import XmlGraft.Proofs.Document.Count
import XmlGraft.Proofs.Document.Repetition
import XmlGraft.Proofs.Document.Edits
import XmlGraft.Proofs.Document.Building
import XmlGraft.Proofs.Document.Replay
import XmlGraft.Proofs.Data.Grouping
import XmlGraft.Proofs.Data.NormalForm
import XmlGraft.Proofs.Document.Reading
import XmlGraft.Proofs.Document.ReadBack
import XmlGraft.Proofs.Data.Tidy
import XmlGraft.Proofs.Document.Footprint
import XmlGraft.Proofs.Document.AppendOnly
import XmlGraft.Proofs.Data.Mappings
import XmlGraft.Proofs.Document.Independence
import XmlGraft.Proofs.Document.Positional
import XmlGraft.Proofs.Document.Merge
import XmlGraft.Proofs.Document.Upheld
import XmlGraft.Proofs.Xml.Marker
import XmlGraft.Proofs.Xml.Scanned
import XmlGraft.Proofs.Document.SavedData
import XmlGraft.Proofs.Data.Adjacency
import XmlGraft.Proofs.Data.Mentions
import XmlGraft.Proofs.Xml.Outline
import XmlGraft.Proofs.Document.Regrouping
import XmlGraft.Proofs.Document.Rebuilding
import XmlGraft.Proofs.Document.Routes
import XmlGraft.Proofs.Xml.Hollow
import XmlGraft.Proofs.Document.Layout
import XmlGraft.Proofs.Path.FirstFault
import XmlGraft.Proofs.Data.Lookup
import XmlGraft.Proofs.Document.Retrieval
import XmlGraft.Proofs.Document.Commutation
import XmlGraft.Proofs.Data.Comparison
import XmlGraft.Proofs.Document.Legibility
import XmlGraft.Proofs.Document.Visibility
import XmlGraft.Proofs.Document.Refusal
import XmlGraft.Proofs.Document.Admission
import XmlGraft.Proofs.Document.WriteFaults
import XmlGraft.Proofs.Document.Restating
import XmlGraft.Proofs.Data.Sameness
import XmlGraft.Proofs.Path.Writing
import XmlGraft.Proofs.Document.Partition
