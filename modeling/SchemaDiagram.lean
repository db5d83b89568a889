import SchemaDiagram.Main
import SchemaDiagram.Proofs.Schema.EdgeOrigin
import SchemaDiagram.Proofs.Schema.RoundTrip
import SchemaDiagram.Proofs.Schema.FormatEdges
import SchemaDiagram.Proofs.Schema.Editing
import SchemaDiagram.Proofs.Schema.EditRun
import SchemaDiagram.Proofs.Schema.Rederivation
import SchemaDiagram.Proofs.Diagram.Change
import SchemaDiagram.Proofs.Diagram.Renaming
import SchemaDiagram.Proofs.Diagram.Coherence
import SchemaDiagram.Proofs.Diagram.Restoration
import SchemaDiagram.Proofs.Diagram.EdgeIds
import SchemaDiagram.Proofs.Diagram.Readability
import SchemaDiagram.Proofs.Diagram.Normalization
import SchemaDiagram.Proofs.Schema.Concatenation
import SchemaDiagram.Proofs.Schema.Extent
import SchemaDiagram.Proofs.Schema.Layout
import SchemaDiagram.Proofs.Schema.MissingBrace
import SchemaDiagram.Proofs.Schema.BackReference
import SchemaDiagram.Proofs.Schema.MutualReference
import SchemaDiagram.Proofs.Schema.WrittenArguments
import SchemaDiagram.Proofs.Diagram.ParallelEdges
import SchemaDiagram.Proofs.Diagram.Connection
import SchemaDiagram.Proofs.Diagram.Removal
import SchemaDiagram.Proofs.Diagram.AbsentModel
import SchemaDiagram.Proofs.Text.Halves
import SchemaDiagram.Proofs.Files.Loading
import SchemaDiagram.Proofs.CommandLine.Outcome
import SchemaDiagram.Proofs.CommandLine.Search
import SchemaDiagram.Proofs.Diagram.Search
import SchemaDiagram.Proofs.Check.SchemaText
import SchemaDiagram.Proofs.Check.Formatting
import SchemaDiagram.Proofs.Check.Consistency
import SchemaDiagram.Proofs.Settings.Projection
import SchemaDiagram.Proofs.Schema.Collection
import SchemaDiagram.Proofs.Schema.TrimmedLine
import SchemaDiagram.Proofs.Diagram.Grid
