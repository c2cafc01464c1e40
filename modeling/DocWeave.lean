import DocWeave.Unicode.Runs
import DocWeave.Unicode.Letter
import DocWeave.Unicode.Numeric
import DocWeave.Unicode.Printable
import DocWeave.Unicode.CaseContext
import DocWeave.Unicode.CaseMap
import DocWeave.Text.Basic
import DocWeave.Text.Slice
import DocWeave.Text.Case
import DocWeave.Text.Quoted
import DocWeave.Source.Position
import DocWeave.Source.Range
import DocWeave.Source.Span
import DocWeave.Diagnostic
import DocWeave.Statement.Type
import DocWeave.Statement.Basic
import DocWeave.Statement.Describe
import DocWeave.Statement.Build
import DocWeave.Options
import DocWeave.Comment.Body
import DocWeave.Comment.Attachment
import DocWeave.Tag.Line
import DocWeave.Tag.Block
import DocWeave.Outline.Order
import DocWeave.Outline.Siblings
import DocWeave.Outline.Entry
import DocWeave.Shape.Basic
import DocWeave.Shape.Namespace
import DocWeave.Reconcile.Lines
import DocWeave.Reconcile.Callable
import DocWeave.Reconcile.Container
import DocWeave.Step
import DocWeave.Emission
import DocWeave.ModuleName
import DocWeave.Convert
import DocWeave.Proofs.Reconcile.Entries
import DocWeave.Proofs.Reconcile.Feeding
import DocWeave.Proofs.Reconcile.Accounting
import DocWeave.Proofs.Outline.Trees
import DocWeave.Proofs.Emission.CodeText
import DocWeave.Proofs.Emission.BareCode
import DocWeave.Proofs.Emission.Run
import DocWeave.Proofs.Shape.Dotted
import DocWeave.Proofs.Emission.Placement
import DocWeave.Proofs.Emission.Containers
import DocWeave.Proofs.Text.Trimming
import DocWeave.Proofs.Comment.ReadBack
import DocWeave.Proofs.Emission.SourceOrder
import DocWeave.Proofs.Outline.Selection
import DocWeave.Proofs.Emission.Detached
import DocWeave.Proofs.Emission.Composition
import DocWeave.Proofs.Outline.Shift
import DocWeave.Proofs.Convert.Relocation
import DocWeave.Proofs.Convert.Remarks
import DocWeave.Proofs.Convert.Failure
import DocWeave.Proofs.Tag.Clauses
import DocWeave.Proofs.Tag.Reading
import DocWeave.Proofs.Reconcile.OneLineEach
import DocWeave.Proofs.Reconcile.RoundTrip
import DocWeave.Proofs.Reconcile.SingleTags
import DocWeave.Proofs.Emission.ContainerDocs
import DocWeave.Proofs.Emission.Memberships
import DocWeave.Proofs.Tag.Anatomy
import DocWeave.Proofs.Tag.Closers
import DocWeave.Proofs.Tag.History
import DocWeave.Proofs.Emission.ClassText
import DocWeave.Proofs.Source.Offsets
import DocWeave.Proofs.ModuleName.Search
import DocWeave.Proofs.Convert.ModuleLine
import DocWeave.Proofs.Comment.OneLine
import DocWeave.Proofs.ModuleName.FileNames
import DocWeave.Proofs.Source.Located
import DocWeave.Proofs.Reconcile.LineFeeds
import DocWeave.Proofs.Emission.Framing
