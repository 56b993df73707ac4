import Paperwork.Main
import Paperwork.Session.Config
import Paperwork.Proofs.Expr.References
import Paperwork.Proofs.Sequence
import Paperwork.Proofs.Template.Declaration
import Paperwork.Proofs.Template.WellFormed
import Paperwork.Proofs.Template.Dependencies
import Paperwork.Proofs.Report.Inputs
import Paperwork.Proofs.Report.Derived
import Paperwork.Proofs.Field.Check
import Paperwork.Proofs.Report.Normal
import Paperwork.Proofs.Report.Documents
import Paperwork.Proofs.Report.Types
import Paperwork.Proofs.Disk.Path
import Paperwork.Proofs.Disk.Writing
import Paperwork.Proofs.Disk.Reading
import Paperwork.Proofs.Generation.Delivery
import Paperwork.Proofs.Generation.Independence
import Paperwork.Proofs.Generation.Containment
import Paperwork.Proofs.Generation.Overwriting
import Paperwork.Proofs.Generation.Conditions
import Paperwork.Proofs.Report.Accounting
import Paperwork.Proofs.Session.History
import Paperwork.Proofs.Session.Agreement
import Paperwork.Proofs.Generation.Rows
import Paperwork.Proofs.Template.Payloads
import Paperwork.Proofs.Package.Loading
import Paperwork.Proofs.Package.Directory
import Paperwork.Proofs.Package.Agreement
import Paperwork.Proofs.Expr.Notation
import Paperwork.Proofs.Word.Document
import Paperwork.Proofs.Word.Scanning
import Paperwork.Proofs.Report.Order
import Paperwork.Proofs.Report.Flat
import Paperwork.Proofs.Expr.Grammar
import Paperwork.Proofs.Definition.Encoding
import Paperwork.Proofs.Schema.Omission
import Paperwork.Proofs.Schema.Sample
import Paperwork.Proofs.Form
import Paperwork.Proofs.Expr.Splitting
import Paperwork.Proofs.Expr.Replacing
import Paperwork.Proofs.Word.Naming
import Paperwork.Proofs.Definition.Groups
