import StatementTables.Main
import StatementTables.Storage.FileTree
import StatementTables.Proofs.Formula.Parsing
import StatementTables.Proofs.Evaluation.Cycles
import StatementTables.Proofs.Evaluation.Equations
import StatementTables.Proofs.Evaluation.Index
import StatementTables.Proofs.Evaluation.Locality
import StatementTables.Proofs.Evaluation.Failure
import StatementTables.Proofs.Evaluation.Rearrangement
import StatementTables.Proofs.Table.Segment
import StatementTables.Proofs.Table.Header
import StatementTables.Proofs.Table.Pivot
import StatementTables.Proofs.Report.Tables
import StatementTables.Proofs.Report.Layout
import StatementTables.Proofs.Report.Pages
import StatementTables.Proofs.Report.Deviations
import StatementTables.Proofs.Report.Secondary
import StatementTables.Proofs.Cell.Order
import StatementTables.Proofs.Report.Order
import StatementTables.Proofs.Evaluation.Order
import StatementTables.Proofs.Report.Accounts
import StatementTables.Proofs.Report.Titles
import StatementTables.Proofs.Inventory.Agreement
import StatementTables.Proofs.Evaluation.Accounts
import StatementTables.Proofs.Evaluation.Propagation
import StatementTables.Proofs.Evaluation.Overflow
import StatementTables.Proofs.Formula.Printing
import StatementTables.Proofs.Formula.Spellings
import StatementTables.Proofs.Formula.Normalization
import StatementTables.Proofs.Cell.Occurrences
import StatementTables.Proofs.Table.Partition
import StatementTables.Proofs.Table.Spans
import StatementTables.Proofs.Cell.Settling
import StatementTables.Proofs.Table.Sparse
import StatementTables.Proofs.Table.Columns
import StatementTables.Proofs.Table.Readers
import StatementTables.Proofs.Table.HiddenRows
import StatementTables.Proofs.Cell.Amounts
import StatementTables.Proofs.Cell.Canonical
import StatementTables.Proofs.Cell.Numbers
import StatementTables.Proofs.Json.Values
import StatementTables.Proofs.Report.Assembly
import StatementTables.Proofs.Report.TitleInfo
import StatementTables.Proofs.Inventory.Partition
import StatementTables.Proofs.Run.Reconciliation
import StatementTables.Proofs.Evaluation.Ranges
import StatementTables.Proofs.Table.Filling
import StatementTables.Proofs.Table.Anchors
import StatementTables.Proofs.Formula.Joining
