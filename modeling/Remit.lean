import Remit.Text.Blank
import Remit.Text.CodeRanges
import Remit.Text.GraphemeExtend
import Remit.Text.Printable
import Remit.Text.Quoted
import Remit.Text.Utf8
import Remit.Numeral
import Remit.Money.Decimal
import Remit.Money.Decimal.Reader
import Remit.Money.Decimal.Scientific
import Remit.Money.Cents
import Remit.Ids
import Remit.Transfer.Kind
import Remit.Fault
import Remit.Settings
import Remit.Transfer.Lifecycle
import Remit.Transfer.Record
import Remit.Ledger.Basic
import Remit.Ledger.Funds
import Remit.Ledger.Transfers
import Remit.Engine
import Remit.Session
import Remit.Report
import Remit.Operation
import Remit.Csv.Reader
import Remit.Batch.Row
import Remit.Batch
import Remit.Store.Address
import Remit.Store.FileName
import Remit.Store.Host
import Remit.Store.Connection
import Remit.Program
import Remit.Main
import Remit.Proofs.Opening
import Remit.Proofs.Commits
import Remit.Proofs.Rollback
import Remit.Proofs.Units
import Remit.Proofs.Conservation
import Remit.Proofs.TransferLog
import Remit.Proofs.Settlement
import Remit.Proofs.Resolution
import Remit.Proofs.Sessions
import Remit.Proofs.Approvals
import Remit.Proofs.Races
import Remit.Proofs.Moves
import Remit.Proofs.Marking
import Remit.Proofs.Sends
import Remit.Proofs.WholeCents
import Remit.Proofs.Admission
import Remit.Proofs.Story
import Remit.Proofs.Snapshot
import Remit.Proofs.Histories
import Remit.Proofs.EventUnits
