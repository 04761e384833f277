import CycleLedger.Proofs.Core.Consistency
import CycleLedger.Proofs.Core.WellFormed
import CycleLedger.Proofs.Forms.Records
import CycleLedger.Proofs.Ledger.Figures
import CycleLedger.Proofs.Ledger.Refusal
import CycleLedger.Proofs.Ledger.Summary
import CycleLedger.Proofs.Report.Members
import CycleLedger.Proofs.Session.Finish
import CycleLedger.Proofs.Session.Forcing
import CycleLedger.Proofs.Session.GateLog
import CycleLedger.Proofs.Session.HistoryText
import CycleLedger.Proofs.Session.Signals
import CycleLedger.Proofs.Settings.Overrides
import CycleLedger.Proofs.Testbench.Turns
import CycleLedger.Proofs.Window.Openings
