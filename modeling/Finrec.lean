import Finrec.Lib.CrashTraces
import Finrec.Lib.CrashLogic
import Finrec.Updater.CrashSafety
import Finrec.Lib.Names
import Finrec.Lib.Patterns
import Finrec.SystemUpdate.Idempotence
import Finrec.SystemUpdate.Outcomes
import Finrec.SystemUpdate.Page
import Finrec.Updater.Docker
import Finrec.Updater.Inspections
import Finrec.Updater.Installation
import Finrec.Updater.LastCheck
import Finrec.Updater.PendingCleanup
import Finrec.Updater.PersistVersion
import Finrec.Updater.Slot
import Finrec.Updater.CleanupRecovery
import Finrec.Reconciliation.Candidates
import Finrec.Reconciliation.Reversals
import Finrec.Reporting.OpenAmounts
import Finrec.Reporting.SupplierViews
import Finrec.Reporting.Coverage
import Finrec.Reporting.Dashboard
import Finrec.Reporting.Conservation
import Finrec.Ledger.Effects
import Finrec.Reconciliation.Acceptance
import Finrec.Lib.Digits
import Finrec.Lib.Doubles
import Finrec.Lib.Decimal
import Finrec.Lib.Calendar
import Finrec.Lib.Checks
import Finrec.Lib.Totals
import Finrec.Ledger.Models
import Finrec.Reconciliation.Services
import Finrec.Reconciliation.Settlements
import Finrec.Reconciliation.Presenters
import Finrec.Imports.Types
import Finrec.Imports.Parsers
import Finrec.Imports.Services
import Finrec.Imports.Confirmation
import Finrec.Imports.Staging
import Finrec.Ledger.Operations
import Finrec.Ledger.Invariant
import Finrec.Reconciliation.Confirmable
import Finrec.Imports.Detection
import Finrec.Imports.Documents
import Finrec.Imports.Mirror
import Finrec.Imports.ParsedRows
import Finrec.Imports.Overlaps
import Finrec.Reconciliation.SettledOnce
import Finrec.Reconciliation.Forms
import Finrec.Reconciliation.WindowSearch
import Finrec.Reconciliation.Workbench
import Finrec.Reconciliation.Agreement
import Finrec.Imports.Splits
import Finrec.Imports.RowErrors
import Finrec.Imports.Identity
import Finrec.Imports.PostedRows
import Finrec.Imports.Snapshots
import Finrec.Lib.Json
import Finrec.Updater.StateFile
import Finrec.Updater.TargetIdentity
import Finrec.Updater.CleanupCommands
import Finrec.Updater.CleanupResumes
import Finrec.Imports.Culprits
import Finrec.AtomicHelper.Recovery
import Finrec.Lib.JsonText
import Finrec.Updater.StateStore
import Finrec.Lib.StepJournals
import Finrec.Lib.CrashObservers
import Finrec.Updater.WatchedManager
import Finrec.Updater.WriteAhead
import Finrec.Reporting.ClosedDays
import Finrec.Reporting.Debts
import Finrec.Lib.RowLocks
import Finrec.Lib.TableChanges
import Finrec.Concurrency.Locks
import Finrec.Concurrency.Statements
import Finrec.Concurrency.Reconciling
import Finrec.Concurrency.ImportStatements
import Finrec.Concurrency.Importing
import Finrec.Concurrency.Interleavings
