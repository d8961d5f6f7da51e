import RecordSql.Main
import RecordSql.Session
import RecordSql.Proofs.Store.KeyGenerator
import RecordSql.Proofs.Session.Coverage
import RecordSql.Proofs.Transaction.Schedules
import RecordSql.Proofs.Store.Steps
import RecordSql.Proofs.Store.Soundness
import RecordSql.Proofs.Store.Log
import RecordSql.Proofs.Store.Readings
import RecordSql.Proofs.Transaction.Update
import RecordSql.Proofs.Handle.Attachment
import RecordSql.Proofs.Handle.Stranding
import RecordSql.Proofs.Transaction.Completion
import RecordSql.Proofs.Session.Service
import RecordSql.Proofs.Handle.Conduct
import RecordSql.Proofs.Store.Failures
import RecordSql.Proofs.Store.Faults
import RecordSql.Proofs.Store.Independence
import RecordSql.Proofs.Session.Inert
import RecordSql.Proofs.Transaction.Conduct
import RecordSql.Proofs.Handle.Holdings
import RecordSql.Proofs.Session.History
import RecordSql.Proofs.Session.Holdings
import RecordSql.Proofs.Handle.Mirror
import RecordSql.Proofs.Handle.Growth
import RecordSql.Proofs.Session.Growth
import RecordSql.Proofs.Transaction.Atomicity
import RecordSql.Proofs.Transaction.Agreement
import RecordSql.Proofs.Statement.Canonical
import RecordSql.Proofs.Transaction.Rejection
import RecordSql.Proofs.Store.Lifetimes
import RecordSql.Proofs.Transaction.Dealings
import RecordSql.Proofs.Session.Dealings
import RecordSql.Proofs.Transaction.Accounting
import RecordSql.Proofs.Replay.Accounting
import RecordSql.Proofs.Binary64.WholeNumbers
import RecordSql.Proofs.Record.Survival
import RecordSql.Proofs.Value.Reporting
import RecordSql.Proofs.Transaction.Provenance
import RecordSql.Proofs.Replay.Provenance
import RecordSql.Proofs.Statement.Forms
import RecordSql.Proofs.Statement.Places
import RecordSql.Proofs.Statement.Collection
import RecordSql.Proofs.Binary64.ExactValues
import RecordSql.Proofs.Text.Numerals
import RecordSql.Proofs.Statement.Key
import RecordSql.Proofs.Statement.Parameters
import RecordSql.Proofs.Statement.Surroundings
import RecordSql.Proofs.Handle.Version
import RecordSql.Proofs.Transaction.Stages
import RecordSql.Proofs.Session.Registry
import RecordSql.Proofs.Handle.Lifecycle
