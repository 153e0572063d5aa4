import TiberoFdw.Lib.Proc
import TiberoFdw.Lib.SqlText
import TiberoFdw.Postgres
import TiberoFdw.Conditions
import TiberoFdw.Verdict
import TiberoFdw.Deparse
import TiberoFdw.Render
import TiberoFdw.StringLiterals
import TiberoFdw.Lib.Markers
import TiberoFdw.Lib.OperatorRuns
import TiberoFdw.Lib.Numeral
import TiberoFdw.Lib.Calendar
import TiberoFdw.Lib.FormatMask
import TiberoFdw.Datetimes
import TiberoFdw.Constants
import TiberoFdw.TargetList
import TiberoFdw.Deparsable
import TiberoFdw.Operators
import TiberoFdw.Lib.Terms
import TiberoFdw.Operands
import TiberoFdw.WhereText
import TiberoFdw.Lib.Like
import TiberoFdw.Lib.Truth
import TiberoFdw.StringQuals
import TiberoFdw.LikeQuals
import TiberoFdw.Plan
import TiberoFdw.Options
import TiberoFdw.OptionLists
import TiberoFdw.Driver
import TiberoFdw.Connection
import TiberoFdw.Remote
import TiberoFdw.Calls
import TiberoFdw.Lib.KeyValue
import TiberoFdw.ConnString
import TiberoFdw.Sessions
import TiberoFdw.Success
import TiberoFdw.Transaction
import TiberoFdw.Invalidation
import TiberoFdw.Retry
import TiberoFdw.Bracketing
import TiberoFdw.Modify
import TiberoFdw.Inserts
import TiberoFdw.InsertRun
import TiberoFdw.OutputFunctions
import TiberoFdw.Scan
import TiberoFdw.Batches
import TiberoFdw.Callbacks
import TiberoFdw.OneEntry
import TiberoFdw.CommitErrors
import TiberoFdw.AbortErrors
import TiberoFdw.Bindings
import TiberoFdw.Settled
import TiberoFdw.Snapshots
import TiberoFdw.Freshness
import TiberoFdw.SharedSnapshot
import TiberoFdw.Accounts
import TiberoFdw.Handles
import TiberoFdw.LiveHandles
import TiberoFdw.OwnedStatements
import TiberoFdw.Lib.Versions
import TiberoFdw.OptionChanges
import TiberoFdw.Placeholders
import TiberoFdw.SleepFlag
import TiberoFdw.FlagEvents
import TiberoFdw.Lib.Separated
import TiberoFdw.Statements
import TiberoFdw.Lib.Denotation
import TiberoFdw.Meaning
import TiberoFdw.ScanResult
import TiberoFdw.InsertResult
import TiberoFdw.SessionRecords
import TiberoFdw.FailStop
import TiberoFdw.PartialCommits
import TiberoFdw.Lib.Cells
import TiberoFdw.Lib.Simulation
import TiberoFdw.Buffers
import TiberoFdw.BufferedScan
import TiberoFdw.IdleConnections
import TiberoFdw.Lib.Savepoints
import TiberoFdw.Savepoints
import TiberoFdw.Decided
import TiberoFdw.Signals
