import SqlSafetyProxy.Coroutine.Interleaving
import SqlSafetyProxy.Sql.SafeClass
import SqlSafetyProxy.Sql.WhereDetection
import SqlSafetyProxy.Runtime.Decision
import SqlSafetyProxy.Collections.Dict
import SqlSafetyProxy.Postgres.Parameters
import SqlSafetyProxy.Postgres.Protocol
import SqlSafetyProxy.Postgres.Connection
import SqlSafetyProxy.Postgres.Handlers
import SqlSafetyProxy.Postgres.Course
import SqlSafetyProxy.Postgres.Relay
import SqlSafetyProxy.Postgres.Mediation
import SqlSafetyProxy.Postgres.ClientStream
import SqlSafetyProxy.Postgres.Fidelity
import SqlSafetyProxy.MySql.DispatchMediation
import SqlSafetyProxy.MySql.SessionInvariant
import SqlSafetyProxy.MySql.ResponseTracking
import SqlSafetyProxy.MySql.Moves
import SqlSafetyProxy.MySql.DispatchMediation
import SqlSafetyProxy.Postgres.Portals
import SqlSafetyProxy.Postgres.Gaps
import SqlSafetyProxy.Postgres.Batches
import SqlSafetyProxy.Postgres.ResponseOrder
import SqlSafetyProxy.Postgres.Readiness
import SqlSafetyProxy.MySql.Splitting
import SqlSafetyProxy.MySql.Comments
import SqlSafetyProxy.MySql.Attention
import SqlSafetyProxy.MySql.Standing
import SqlSafetyProxy.MySql.Serving
import SqlSafetyProxy.MySql.Lockstep
import SqlSafetyProxy.Postgres.Framing
import SqlSafetyProxy.MySql.Framing
import SqlSafetyProxy.Postgres.Registries
import SqlSafetyProxy.Collections.Archive
import SqlSafetyProxy.Runtime.AuditLog
import SqlSafetyProxy.Wire.Reader
import SqlSafetyProxy.MySql.ParameterFormat
import SqlSafetyProxy.MySql.Reconstruction
import SqlSafetyProxy.MySql.Lexing
import SqlSafetyProxy.MySql.Substitution
import SqlSafetyProxy.MySql.Seams
import SqlSafetyProxy.Postgres.Guesses
import SqlSafetyProxy.Postgres.Lexing
import SqlSafetyProxy.Postgres.Previews
import SqlSafetyProxy.Postgres.Substitution
import SqlSafetyProxy.Postgres.LiteralPreviews
import SqlSafetyProxy.Policy.Danger
import SqlSafetyProxy.Postgres.MessageFormat
import SqlSafetyProxy.MySql.Handshake
import SqlSafetyProxy.MySql.Cursors
import SqlSafetyProxy.Collections.Patterns
import SqlSafetyProxy.Runtime.Sanitization
import SqlSafetyProxy.Runtime.Quotations
import SqlSafetyProxy.Runtime.Clauses
import SqlSafetyProxy.Runtime.Credentials
import SqlSafetyProxy.Runtime.SecondPass
import SqlSafetyProxy.Runtime.StringConstants
import SqlSafetyProxy.Postgres.StringConstants
import SqlSafetyProxy.MySql.StringConstants
import SqlSafetyProxy.Runtime.Disclosure
import SqlSafetyProxy.MySql.Relay
import SqlSafetyProxy.MySql.Inspection
import SqlSafetyProxy.MySql.Ledger
import SqlSafetyProxy.MySql.Accounting
import SqlSafetyProxy.MySql.Schemas
import SqlSafetyProxy.MySql.Catalog
import SqlSafetyProxy.MySql.Preparation
import SqlSafetyProxy.MySql.Registry
import SqlSafetyProxy.MySql.Statements
import SqlSafetyProxy.MySql.Authentication
import SqlSafetyProxy.Coroutine.Within
import SqlSafetyProxy.Postgres.Conveyance
import SqlSafetyProxy.MySql.Answers
