import OracleSchema.Trees
import OracleSchema.Traced
import OracleSchema.Settings
import OracleSchema.SqlTree
import OracleSchema.SqlGate
import OracleSchema.Scoping
import OracleSchema.References
import OracleSchema.RowBound
import OracleSchema.Json
import OracleSchema.QueryContext
import OracleSchema.SeenSets
import OracleSchema.Replay
import OracleSchema.Floats
import OracleSchema.Execution
import OracleSchema.Pipeline
import OracleSchema.Sharing
import OracleSchema.Queries
import OracleSchema.Dictionary
import OracleSchema.Tools
import OracleSchema.Runs
import OracleSchema.Ledgers
import OracleSchema.Pool
import OracleSchema.PoolTasks
import OracleSchema.Printing
import OracleSchema.Numerals
import OracleSchema.Decoding
import OracleSchema.JsonReader
import OracleSchema.Reading
import OracleSchema.Values
import OracleSchema.Canonical
import OracleSchema.Digests
import OracleSchema.Codec
import OracleSchema.Escapes
import OracleSchema.Session
import OracleSchema.Placeholders
import OracleSchema.Requests
import OracleSchema.RowLimits
import OracleSchema.Cuts
import OracleSchema.Capping
import OracleSchema.Keyed
import OracleSchema.Projection
import OracleSchema.Truncation
import OracleSchema.Nesting
import OracleSchema.Boundary
import OracleSchema.Rotation
import OracleSchema.Timeouts
import OracleSchema.Failures
import OracleSchema.Couplings
import OracleSchema.Secrets
import OracleSchema.Rebuilds
import OracleSchema.Startup
import OracleSchema.Pages
import OracleSchema.ForeignKeys
import OracleSchema.Bearer
import OracleSchema.Credential
import OracleSchema.Instants
import OracleSchema.Dispatch
import OracleSchema.Serial
import OracleSchema.Listings
import OracleSchema.Catalog
import OracleSchema.Progress
import OracleSchema.Rendering
import OracleSchema.Provenance
import OracleSchema.Meaning
import OracleSchema.Confinement
import OracleSchema.Admission
import OracleSchema.Undisturbed
import OracleSchema.Service
import OracleSchema.Recovery
import OracleSchema.Isolation
