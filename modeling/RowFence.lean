import RowFence.Database.Connection
import RowFence.Database.PoolConfig
import RowFence.Main
import RowFence.Proofs.Meaning.Scoping
import RowFence.Proofs.Meaning.Passing
import RowFence.Proofs.Meaning.Lookup
import RowFence.Proofs.Meaning.ViewEquivalence
import RowFence.Proofs.Meaning.JoinIsolation
import RowFence.Proofs.Scope.Queries
import RowFence.Proofs.Scope.Reach
import RowFence.Proofs.Scope.Erasure
import RowFence.Proofs.Scope.Additions
import RowFence.Proofs.Scope.Trace
import RowFence.Proofs.Scope.Once
import RowFence.Proofs.Sql.Construct
import RowFence.Proofs.Filter.Calls
import RowFence.Proofs.Meaning.Pending
import RowFence.Proofs.Meaning.Writes
import RowFence.Proofs.Meaning.JoinLeaks
import RowFence.Proofs.Session.Scopes
import RowFence.Proofs.Server.Binding
import RowFence.Proofs.Sql.ExprReading
import RowFence.Proofs.Sql.FormTexts
import RowFence.Proofs.Sql.QueryReading
import RowFence.Proofs.Scope.FormScoping
import RowFence.Proofs.Scope.Reparsing
import RowFence.Proofs.Filter.Splicing
import RowFence.Proofs.Sql.Respelling
import RowFence.Proofs.Scope.Tenants
import RowFence.Proofs.Server.Startup
import RowFence.Proofs.Session.Moments
import RowFence.Proofs.Session.Current
import RowFence.Proofs.Session.Connections
import RowFence.Proofs.Server.RequestIds
import RowFence.Proofs.Scope.Outline
import RowFence.Proofs.Scope.Lexical
import RowFence.Proofs.Scope.Exemption
import RowFence.Proofs.Policy.Exclusion
import RowFence.Proofs.Policy.CanonicalName
import RowFence.Proofs.Scope.TableFunctions
import RowFence.Proofs.Sql.Precedence
import RowFence.Proofs.Scope.Conjunction
import RowFence.Proofs.Sql.FormPrecedence
import RowFence.Proofs.Tenant.Resolution
import RowFence.Proofs.Server.ExcludedPaths
import RowFence.Proofs.Tenant.Hosts
import RowFence.Proofs.Scope.TenantColumns
import RowFence.Proofs.Filter.Keywords
import RowFence.Proofs.Scope.Slots
import RowFence.Proofs.Scope.Filling
import RowFence.Proofs.Scope.Insertions
import RowFence.Proofs.Scope.MoreExclusions
import RowFence.Proofs.Scope.Rescoping
import RowFence.Proofs.Meaning.Repetition
import RowFence.Proofs.Tenant.Directory
import RowFence.Proofs.Tenant.Ids
import RowFence.Proofs.Policy.PathPattern
import RowFence.Proofs.Policy.ConfigJson
import RowFence.Proofs.Scope.HandedOver
