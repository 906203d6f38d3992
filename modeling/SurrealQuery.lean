import SurrealQuery.CommandLine
import SurrealQuery.Main
import SurrealQuery.Query.Build
import SurrealQuery.Proofs.Acceptance
import SurrealQuery.Proofs.Inlining
import SurrealQuery.Proofs.Noninterference
import SurrealQuery.Proofs.Insertion
import SurrealQuery.Proofs.Subquery
import SurrealQuery.Proofs.Canonical
import SurrealQuery.Proofs.Codec.Query
import SurrealQuery.Proofs.TablePrefix
import SurrealQuery.Proofs.Quoting
import SurrealQuery.Proofs.Place
import SurrealQuery.Proofs.Pruning
import SurrealQuery.Proofs.Edge
import SurrealQuery.Proofs.Report
import SurrealQuery.Proofs.Routing
import SurrealQuery.Proofs.Conflict
import SurrealQuery.Proofs.Content
import SurrealQuery.Proofs.Deletion
import SurrealQuery.Proofs.Duration
import SurrealQuery.Proofs.Address
import SurrealQuery.Proofs.Codec.Denotation
import SurrealQuery.Proofs.Erasure
import SurrealQuery.Proofs.Projection
import SurrealQuery.Proofs.Alias
import SurrealQuery.Proofs.Operator
import SurrealQuery.Proofs.InsertionOrder
