import CrudSql.Build
import CrudSql.Config
import CrudSql.EntityMap
import CrudSql.Predicate.Json
import CrudSql.Registry
import CrudSql.Proofs.Shape
import CrudSql.Proofs.FieldSet.Algebra
import CrudSql.Proofs.Paging.Numbered
import CrudSql.Proofs.Aligned
import CrudSql.Proofs.Correlated
import CrudSql.Proofs.Predicate.Unambiguous
import CrudSql.Proofs.Identity
import CrudSql.Proofs.ColumnCache.Text
import CrudSql.Proofs.Update
import CrudSql.Proofs.Field.Quoted
import CrudSql.Proofs.Hints
import CrudSql.Proofs.Batch.Growth
import CrudSql.Proofs.Reported
import CrudSql.Proofs.Ident.Spelling
import CrudSql.Proofs.Predicate.Json
import CrudSql.Proofs.Predicate.Push
import CrudSql.Proofs.ParameterName.Search
import CrudSql.Proofs.Log
