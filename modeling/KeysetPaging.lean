import KeysetPaging.Diagnostics
import KeysetPaging.Sql.Query
import KeysetPaging.Proofs.Keyset.After
import KeysetPaging.Proofs.Sql.Compile
import KeysetPaging.Proofs.Sql.Resume
import KeysetPaging.Proofs.Decimal.Text
import KeysetPaging.Proofs.Calendar.Text
import KeysetPaging.Proofs.Guid
import KeysetPaging.Proofs.Literal.RoundTrip
import KeysetPaging.Proofs.Token.RoundTrip
import KeysetPaging.Proofs.Query.Order
import KeysetPaging.Proofs.Query.Sorting
import KeysetPaging.Proofs.Text.Utf8
import KeysetPaging.Proofs.Uri.Percent
import KeysetPaging.Proofs.NextLink
import KeysetPaging.Proofs.Keyset.Order
import KeysetPaging.Proofs.Query.Memory
import KeysetPaging.Proofs.Handler
import KeysetPaging.Proofs.Walk
import KeysetPaging.Proofs.Session
import KeysetPaging.Proofs.Decimal.Integer
import KeysetPaging.Proofs.Token.Surrogate
import KeysetPaging.Proofs.LinkToken
import KeysetPaging.Proofs.Resumption
import KeysetPaging.Proofs.Sql.Meaning
import KeysetPaging.Proofs.Keyset.StrictOrder
import KeysetPaging.Proofs.Query.Filtering
import KeysetPaging.Proofs.Keyset.Parameters
import KeysetPaging.Proofs.LinkChain
import KeysetPaging.Proofs.Token.FieldByField
import KeysetPaging.Proofs.Literal.Acceptance
import KeysetPaging.Proofs.Token.Acceptance
import KeysetPaging.Proofs.Token.Reencoding
import KeysetPaging.Proofs.Token.Tag
import KeysetPaging.Proofs.Decimal.Acceptance
import KeysetPaging.Proofs.Calendar.Acceptance
import KeysetPaging.Proofs.Literal.Shape
import KeysetPaging.Proofs.Literal.Declared
import KeysetPaging.Proofs.Literal.Canonical
import KeysetPaging.Proofs.Literal.Agreement
import KeysetPaging.Proofs.Keyset.Repetition
import KeysetPaging.Proofs.Decimal.Fixed96
import KeysetPaging.Proofs.Sql.Numbers
import KeysetPaging.Proofs.Sql.Installation
import KeysetPaging.Proofs.Token.Distinction
import KeysetPaging.Proofs.SurrogateWalk
import KeysetPaging.Proofs.SortOrder.Grammar
import KeysetPaging.Proofs.LinkQuery
import KeysetPaging.Proofs.LinkOffer
import KeysetPaging.Proofs.SurrogateResumption
import KeysetPaging.Proofs.SortOrder.Display
import KeysetPaging.Proofs.Query.Conjunction
import KeysetPaging.Proofs.Filter.Coherence
import KeysetPaging.Proofs.Literal.Members
import KeysetPaging.Proofs.Literal.Strings
import KeysetPaging.Proofs.Token.Pieces
import KeysetPaging.Proofs.FirstOccurrence
import KeysetPaging.Proofs.Schema.Declarations
import KeysetPaging.Proofs.Token.Selection
