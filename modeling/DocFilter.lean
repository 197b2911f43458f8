/-
# Filters for documents

Queries over documents: clauses are compiled to filters, and filters are matched against
documents in memory.
-/

import DocFilter.Binding
import DocFilter.Calendar.Date
import DocFilter.Calendar.Moment
import DocFilter.Clause
import DocFilter.Compilation
import DocFilter.Draft
import DocFilter.ErrorReport
import DocFilter.Fault
import DocFilter.Filter
import DocFilter.Keyword
import DocFilter.Matching
import DocFilter.Number.Binary64
import DocFilter.Number.Decimal
import DocFilter.Number.Literal
import DocFilter.Number.Mixed
import DocFilter.Number.Packed
import DocFilter.Number.Scaled
import DocFilter.Operator
import DocFilter.Path
import DocFilter.Pattern.Compiled
import DocFilter.Pattern.Error
import DocFilter.Pattern.Matcher
import DocFilter.Pattern.Modes
import DocFilter.Pattern.Node
import DocFilter.Pattern.Reader
import DocFilter.Pattern.Search
import DocFilter.Pattern.Token
import DocFilter.Pattern.Wildcard
import DocFilter.Registry
import DocFilter.Session
import DocFilter.SortOrder
import DocFilter.Term
import DocFilter.Text.Alphabetic
import DocFilter.Text.Alphanumeric
import DocFilter.Text.Blank
import DocFilter.Text.CharacterName
import DocFilter.Text.DecimalDigit
import DocFilter.Text.Identifier
import DocFilter.Text.LetterCase
import DocFilter.Text.Numeral
import DocFilter.Text.Pieces
import DocFilter.Text.Printable
import DocFilter.Text.Quoted
import DocFilter.Text.Range
import DocFilter.Text.Similarity
import DocFilter.Text.UpperCase
import DocFilter.Uuid
import DocFilter.Value.Basic
import DocFilter.Value.Bracket
import DocFilter.Value.Copied
import DocFilter.Value.Display
import DocFilter.Value.Elements
import DocFilter.Value.Entries
import DocFilter.Value.Equality
import DocFilter.Value.Stored
import DocFilter.Proofs.Atomicity
import DocFilter.Proofs.Backtracking
import DocFilter.Proofs.Clashes
import DocFilter.Proofs.Compiling
import DocFilter.Proofs.Containment
import DocFilter.Proofs.Conversions
import DocFilter.Proofs.Copies
import DocFilter.Proofs.DataEquality
import DocFilter.Proofs.Decoding
import DocFilter.Proofs.Destinations
import DocFilter.Proofs.Disjunction
import DocFilter.Proofs.DottedPaths
import DocFilter.Proofs.ExactOrder
import DocFilter.Proofs.FirstFailure
import DocFilter.Proofs.Meaning
import DocFilter.Proofs.NativeData
import DocFilter.Proofs.Packing
import DocFilter.Proofs.Positions
import DocFilter.Proofs.Preservation
import DocFilter.Proofs.Queries
import DocFilter.Proofs.Ranges
import DocFilter.Proofs.Reflexivity
import DocFilter.Proofs.Registration
import DocFilter.Proofs.Rendering
import DocFilter.Proofs.Reordering
import DocFilter.Proofs.Retrieval
import DocFilter.Proofs.ScalarOrder
import DocFilter.Proofs.Schedules
import DocFilter.Proofs.Sessions
import DocFilter.Proofs.ShortCircuit
import DocFilter.Proofs.Skeleton
import DocFilter.Proofs.Slices
import DocFilter.Proofs.Spelling
import DocFilter.Proofs.StoredForms
import DocFilter.Proofs.Taking
import DocFilter.Proofs.Transparency
import DocFilter.Proofs.WildcardModes
import DocFilter.Proofs.WildcardReading
