import HybridQuery.Clause
import HybridQuery.Column
import HybridQuery.DateTime
import HybridQuery.Error
import HybridQuery.Kind
import HybridQuery.Literal
import HybridQuery.Logged
import HybridQuery.Number.Binary64
import HybridQuery.Number.Shortest
import HybridQuery.Operator
import HybridQuery.Order
import HybridQuery.Pattern
import HybridQuery.Query.Basic
import HybridQuery.Query.Event
import HybridQuery.Query.Plan
import HybridQuery.Query.Split
import HybridQuery.Regex.Automaton
import HybridQuery.Regex.Automaton.Set
import HybridQuery.Regex.Automaton.Size
import HybridQuery.Regex.Automaton.Trie
import HybridQuery.Regex.Class
import HybridQuery.Regex.Escape
import HybridQuery.Regex.Expr
import HybridQuery.Regex.Fault
import HybridQuery.Regex.Folding
import HybridQuery.Regex.Group
import HybridQuery.Regex.Mode
import HybridQuery.Regex.Parser
import HybridQuery.Regex.Property
import HybridQuery.Regex.Property.Age
import HybridQuery.Regex.Property.Binary
import HybridQuery.Regex.Property.Boundary
import HybridQuery.Regex.Property.Catalogue
import HybridQuery.Regex.Property.Category
import HybridQuery.Regex.Property.Script
import HybridQuery.Regex.Simplify
import HybridQuery.Regex.Tree
import HybridQuery.Regex.Utf8
import HybridQuery.Relational.ClauseCondition
import HybridQuery.Relational.Condition
import HybridQuery.Relational.Select
import HybridQuery.Relational.Statement
import HybridQuery.Search.Compiler
import HybridQuery.Search.Dialect
import HybridQuery.Search.Draft
import HybridQuery.Search.Escape
import HybridQuery.Search.Predicate
import HybridQuery.Search.Rendering
import HybridQuery.Table.Code
import HybridQuery.Table.Declaration
import HybridQuery.Table.SnakeCase
import HybridQuery.Text.Inspect
import HybridQuery.Text.Quoting
import HybridQuery.Text.Similarity
import HybridQuery.Text.Trim
import HybridQuery.Text.Words
import HybridQuery.Unicode.Case
import HybridQuery.Unicode.Category
import HybridQuery.Unicode.CodeSet
import HybridQuery.Proofs.Accessors
import HybridQuery.Proofs.AlikeClauses
import HybridQuery.Proofs.Applying
import HybridQuery.Proofs.BoundValues
import HybridQuery.Proofs.Building
import HybridQuery.Proofs.Choices
import HybridQuery.Proofs.ClauseConditions
import HybridQuery.Proofs.Compilation
import HybridQuery.Proofs.Course
import HybridQuery.Proofs.Declarations
import HybridQuery.Proofs.EqualClauses
import HybridQuery.Proofs.ErasedOperators
import HybridQuery.Proofs.Escaping
import HybridQuery.Proofs.Failures
import HybridQuery.Proofs.FusedOrder
import HybridQuery.Proofs.GroupReader
import HybridQuery.Proofs.Joiners
import HybridQuery.Proofs.Ledger
import HybridQuery.Proofs.LiteralRelations
import HybridQuery.Proofs.Logged
import HybridQuery.Proofs.Marks
import HybridQuery.Proofs.Nesting
import HybridQuery.Proofs.Notes
import HybridQuery.Proofs.Numerals
import HybridQuery.Proofs.Paging
import HybridQuery.Proofs.Phrases
import HybridQuery.Proofs.Placeholders
import HybridQuery.Proofs.PlannedTable
import HybridQuery.Proofs.Planning
import HybridQuery.Proofs.Quantities
import HybridQuery.Proofs.QuotedRuns
import HybridQuery.Proofs.Regrouping
import HybridQuery.Proofs.Reports
import HybridQuery.Proofs.Searchable
import HybridQuery.Proofs.SearchedTable
import HybridQuery.Proofs.Splitter
import HybridQuery.Proofs.Splitting
import HybridQuery.Proofs.SqlConditions
import HybridQuery.Proofs.SqlFormula
import HybridQuery.Proofs.SqlReading
import HybridQuery.Proofs.SqlTokens
import HybridQuery.Proofs.StrayMarks
import HybridQuery.Proofs.Template
import HybridQuery.Proofs.Testable
import HybridQuery.Proofs.Tests
import HybridQuery.Proofs.Trace
import HybridQuery.Proofs.Tree
import HybridQuery.Proofs.Truth
import HybridQuery.Proofs.Unescaping
import HybridQuery.Proofs.Written
