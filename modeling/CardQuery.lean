import CardQuery.Action
import CardQuery.Board
import CardQuery.Card
import CardQuery.Card.Definition
import CardQuery.Card.Properties
import CardQuery.Card.Property
import CardQuery.Card.Registry
import CardQuery.Card.Tag
import CardQuery.Config
import CardQuery.Counters
import CardQuery.Engine
import CardQuery.Entity
import CardQuery.Event
import CardQuery.Fault
import CardQuery.Json
import CardQuery.Json.Forms
import CardQuery.Number
import CardQuery.Pattern
import CardQuery.Pattern.Bracket
import CardQuery.Pattern.Encoding
import CardQuery.Pattern.Escape
import CardQuery.Pattern.Expr
import CardQuery.Pattern.Flags
import CardQuery.Pattern.Footprint
import CardQuery.Pattern.Form
import CardQuery.Pattern.NamedSet
import CardQuery.Pattern.Reading
import CardQuery.Player
import CardQuery.Random
import CardQuery.Random.Keystream
import CardQuery.ResultSet
import CardQuery.Selector.Compile
import CardQuery.Selector.Error
import CardQuery.Selector.Filter
import CardQuery.Selector.Operator
import CardQuery.Selector.Shortcut
import CardQuery.Selector.Token
import CardQuery.Table
import CardQuery.Text.Blank
import CardQuery.Text.Decimal
import CardQuery.Text.Quoted
import CardQuery.Unicode.Added
import CardQuery.Unicode.Age
import CardQuery.Unicode.AgeRuns
import CardQuery.Unicode.CaseFold
import CardQuery.Unicode.Category
import CardQuery.Unicode.CategoryRuns
import CardQuery.Unicode.Classes
import CardQuery.Unicode.Listed
import CardQuery.Unicode.Property
import CardQuery.Unicode.RangeSet
import CardQuery.Unicode.Script
import CardQuery.Unicode.ScriptRuns
import CardQuery.Unicode.Segmentation
import CardQuery.Zone
import CardQuery.Proofs.Accounts
import CardQuery.Proofs.Anchors
import CardQuery.Proofs.Applying
import CardQuery.Proofs.Brackets
import CardQuery.Proofs.Broadening
import CardQuery.Proofs.Caps
import CardQuery.Proofs.Catalogue
import CardQuery.Proofs.Clauses
import CardQuery.Proofs.Collecting
import CardQuery.Proofs.Comparing
import CardQuery.Proofs.Drafting
import CardQuery.Proofs.Enclosed
import CardQuery.Proofs.Equating
import CardQuery.Proofs.Framing
import CardQuery.Proofs.Groups
import CardQuery.Proofs.Healing
import CardQuery.Proofs.Insertions
import CardQuery.Proofs.Kinds
import CardQuery.Proofs.Literals
import CardQuery.Proofs.Matching
import CardQuery.Proofs.Meaning
import CardQuery.Proofs.Narrowing
import CardQuery.Proofs.Numbering
import CardQuery.Proofs.Ordering
import CardQuery.Proofs.Outcomes
import CardQuery.Proofs.OwnerWords
import CardQuery.Proofs.Partition
import CardQuery.Proofs.Perspectives
import CardQuery.Proofs.Pieces
import CardQuery.Proofs.Policies
import CardQuery.Proofs.Ranking
import CardQuery.Proofs.Refusals
import CardQuery.Proofs.Removing
import CardQuery.Proofs.Rendering
import CardQuery.Proofs.Reordering
import CardQuery.Proofs.Reporting
import CardQuery.Proofs.Reselecting
import CardQuery.Proofs.Rosters
import CardQuery.Proofs.RoundTrips
import CardQuery.Proofs.Selecting
import CardQuery.Proofs.Session
import CardQuery.Proofs.Shifting
import CardQuery.Proofs.ShortcutWords
import CardQuery.Proofs.Shortcuts
import CardQuery.Proofs.Spacing
import CardQuery.Proofs.Sparing
import CardQuery.Proofs.Spelling
import CardQuery.Proofs.Spells
import CardQuery.Proofs.Summing
import CardQuery.Proofs.Tagging
import CardQuery.Proofs.Tidiness
import CardQuery.Proofs.Visits
import CardQuery.Proofs.WordSets
import CardQuery.Proofs.Words
import CardQuery.Proofs.Writing
