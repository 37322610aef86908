import GraphText.Float64.Basic
import GraphText.Float64.Decimal
import GraphText.Graph.Literal
import GraphText.Graph.Node
import GraphText.Graph.Object
import GraphText.Graph.Predicate
import GraphText.Graph.Reify
import GraphText.Graph.Triple
import GraphText.Instant.Basic
import GraphText.Instant.Timestamp
import GraphText.Json.Basic
import GraphText.Json.Graph
import GraphText.Json.Query
import GraphText.Json.Read
import GraphText.Json.Write
import GraphText.Proofs.BackPressure
import GraphText.Proofs.Blanks
import GraphText.Proofs.Boundaries
import GraphText.Proofs.CanonicalNodes
import GraphText.Proofs.Concatenation
import GraphText.Proofs.Days
import GraphText.Proofs.Delimiters
import GraphText.Proofs.DisplayTokens
import GraphText.Proofs.DraftRuns
import GraphText.Proofs.Escapes
import GraphText.Proofs.FloatText
import GraphText.Proofs.GraphLexemes
import GraphText.Proofs.HexText
import GraphText.Proofs.JsonText
import GraphText.Proofs.KeywordForms
import GraphText.Proofs.LexemeEnds
import GraphText.Proofs.LineFaults
import GraphText.Proofs.LineGrammar
import GraphText.Proofs.LineRoundTrip
import GraphText.Proofs.LiteralGrammar
import GraphText.Proofs.LiteralText
import GraphText.Proofs.LooseTimestamps
import GraphText.Proofs.LowerForms
import GraphText.Proofs.MadeTriples
import GraphText.Proofs.Markers
import GraphText.Proofs.NodeText
import GraphText.Proofs.Numerals
import GraphText.Proofs.ObjectEquality
import GraphText.Proofs.ObjectForms
import GraphText.Proofs.ObjectText
import GraphText.Proofs.Places
import GraphText.Proofs.Positions
import GraphText.Proofs.PredicateText
import GraphText.Proofs.QuotedLexemes
import GraphText.Proofs.Reading
import GraphText.Proofs.Reification
import GraphText.Proofs.ReifiedParts
import GraphText.Proofs.Restart
import GraphText.Proofs.Rounding
import GraphText.Proofs.Scanning
import GraphText.Proofs.SizeLimits
import GraphText.Proofs.Spacing
import GraphText.Proofs.StoredForms
import GraphText.Proofs.StoredVariants
import GraphText.Proofs.StreamOrder
import GraphText.Proofs.TextOrder
import GraphText.Proofs.TimestampGrammar
import GraphText.Proofs.Timestamps
import GraphText.Proofs.TokenPartition
import GraphText.Proofs.TokenReading
import GraphText.Proofs.UnquotedLexemes
import GraphText.Query.Keyword
import GraphText.Query.Lexeme
import GraphText.Query.Lexer
import GraphText.Query.Reader
import GraphText.Query.Scanner
import GraphText.Query.Stream
import GraphText.Query.Token
import GraphText.Text.Basic
import GraphText.Text.Classes
import GraphText.Text.Lowercase
import GraphText.Text.Number
import GraphText.Text.Quoted
