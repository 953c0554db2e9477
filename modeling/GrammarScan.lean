import GrammarScan.Line.Blocks
import GrammarScan.Line.Tokens
import GrammarScan.Pattern.Piece
import GrammarScan.Proofs.Pattern.Effective
import GrammarScan.Proofs.Regular.Ways
import GrammarScan.Proofs.Search.Session
import GrammarScan.Regex
import GrammarScan.Search.Cache
import GrammarScan.Search.Scanner
import GrammarScan.Text.Bytes
import GrammarScan.Proofs.Regular.Runs
import GrammarScan.Proofs.Regular.Live
import GrammarScan.Proofs.Regular.Leftmost
import GrammarScan.Proofs.Expression.Constructs
import GrammarScan.Proofs.Regular.Code
import GrammarScan.Proofs.Regular.Numbering
import GrammarScan.Proofs.Ensures
import GrammarScan.Proofs.Backtrack.Attempts
import GrammarScan.Proofs.Backtrack.Code
import GrammarScan.Proofs.Expression.Steps
import GrammarScan.Proofs.Expression.Parser
import GrammarScan.Proofs.Search.Reuse
import GrammarScan.Proofs.Labels
import GrammarScan.Proofs.Regular.Nesting
import GrammarScan.Proofs.Backtrack.Nesting
import GrammarScan.Proofs.Backtrack.Order
import GrammarScan.Proofs.Expression.Numbering
import GrammarScan.Proofs.Expression.Literal
import GrammarScan.Proofs.Search.Memory
import GrammarScan.Proofs.Search.Scanning
import GrammarScan.Proofs.Search.Answers
import GrammarScan.Proofs.Search.Captured
import GrammarScan.Text.OffsetWords
import GrammarScan.Proofs.Search.Caching
import GrammarScan.Proofs.Text.Columns
import GrammarScan.Proofs.Regular.Row
import GrammarScan.Proofs.Regular.RowTrees
import GrammarScan.Proofs.Expression.Anchored
import GrammarScan.Proofs.Backtrack.CheckTrees
import GrammarScan.Proofs.Search.Anchored
import GrammarScan.Proofs.Search.TextEnd
import GrammarScan.Pattern.Splice
import GrammarScan.Proofs.Text.Surrogates
import GrammarScan.Proofs.Text.Selections
import GrammarScan.Proofs.Pattern.References
import GrammarScan.Proofs.Search.AnchorsLeft
import GrammarScan.Proofs.Search.Probing
import GrammarScan.Proofs.Line.Cutting
import GrammarScan.Proofs.Text.Ascii
import GrammarScan.Pattern.Escaped
import GrammarScan.Pattern.Scan
import GrammarScan.Proofs.Pattern.Escaping
import GrammarScan.Proofs.Pattern.Pairs
import GrammarScan.Proofs.Pattern.Preparation
import GrammarScan.Proofs.Text.Captures
import GrammarScan.Proofs.Search.Laws
import GrammarScan.Proofs.Search.Items
import GrammarScan.Proofs.Regex.Reuse
import GrammarScan.Proofs.Regex.Captures
import GrammarScan.Proofs.Regex.Items
