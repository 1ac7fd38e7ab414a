import LineScope.Text.Lines
import LineScope.Text.CaseMapping
import LineScope.Selector.Parser
import LineScope.Selector.Match
import LineScope.Pattern.CharSet
import LineScope.Pattern.Error
import LineScope.Pattern.Basic
import LineScope.Pattern.Class
import LineScope.Pattern.Parser
import LineScope.Pattern.Matcher
import LineScope.Pattern.Anchor
import LineScope.Pattern.Engine
import LineScope.Pattern.Reference
import LineScope.Scope
import LineScope.Grammar.Document.Reader
import LineScope.Grammar.Document.Writer
import LineScope.Grammar.Compile
import LineScope.Grammar.Reach
import LineScope.Injection
import LineScope.Theme.Reader
import LineScope.Registry
import LineScope.FileTree
import LineScope.Main
import LineScope.Proofs.Pattern.Sound
import LineScope.Proofs.Line.Contender
import LineScope.Proofs.Line.Winner
import LineScope.Proofs.Line.Reach
import LineScope.Proofs.Line.Expansion
import LineScope.Proofs.Line.FirstLine
import LineScope.Proofs.Line.Partition
import LineScope.Proofs.Line.Interchange
import LineScope.Proofs.Line.Progress
import LineScope.Proofs.Line.GroupScopes
import LineScope.Proofs.Line.Retokenized
import LineScope.Proofs.Selector.Longest
import LineScope.Proofs.Selector.Embedding
import LineScope.Proofs.Selector.Fault
import LineScope.Proofs.Registry.History
import LineScope.Proofs.Registry.Refusal
import LineScope.Proofs.Grammar.Include
import LineScope.Proofs.Grammar.DocumentText
import LineScope.Proofs.Grammar.CleanCheck
import LineScope.Proofs.Grammar.Location
import LineScope.Proofs.Grammar.Arena
import LineScope.Proofs.Line.GroupEnds
import LineScope.Proofs.Line.Encoded
import LineScope.Proofs.Pattern.References
import LineScope.Proofs.Pattern.Disallowed
import LineScope.Proofs.Selector.Ranking
import LineScope.Proofs.Selector.Joining
import LineScope.Proofs.Line.WhileConditions
import LineScope.Proofs.Grammar.Faults
import LineScope.Proofs.Line.Packing
import LineScope.Proofs.Cli.FileOrder
