import TokenTables.Build.Event
import TokenTables.Main
import TokenTables.Proofs.Emit.Chain
import TokenTables.Proofs.Emit.InsertionOrder
import TokenTables.Proofs.Emit.NameTables
import TokenTables.Proofs.Emit.ChainExecution
import TokenTables.Proofs.Emit.Recognition
import TokenTables.Storage.Basic
import TokenTables.Proofs.Build.Policies
import TokenTables.Proofs.Emit.Description
import TokenTables.Proofs.Spec.Accounting
import TokenTables.Proofs.Spec.Writing
import TokenTables.Proofs.Text.StringLiteral
import TokenTables.Proofs.Trie.Continuation
import TokenTables.Proofs.Trie.Live
import TokenTables.Proofs.Trie.Holding
import TokenTables.Proofs.Trie.Overlap
import TokenTables.Proofs.Trie.OverlapReport
import TokenTables.Proofs.Emit.Targets
import TokenTables.Proofs.CommandLine.Checking
import TokenTables.Proofs.Build.WrittenFiles
import TokenTables.Proofs.Build.Words
import TokenTables.Proofs.Settings.ProjectText
import TokenTables.Proofs.Trie.Insertion
import TokenTables.Proofs.Diagnostic.Filling
import TokenTables.Proofs.Trie.Traversal
import TokenTables.Proofs.Trie.Wording
import TokenTables.Proofs.Trie.Size
import TokenTables.Proofs.Emit.ForeignTokens
import TokenTables.Proofs.Spec.Surroundings
import TokenTables.Proofs.Build.ReportOrder
import TokenTables.Proofs.Emit.Nesting
import TokenTables.Proofs.Token.Numbering
import TokenTables.Proofs.Trie.LeastContinuation
