import Outline.Command.Run
import Outline.Config.Datum
import Outline.Declaration
import Outline.Extraction
import Outline.FileSystem
import Outline.Literal
import Outline.Log
import Outline.Main
import Outline.Model
import Outline.Number
import Outline.Options
import Outline.ParseTree
import Outline.Program.Trees
import Outline.Program.Yaml.Data
import Outline.Proofs.Command.Agreement
import Outline.Proofs.Command.Output
import Outline.Proofs.Config.Replay
import Outline.Proofs.Config.Strictness
import Outline.Proofs.Extraction.Accounting
import Outline.Proofs.Extraction.Batch
import Outline.Proofs.Extraction.Discovery
import Outline.Proofs.Extraction.Labels
import Outline.Proofs.Extraction.Overflow
import Outline.Proofs.FileSystem.Growth
import Outline.Proofs.Literal.Integer
import Outline.Proofs.Literal.Quoted
import Outline.Proofs.Literal.Real
import Outline.Proofs.Model.Essentials
import Outline.Proofs.Model.Plain
import Outline.Proofs.Model.Scoping
import Outline.Proofs.Model.WellFormed
import Outline.Proofs.Number.Double
import Outline.Proofs.ParseTree.Pruning
import Outline.Proofs.ParseTree.SourceOrder
import Outline.Proofs.ParseTree.Walks
import Outline.Proofs.Text.Utf8
import Outline.Proofs.Tree.Scopes
import Outline.Proofs.Tree.Walk
import Outline.Proofs.Value.Line
import Outline.Text.Unicode
import Outline.Text.Utf8
import Outline.Value
