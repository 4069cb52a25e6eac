import LispEditor.Character.Alphanumeric
import LispEditor.Character.Blank
import LispEditor.Character.Cased
import LispEditor.Character.ClusterClass
import LispEditor.Character.Emoji
import LispEditor.Character.Extend
import LispEditor.Character.LowerCase
import LispEditor.Character.Printable
import LispEditor.Character.Range
import LispEditor.Character.Width
import LispEditor.Command
import LispEditor.Config.Action
import LispEditor.Config.Basic
import LispEditor.Config.Bindings
import LispEditor.Config.Environment
import LispEditor.Config.Reader
import LispEditor.Config.Storage
import LispEditor.Config.Writer
import LispEditor.Document
import LispEditor.Edit
import LispEditor.Editor.Basic
import LispEditor.Editor.Key
import LispEditor.Editor.Screen
import LispEditor.Editor.Turn
import LispEditor.Evaluation
import LispEditor.Files.Path
import LispEditor.Files.Tree
import LispEditor.Form.Basic
import LispEditor.Form.Before
import LispEditor.Form.Matching
import LispEditor.Launch
import LispEditor.Log
import LispEditor.Main
import LispEditor.Number.Binary64
import LispEditor.Proofs.Balance
import LispEditor.Proofs.BeforeCaret
import LispEditor.Proofs.Bindings
import LispEditor.Proofs.Bytes
import LispEditor.Proofs.Caret
import LispEditor.Proofs.Checked
import LispEditor.Proofs.Coherence
import LispEditor.Proofs.Conservation
import LispEditor.Proofs.Context
import LispEditor.Proofs.Crossing
import LispEditor.Proofs.DocumentLines
import LispEditor.Proofs.Editing
import LispEditor.Proofs.Extents
import LispEditor.Proofs.FormEnds
import LispEditor.Proofs.GivenStart
import LispEditor.Proofs.Grammar
import LispEditor.Proofs.Leaves
import LispEditor.Proofs.Lines
import LispEditor.Proofs.LowerCase
import LispEditor.Proofs.Merging
import LispEditor.Proofs.Moves
import LispEditor.Proofs.Navigation
import LispEditor.Proofs.Nesting
import LispEditor.Proofs.Parsing
import LispEditor.Proofs.Quotation
import LispEditor.Proofs.Reading
import LispEditor.Proofs.Repetition
import LispEditor.Proofs.Rows
import LispEditor.Proofs.Saving
import LispEditor.Proofs.Session
import LispEditor.Proofs.Spelling
import LispEditor.Proofs.Surplus
import LispEditor.Proofs.TableKeys
import LispEditor.Proofs.Targets
import LispEditor.Proofs.Traps
import LispEditor.Proofs.Typing
import LispEditor.Proofs.Undoing
import LispEditor.Proofs.Writing
import LispEditor.Refusal
import LispEditor.Text.Basic
import LispEditor.Text.Cluster
import LispEditor.Text.Delimiter
import LispEditor.Text.Position
import LispEditor.Text.Quoted
import LispEditor.Text.Span
import LispEditor.Text.Width
import LispEditor.Toml.DateTime
import LispEditor.Toml.Lexical
import LispEditor.Toml.Location
import LispEditor.Toml.Reader
import LispEditor.Toml.Scalar
import LispEditor.Toml.Tree
import LispEditor.Toml.Value
import LispEditor.Toml.Writer
