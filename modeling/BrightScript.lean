import BrightScript.Channel.Launch
import BrightScript.Channel.Run
import BrightScript.CommandLine
import BrightScript.Component.Basic
import BrightScript.Component.Registry
import BrightScript.Conditional
import BrightScript.Decimal.Binary
import BrightScript.Decimal.Leading
import BrightScript.Decimal.Read
import BrightScript.Decimal.Shortest
import BrightScript.Device.Basic
import BrightScript.Device.Info
import BrightScript.Device.Models
import BrightScript.Diagnostic.Basic
import BrightScript.Diagnostic.Report
import BrightScript.Dictionary
import BrightScript.Evaluator.Basic
import BrightScript.Evaluator.Builtin
import BrightScript.Evaluator.Fault
import BrightScript.Evaluator.Machine
import BrightScript.Evaluator.Operator
import BrightScript.Heap.Basic
import BrightScript.Heap.Collect
import BrightScript.Heap.Snapshot
import BrightScript.Json.Basic
import BrightScript.Json.Reader
import BrightScript.Json.Record
import BrightScript.Library.Basic
import BrightScript.Library.Source
import BrightScript.Main
import BrightScript.Manifest
import BrightScript.Method.Call
import BrightScript.Method.Collection
import BrightScript.Method.Dispatch
import BrightScript.Method.Node
import BrightScript.Method.Procedure
import BrightScript.Method.Text
import BrightScript.Method.Xml
import BrightScript.Name
import BrightScript.Package
import BrightScript.Pattern.Basic
import BrightScript.Pattern.Break
import BrightScript.Pattern.Category
import BrightScript.Pattern.CharSet
import BrightScript.Pattern.Normal
import BrightScript.Pattern.Program
import BrightScript.Pattern.Property
import BrightScript.Pattern.Reader
import BrightScript.Pattern.Search
import BrightScript.Pattern.Size
import BrightScript.Pattern.Template
import BrightScript.Pattern.Trait
import BrightScript.Program.Linked
import BrightScript.Scene.Kind
import BrightScript.SortedMap
import BrightScript.Span
import BrightScript.Storage.FileSystem
import BrightScript.Storage.Path
import BrightScript.Storage.Volume
import BrightScript.Syntax.Basic
import BrightScript.Syntax.Grammar
import BrightScript.Syntax.Parser
import BrightScript.Text.AgeTable
import BrightScript.Text.Blank
import BrightScript.Text.Case
import BrightScript.Text.CaseTable
import BrightScript.Text.CodeTable
import BrightScript.Text.Fold
import BrightScript.Text.LetterTable
import BrightScript.Text.NameTable
import BrightScript.Text.ScriptTable
import BrightScript.Text.Search
import BrightScript.Text.Shift
import BrightScript.Text.Split
import BrightScript.Text.SymbolTable
import BrightScript.Text.TraitTable
import BrightScript.Text.Utf8
import BrightScript.Text.Width
import BrightScript.Text.WidthTable
import BrightScript.Token.Basic
import BrightScript.Token.Scanner
import BrightScript.Value.Basic
import BrightScript.Proofs.Attempt
import BrightScript.Proofs.Heap.Slots
import BrightScript.Proofs.Heap.Bookkeeping
import BrightScript.Proofs.Heap.Collection
import BrightScript.Proofs.Heap.Snapshot
import BrightScript.Proofs.Heap.Lifetime
import BrightScript.Proofs.Scene.Links
import BrightScript.Proofs.Method.Failure
import BrightScript.Proofs.Method.Growth
import BrightScript.Proofs.Component.Creation
import BrightScript.Proofs.Scene.Walk
import BrightScript.Proofs.Scene.Forest
import BrightScript.Proofs.Method.Footprint
import BrightScript.Proofs.Scene.Search
import BrightScript.Proofs.Scene.Adoption
import BrightScript.Proofs.Renaming.Value
import BrightScript.Proofs.Renaming.Heap
import BrightScript.Proofs.Renaming.Call
import BrightScript.Proofs.Renaming.Collection
import BrightScript.Proofs.Renaming.Text
import BrightScript.Proofs.Xml.Writing
import BrightScript.Proofs.Xml.Chains
import BrightScript.Proofs.Xml.Tree
import BrightScript.Proofs.Xml.Readback
import BrightScript.Proofs.Renaming.Xml
import BrightScript.Proofs.Renaming.Creation
import BrightScript.Proofs.Renaming.Node
import BrightScript.Proofs.Renaming.Dispatch
import BrightScript.Proofs.Renaming.Snapshot
import BrightScript.Proofs.Renaming.Machine
import BrightScript.Proofs.Renaming.Run
import BrightScript.Proofs.Renaming.Operation
import BrightScript.Proofs.Renaming.Step
import BrightScript.Proofs.Evaluator.Watched
import BrightScript.Proofs.Renaming.Watched
import BrightScript.Proofs.Renaming.Evaluator
import BrightScript.Proofs.Channel.Launch
import BrightScript.Proofs.Channel.Handles
import BrightScript.Proofs.Channel.Moments
import BrightScript.Proofs.Syntax.Printer
import BrightScript.Proofs.Syntax.Reading
import BrightScript.Proofs.Syntax.Expressions
import BrightScript.Proofs.Syntax.Statements
import BrightScript.Proofs.Syntax.RoundTrip
import BrightScript.Proofs.Syntax.Taking
import BrightScript.Proofs.Syntax.Nesting
import BrightScript.Proofs.Evaluator.Unbounded
import BrightScript.Proofs.Evaluator.Termination
import BrightScript.Proofs.Channel.Termination
import BrightScript.Proofs.Conditional.Passage
import BrightScript.Proofs.Conditional.Bracketing
import BrightScript.Proofs.Conditional.Selection
import BrightScript.Proofs.Conditional.Remainder
import BrightScript.Proofs.Program.Linking
import BrightScript.Proofs.Storage.Writing
import BrightScript.Proofs.Storage.Path
import BrightScript.Proofs.Storage.Tree
import BrightScript.Proofs.Storage.Growth
import BrightScript.Proofs.SortedMap
import BrightScript.Proofs.Dictionary
import BrightScript.Proofs.Scene.Kind
import BrightScript.Proofs.Package.Installation
import BrightScript.Proofs.Evaluator.Steps
import BrightScript.Proofs.Evaluator.Confinement
import BrightScript.Proofs.Token.Coverage
import BrightScript.Proofs.Token.Spelling
import BrightScript.Proofs.Respelling.Syntax
import BrightScript.Proofs.Respelling.Machine
import BrightScript.Proofs.Respelling.Run
import BrightScript.Proofs.Respelling.Evaluator
import BrightScript.Proofs.Channel.History
import BrightScript.Proofs.Respelling.Program
import BrightScript.Proofs.Channel.LetterCase
import BrightScript.Proofs.Channel.Hoisting
import BrightScript.Proofs.Syntax.Places
import BrightScript.Proofs.Syntax.Extension
import BrightScript.Proofs.Syntax.Lookahead
import BrightScript.Proofs.Syntax.Continuation
import BrightScript.Proofs.Syntax.Joining
import BrightScript.Proofs.Token.LetterCase
import BrightScript.Proofs.Conditional.LetterCase
import BrightScript.Proofs.Syntax.Alike
import BrightScript.Proofs.Syntax.LetterCase
import BrightScript.Proofs.Program.LetterCase
import BrightScript.Proofs.Storage.Contents
import BrightScript.Proofs.Storage.Delivery
import BrightScript.Proofs.Evaluator.Discipline
import BrightScript.Proofs.Evaluator.Stack
import BrightScript.Proofs.Method.Limit
import BrightScript.Proofs.Method.Effect
import BrightScript.Proofs.Xml.Named
import BrightScript.Proofs.Xml.Attributes
import BrightScript.Proofs.Dictionary.History
import BrightScript.Proofs.Method.Fields
import BrightScript.Proofs.Method.Record
import BrightScript.Proofs.Method.Report
import BrightScript.Proofs.Text.Split
import BrightScript.Proofs.Manifest
import BrightScript.Proofs.Pattern.Template
import BrightScript.Proofs.Heap.Exactness
import BrightScript.Proofs.Heap.All
import BrightScript.Proofs.Text.LetterCase
import BrightScript.Proofs.Text.Size
import BrightScript.Proofs.Component.Texts
import BrightScript.Proofs.Method.Keeping
import BrightScript.Proofs.Scene.Length
import BrightScript.Proofs.Method.Length
import BrightScript.Proofs.Storage.Reading
import BrightScript.Proofs.Evaluator.Fitting
import BrightScript.Proofs.Evaluator.Length
import BrightScript.Proofs.Channel.Length
