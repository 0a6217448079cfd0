import ConstantCatalog.Main
import ConstantCatalog.Number.Bits
import ConstantCatalog.ThreadSlots
import ConstantCatalog.Proofs.Text.Blank
import ConstantCatalog.Proofs.Declaration.Loading
import ConstantCatalog.Proofs.Source.Lines
import ConstantCatalog.Proofs.Declaration.Reuse
import ConstantCatalog.Proofs.Declaration.Concatenation
import ConstantCatalog.Proofs.Constant.Header
import ConstantCatalog.Proofs.Constant.Reading
import ConstantCatalog.Proofs.Constant.GluedName
import ConstantCatalog.Proofs.Constant.Unquoting
import ConstantCatalog.Proofs.Constant.Conversion
import ConstantCatalog.Proofs.Constant.Writing.Number
import ConstantCatalog.Proofs.Constant.Writing.Text
import ConstantCatalog.Proofs.Constant.Writing.Components
import ConstantCatalog.Proofs.Constant.Writing.Declaration
import ConstantCatalog.Proofs.Constant.Writing.Source
import ConstantCatalog.Proofs.Number.Rounding
import ConstantCatalog.Proofs.Number.Rational
import ConstantCatalog.Proofs.Number.Denotation
import ConstantCatalog.Proofs.Number.Monotone
import ConstantCatalog.Proofs.Number.Place
import ConstantCatalog.Proofs.Number.Faithful
import ConstantCatalog.Proofs.Constant.Rounding
import ConstantCatalog.Proofs.Constant.Integers
import ConstantCatalog.Proofs.Number.Layout
import ConstantCatalog.Proofs.Number.Significant
import ConstantCatalog.Proofs.Source.Bytes
import ConstantCatalog.Proofs.Arena
import ConstantCatalog.Proofs.Declaration.Limit
import ConstantCatalog.Proofs.Store.History
import ConstantCatalog.Proofs.Store.Source
import ConstantCatalog.Proofs.Constant.WellFormed
import ConstantCatalog.Proofs.Publication.Machine
import ConstantCatalog.Proofs.Publication.Effect
import ConstantCatalog.Proofs.Publication.Loaded
import ConstantCatalog.Proofs.Publication.Resolution
import ConstantCatalog.Proofs.Source.Insertion
import ConstantCatalog.Proofs.Publication.Influence
import ConstantCatalog.Proofs.Declaration.Encoding
import ConstantCatalog.Proofs.Number.LongestMatch
import ConstantCatalog.Proofs.Literal.Items
import ConstantCatalog.Proofs.Literal.Sentence
import ConstantCatalog.Proofs.Literal.Acceptance
import ConstantCatalog.Proofs.Literal.Components
import ConstantCatalog.Proofs.Context.Setup
import ConstantCatalog.Proofs.Context.History
import ConstantCatalog.Proofs.Context.Slots
import ConstantCatalog.Proofs.Context.Threads
import ConstantCatalog.Proofs.Overlay.Grammar
import ConstantCatalog.Proofs.Overlay.Writing
import ConstantCatalog.Proofs.Source.Reading
import ConstantCatalog.Proofs.Context.Sources
import ConstantCatalog.Proofs.Context.Dialect
import ConstantCatalog.Proofs.CommandLine.Framing
import ConstantCatalog.Proofs.CommandLine.Reports
import ConstantCatalog.Proofs.CommandLine.Runs
import ConstantCatalog.Proofs.CommandLine.DumpTable
import ConstantCatalog.Proofs.CommandLine.ShownIntegers
import ConstantCatalog.Proofs.Number.Nearness
import ConstantCatalog.Proofs.Number.ReadBack
import ConstantCatalog.Proofs.CommandLine.ShownFloats
import ConstantCatalog.Proofs.Arena.History
import ConstantCatalog.Proofs.Literal.Tokenization
import ConstantCatalog.Proofs.Settings.Environment
import ConstantCatalog.Proofs.CommandLine.Precedence
