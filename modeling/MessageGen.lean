import MessageGen.Main
import MessageGen.Schema.Printer
import MessageGen.Storage.Tree
import MessageGen.Proofs.Field.Versions
import MessageGen.Proofs.Class.Conflicts
import MessageGen.Proofs.Structure.Definition
import MessageGen.Proofs.Structure.Files
import MessageGen.Proofs.Structure.Coverage
import MessageGen.Proofs.Structure.Replay
import MessageGen.Proofs.Message.Run
import MessageGen.Proofs.Message.References
import MessageGen.Proofs.Message.Conflicts
import MessageGen.Proofs.Message.Coverage
import MessageGen.Proofs.Message.Collisions
import MessageGen.Proofs.Message.AllOrNothing
import MessageGen.Proofs.Message.Order
import MessageGen.Proofs.Message.Rearrangement
import MessageGen.Proofs.CommandLine.Verdict
import MessageGen.Proofs.Text.Trim
import MessageGen.Proofs.Version.Grammar
import MessageGen.Proofs.Version.Canonical
import MessageGen.Proofs.Text.Numerals
import MessageGen.Proofs.Version.Description
import MessageGen.Proofs.Version.Flexible
import MessageGen.Proofs.Version.Display
import MessageGen.Proofs.Schema.Comments
import MessageGen.Proofs.Json.Scanning
import MessageGen.Proofs.Json.Decoding
import MessageGen.Proofs.Json.Numbers
import MessageGen.Proofs.Json.ReadBack
import MessageGen.Proofs.Schema.ReadBack
import MessageGen.Proofs.Json.Printing
import MessageGen.Proofs.Schema.RoundTrip
import MessageGen.Proofs.Field.Documentation
import MessageGen.Proofs.Class.IntegerLiterals
import MessageGen.Proofs.Message.Placement
import MessageGen.Proofs.Message.Image
import MessageGen.Proofs.Message.Shadowing
import MessageGen.Proofs.Class.UnicodeEscapes
import MessageGen.Proofs.Class.DocumentationComments
import MessageGen.Proofs.Class.StringLiterals
import MessageGen.Proofs.Schema.TypeTexts
import MessageGen.Proofs.Class.RealLiterals
import MessageGen.Proofs.Field.InitialValues
import MessageGen.Proofs.Class.Identifiers
import MessageGen.Proofs.Message.Kind
import MessageGen.Proofs.Message.Packages
import MessageGen.Proofs.Field.Registration
import MessageGen.Proofs.Class.CamelCase
import MessageGen.Proofs.Schema.ByteScan
