import StagedBuilder.Character.Identifier
import StagedBuilder.Character.Printable
import StagedBuilder.Character.Uppercase
import StagedBuilder.Text.Quoted
import StagedBuilder.Separated
import StagedBuilder.Parser
import StagedBuilder.Token.Basic
import StagedBuilder.Token.Literal
import StagedBuilder.Token.Lexer
import StagedBuilder.Token.Code
import StagedBuilder.Item.Ty
import StagedBuilder.Item.Code
import StagedBuilder.Item.Substitution
import StagedBuilder.Item.Basic
import StagedBuilder.Item.Pieces
import StagedBuilder.Item.References
import StagedBuilder.Grammar.Tokens
import StagedBuilder.Grammar.Phrase
import StagedBuilder.Grammar.Types
import StagedBuilder.Grammar.Generics
import StagedBuilder.Grammar.Patterns
import StagedBuilder.Grammar.Expressions
import StagedBuilder.Grammar.Definitions
import StagedBuilder.Grammar.Statements
import StagedBuilder.Grammar.Nesting
import StagedBuilder.Grammar.Items
import StagedBuilder.Field.Diagnostic
import StagedBuilder.Field.Marker
import StagedBuilder.Field.Kind
import StagedBuilder.Field.Basic
import StagedBuilder.Builder.Blueprint
import StagedBuilder.Builder.Expansion
import StagedBuilder.Builder.Scope
import StagedBuilder.Builder.Code
import StagedBuilder.Builder.Typestate
import StagedBuilder.Builder.Storage
import StagedBuilder.Builder.Session
import StagedBuilder.Record.Template
import StagedBuilder.Record.Orc
import StagedBuilder.Record.Hobbit
import StagedBuilder.Record.Address
import StagedBuilder.Record.Halfling
import StagedBuilder.Record.Probe
import StagedBuilder.Record.Basic
import StagedBuilder.Proofs.Keys
import StagedBuilder.Proofs.FieldReading
import StagedBuilder.Proofs.MarkerNames
import StagedBuilder.Proofs.AcceptedFields
import StagedBuilder.Proofs.WritableMarkers
import StagedBuilder.Proofs.FieldOutcomes
import StagedBuilder.Proofs.MarkerAssignment
import StagedBuilder.Proofs.WrittenNames
import StagedBuilder.Proofs.Headers
import StagedBuilder.Proofs.Calls
import StagedBuilder.Proofs.Runs
import StagedBuilder.Proofs.TypestateSoundness
import StagedBuilder.Proofs.ProgressRefinement
import StagedBuilder.Proofs.Initialisation
import StagedBuilder.Proofs.BuiltValues
import StagedBuilder.Proofs.ValueAccounting
import StagedBuilder.Proofs.MarkerCapture
import StagedBuilder.Proofs.NameCapture
import StagedBuilder.Proofs.MethodNames
import StagedBuilder.Proofs.AppendedFields
import StagedBuilder.Item.SelfUses
import StagedBuilder.Proofs.SelfReplacement
import StagedBuilder.Proofs.CopiedTypes
import StagedBuilder.Proofs.EscapeHatches
import StagedBuilder.Proofs.RecordMaking
import StagedBuilder.Proofs.OrcRendering
import StagedBuilder.Proofs.Consumption
import StagedBuilder.Proofs.TokenOrder
import StagedBuilder.Proofs.LexedText
import StagedBuilder.Proofs.ReadPlaces
import StagedBuilder.Proofs.DiagnosticOrder
import StagedBuilder.Proofs.HeaderScopes
import StagedBuilder.Proofs.FieldClassification
import StagedBuilder.Proofs.SelfSubstitution
