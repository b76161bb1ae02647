import ReactorGen.Compilation
import ReactorGen.Diagnostic
import ReactorGen.Digest.Sha256
import ReactorGen.Draft
import ReactorGen.Element
import ReactorGen.Environment
import ReactorGen.Fault
import ReactorGen.Files.FileSystem
import ReactorGen.Files.Path
import ReactorGen.Files.Search
import ReactorGen.Generated.Artifact
import ReactorGen.Generated.FederateCode
import ReactorGen.Generated.Initialization
import ReactorGen.Generated.NativeSource
import ReactorGen.Json.Binding
import ReactorGen.Json.Build
import ReactorGen.Json.Diagnostic
import ReactorGen.Json.Element
import ReactorGen.Json.Format
import ReactorGen.Json.Generated
import ReactorGen.Json.Model
import ReactorGen.Json.Printer
import ReactorGen.Json.Record
import ReactorGen.Json.Settings
import ReactorGen.Json.Trigger
import ReactorGen.Json.Value
import ReactorGen.Layout.Binding
import ReactorGen.Layout.Member
import ReactorGen.Layout.SelfStruct
import ReactorGen.Model.Declaration
import ReactorGen.Model.Federate
import ReactorGen.Model.Program
import ReactorGen.Model.Reaction
import ReactorGen.Model.ReactorClass
import ReactorGen.Model.Reference
import ReactorGen.Model.Tree
import ReactorGen.Naming
import ReactorGen.Network.Message
import ReactorGen.Network.Preamble
import ReactorGen.Network.Serialization
import ReactorGen.Outcome
import ReactorGen.Output
import ReactorGen.Package.Build
import ReactorGen.Package.ClassCode
import ReactorGen.Package.Instances
import ReactorGen.Package.Module
import ReactorGen.Proofs.Accumulation
import ReactorGen.Proofs.ConfigurationReports
import ReactorGen.Proofs.Results
import ReactorGen.Property.ClockSync
import ReactorGen.Property.Configure
import ReactorGen.Property.Kinds
import ReactorGen.Property.Table
import ReactorGen.Property.Type
import ReactorGen.ReactionCode.Delay
import ReactorGen.ReactionCode.Function
import ReactorGen.ReactionCode.Reactions
import ReactorGen.Report
import ReactorGen.Settings
import ReactorGen.Span
import ReactorGen.Target
import ReactorGen.Target.ReservedWords
import ReactorGen.Text.Blank
import ReactorGen.Text.CaseData
import ReactorGen.Text.Dedent
import ReactorGen.Text.Digits
import ReactorGen.Text.Integer
import ReactorGen.Text.Lines
import ReactorGen.Text.Lowercase
import ReactorGen.Text.Name
import ReactorGen.Text.Pattern
import ReactorGen.Time
import ReactorGen.Token
import ReactorGen.Trigger
import ReactorGen.Proofs.ErrorScope
import ReactorGen.Proofs.LiteralParts
import ReactorGen.Proofs.TextCuts
import ReactorGen.Proofs.PlacedTexts
import ReactorGen.Proofs.SenderBodies
import ReactorGen.Proofs.ConnectionBodies
import ReactorGen.Proofs.ConnectionService
import ReactorGen.Proofs.FirstOccurrences
import ReactorGen.Proofs.FunctionTexts
import ReactorGen.Proofs.ClassTexts
import ReactorGen.Proofs.ReactionArguments
import ReactorGen.Proofs.TokenRegistration
import ReactorGen.Proofs.SelfVariables
import ReactorGen.Proofs.InitializationTexts
import ReactorGen.Proofs.InitializationNames
import ReactorGen.Proofs.NamesApart
import ReactorGen.Proofs.PlainNames
import ReactorGen.Proofs.TokenRows
import ReactorGen.Proofs.SelfStructParts
import ReactorGen.Proofs.StructTexts
import ReactorGen.Proofs.ClassAgreement
import ReactorGen.Proofs.VariableResolution
import ReactorGen.Proofs.CheckFindings
import ReactorGen.Proofs.CheckAgreement
import ReactorGen.Proofs.ClockSyncEntries
import ReactorGen.Proofs.TreeGrowth
import ReactorGen.Proofs.FederateDivision
import ReactorGen.Proofs.EnabledSerializers
import ReactorGen.Proofs.MessageEncodings
import ReactorGen.Proofs.SerializerAgreement
import ReactorGen.Proofs.FederateSources
import ReactorGen.Proofs.InitializationMembers
import ReactorGen.Proofs.InstanceLists
import ReactorGen.Proofs.InstanceLinks
import ReactorGen.Proofs.LastValidEntry
import ReactorGen.Proofs.FederateSequence
import ReactorGen.Proofs.Degradations
import ReactorGen.Proofs.GenerationStages
import ReactorGen.Proofs.TriggerSites
import ReactorGen.Proofs.OtherClasses
import ReactorGen.Proofs.ForeignClasses
import ReactorGen.Proofs.MalformedReferences
import ReactorGen.Proofs.OutputPaths
import ReactorGen.Proofs.FileWrites
import ReactorGen.Proofs.ManifestFiles
import ReactorGen.Proofs.MissingFiles
import ReactorGen.Proofs.JsonReading
import ReactorGen.Proofs.ResultReading
import ReactorGen.Proofs.BuildSettings
import ReactorGen.Proofs.UnsupportedProperties
import ReactorGen.Proofs.ProblemArrival
import ReactorGen.Proofs.TokenLoading
import ReactorGen.Proofs.TreeListing
import ReactorGen.Proofs.TreeHistory
import ReactorGen.Proofs.TriggerLowering
import ReactorGen.Proofs.SelfStructMembers
import ReactorGen.Proofs.BindingTypes
import ReactorGen.Proofs.MultiportWidths
import ReactorGen.Proofs.MemberNames
import ReactorGen.Proofs.ClassNames
import ReactorGen.Proofs.IntegerNumerals
import ReactorGen.Proofs.TimeLiterals
import ReactorGen.Proofs.Identifiers
import ReactorGen.Proofs.InstanceKeywords
import ReactorGen.Proofs.ReservedNames
import ReactorGen.Proofs.Trimming
import ReactorGen.Proofs.TextLines
import ReactorGen.Proofs.NestedDrafts
import ReactorGen.Proofs.ByteIndentation
import ReactorGen.Proofs.Dedentation
import ReactorGen.Proofs.MethodLayout
import ReactorGen.Proofs.ScriptLiterals
import ReactorGen.Proofs.QuotedTexts
import ReactorGen.Proofs.BuildScript
import ReactorGen.Proofs.LocalNames
