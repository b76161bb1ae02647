import ReactorGen.Generated.Initialization
import ReactorGen.Network.Preamble

/-!
# Native sources

The native code of one federate as the sections of one file.  What a section
uses is defined in a section before it.
-/

namespace ReactorGen

/-- What a class adds to the native code. -/
structure ClassCode where
  /-- The types of its ports and actions. -/
  typeDefinitions : List String
  selfStruct : SelfStruct
  reactions : List ReactionCode
deriving DecidableEq, Repr

/-- The native code of a federate. -/
structure NativeSource where
  /-- The lines before everything else. -/
  preamble : List String
  /-- The lines that serializers need. -/
  serializerPreamble : List String
  classes : List ClassCode
  initialization : Initialization
deriving DecidableEq, Repr

/-- Lines as one section, unless there are none. -/
def sectionOfLines (lines : List String) : List String :=
  if lines.isEmpty then [] else [Text.joinLines lines]

namespace NativeSource

/-- The sections in order. -/
def sections (source : NativeSource) : List String :=
  [Text.joinLines source.preamble] ++
  sectionOfLines source.serializerPreamble ++
  sectionOfLines (source.classes.flatMap (·.typeDefinitions)) ++
  source.classes.map (·.selfStruct.declaration) ++
  source.classes.flatMap (fun code => code.reactions.map ReactionCode.text) ++
  source.classes.map (·.selfStruct.constructorDefinition) ++
  [
    source.initialization.tokens.declaration,
    initializationFunction source.initialization.steps
  ]

/-- The text of the file. -/
def text (source : NativeSource) : String :=
  "\n\n".intercalate source.sections ++ "\n"

end NativeSource

/-- The native code of a target that has reactors of its own: only the table of
tokens and the initialization of triggers. -/
def Initialization.triggerSource (initialization : Initialization) : String :=
  initialization.tokens.declaration ++ "\n\n" ++
    initializationFunction initialization.steps ++ "\n"

end ReactorGen
