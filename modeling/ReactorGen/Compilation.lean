import ReactorGen.Generated.FederateCode
import ReactorGen.Property.Configure

/-!
# Compilation

A whole program with its target declaration becomes code for each federate.  Only
an unknown target, or one that no code is generated for, stops a compilation
before it starts.  A structural fault keeps only its own federate from being
generated, except for a variable that no self struct holds: then the layout of a
class is not known, and the compilation is given up.
-/

namespace ReactorGen

/-- What a compilation is told besides the program and its properties. -/
structure CompileOptions where
  /-- Where relative paths of the program start. -/
  sourceDirectory : Option String
  /-- The base name of the files, if it is not the name of the program. -/
  baseName : Option String
  tools : ToolLocator

/-- What became of a federate. -/
inductive FederateOutput
  | generated (artifacts : FederateArtifacts)
  /-- A structural fault kept the federate from being generated. -/
  | suppressed (federate : String) (reason : Diagnostic)
deriving DecidableEq, Repr

namespace FederateOutput

/-- The name of the federate. -/
def federate : FederateOutput -> String
  | generated artifacts => artifacts.federate
  | suppressed name _ => name

/-- What was generated for the federate. -/
def artifacts? : FederateOutput -> Option FederateArtifacts
  | generated artifacts => some artifacts
  | suppressed _ _ => none

end FederateOutput

/-- What became of a program. -/
structure CompileResult where
  success : Bool
  /-- The settings, unless the target is not known. -/
  settings : Option Settings
  /-- What became of each federate, in the order of declaration. -/
  federates : List FederateOutput
  diagnostics : Diagnostics
deriving DecidableEq, Repr

namespace CompileResult

/-- A compilation that was given up. -/
def failed (settings : Option Settings) (diagnostics : Diagnostics) : CompileResult :=
  ⟨false, settings, [], diagnostics⟩

/-- A compilation that reached its end. -/
def finished
    (settings : Settings)
    (federates : List FederateOutput)
    (diagnostics : Diagnostics) : CompileResult :=
  ⟨!diagnostics.hasErrors, some settings, federates, diagnostics⟩

/-- What was generated. -/
def generated (result : CompileResult) : List FederateArtifacts :=
  result.federates.filterMap FederateOutput.artifacts?

end CompileResult

/-- The error of a target that no code is generated for. -/
def unsupportedTarget (target : Target) : Diagnostic :=
  .error .unknownTarget target.name
    ("The " ++ target.name ++ " target is not supported by this code generator.")

/-- The federates of a compilation that are done. -/
structure CompileProgress where
  /-- What became of them. -/
  federates : List FederateOutput
  diagnostics : Diagnostics

namespace CompileProgress

/-- Add a federate that was generated. -/
def generated (progress : CompileProgress) (artifacts : FederateArtifacts) :
    CompileProgress :=
  ⟨progress.federates ++ [.generated artifacts],
    progress.diagnostics.merge artifacts.diagnostics⟩

/-- Add a federate that has a fault. -/
def suppressed (progress : CompileProgress) (federate : String) (fault : Fault) :
    CompileProgress :=
  ⟨progress.federates ++ [.suppressed federate fault.diagnostic],
    progress.diagnostics.push fault.diagnostic⟩

end CompileProgress

/-- Whether a fault ends the whole compilation. -/
def Fault.aborts : Fault -> Bool
  | unresolvedField .. => true
  | _ => false

namespace Program

/-- Compile federates one after the other.  A dangling reference leaves no
result. -/
def compileFederates
    (program : Program)
    (environment : Environment)
    (baseName : String)
    (progress : CompileProgress) :
    List Federate -> ExceptT DanglingReference Report CompileResult
  | [] =>
    return .finished environment.settings progress.federates progress.diagnostics
  | federate :: rest => do
    let generated ← ExceptT.lift
      (program.generateFederate environment federate baseName).run
    match generated with
    | .ok artifacts =>
      program.compileFederates environment baseName (progress.generated artifacts) rest
    | .error (.dangling reference) => throw reference
    | .error (.fault fault) =>
      if fault.aborts then
        ExceptT.lift (Report.log .warn (fault.message ++ "; aborting compilation"))
        return .failed (some environment.settings)
          (progress.diagnostics.push fault.diagnostic)
      else
        ExceptT.lift (Report.log .warn
          ("suppressing federate '" ++ federate.name ++ "': " ++ fault.message))
        program.compileFederates environment baseName
          (progress.suppressed federate.name fault) rest

/-- Compile a program whose target is known. -/
def compileConfigured
    (program : Program)
    (options : CompileOptions)
    (configured : Configured) : ExceptT DanglingReference Report CompileResult := do
  let settings := configured.settings
  if settings.target.isGenerated then
    if configured.diagnostics.hasErrors then
      ExceptT.lift (Report.log .warn
        (toString configured.diagnostics.totalErrors ++
          " configuration error(s); generating anyway"))
    let environment : Environment := ⟨settings, options.tools, options.sourceDirectory⟩
    program.compileFederates environment (options.baseName.getD program.name)
      ⟨[], configured.diagnostics⟩ program.federates
  else
    return .failed (some settings)
      (configured.diagnostics.push (unsupportedTarget settings.target))

/-- Compile a program with the given properties. -/
def compile
    (program : Program)
    (files : FileSystem)
    (properties : List (String × Element))
    (options : CompileOptions) : ExceptT DanglingReference Report CompileResult := do
  ExceptT.lift (Report.log .info
    ("compiling " ++ program.name ++ " for target " ++ program.target))
  let configured ← ExceptT.lift
    (configureNamed (files.sourceExists options.sourceDirectory) program.target
      properties)
  match configured with
  | .error error =>
    return .failed none (Diagnostics.empty.push error.diagnostic)
  | .ok configured => program.compileConfigured options configured

end Program
end ReactorGen
