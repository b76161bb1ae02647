import ReactorGen.Settings
import ReactorGen.Text.Blank

/-!
# The native preamble

The definitions and inclusions that the native code of a federate starts with.
-/

namespace ReactorGen

/-- The definitions that select the runtime for federates. -/
def federatedDefinitions (coordination : Coordination) : List String :=
  let mode :=
    match coordination with
    | .centralized => "FEDERATED_CENTRALIZED"
    | .decentralized => "FEDERATED_DECENTRALIZED"
  ["#define FEDERATED", "#define " ++ mode]

/-- The definition that turns tracing on. -/
def Tracing.definition (tracing : Tracing) : String :=
  Text.trimEnd ("#define LINGUA_FRANCA_TRACE " ++ tracing.fileName.getD "")

/-- The lines that the native code of a federate starts with. -/
def nativePreamble
    (settings : Settings)
    (federated : Bool)
    (federateCount : Nat) : List String :=
  ["#define LOG_LEVEL " ++ toString settings.verbosity.number] ++
  (if federated then federatedDefinitions settings.coordination else []) ++
  ["#define _LF_GARBAGE_COLLECTED"] ++
  (settings.tracing.map Tracing.definition).toList ++
  ["#include \"pythontarget.c\""] ++
  (if settings.tracing.isSome then ["#include \"core/trace.c\""] else []) ++
  ["#define NUMBER_OF_FEDERATES " ++ toString federateCount]

end ReactorGen
