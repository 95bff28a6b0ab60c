import HostOverlay.Schema.Validator
import HostOverlay.Settings

/-!
# How settings come to be

The settings declare what they are and what stands before their names in an environment. A library,
the finder, looks there and among arguments for values, and is a parameter here like the validator
that checks what is found. A setting for which nothing is found has its default. What is given under
a name that is not the name of a setting is reported after everything that is wrong with the values.
-/

namespace HostOverlay

open Schema

namespace Settings

/-- Why settings cannot be loaded. -/
inductive LoadingFault where
  /-- A variable cannot be put into the environment, or an option is of no use. -/
  | failed (failure : Failure)
  /-- The search cannot name this setting: nothing can stand before its name but a text. -/
  | unsearchable (setting : String)
  /-- What was found does not have the shape of the settings. -/
  | invalid (cause : Invalid)
deriving DecidableEq, Repr

/-- What is found for the settings. -/
structure Findings where
  /-- The values, under the names of their settings. -/
  values : Table String Tree
  /-- The names under which something is given that is no setting. -/
  strays : List String

/-- A library that finds the values of settings. -/
class Finder where
  /-- Searches an environment, where a mark stands before the names of the settings, and
  arguments. -/
  find (mark : String) (names : List String) (environment : Table String String)
    (arguments : Table String Tree) : Except LoadingFault Findings

/-- What stands before the names of the settings in an environment. -/
def mark : String := "CNIAGENT_"

/-- The written names of the settings. -/
def names : List String := Record.fieldNames Settings

/-- What is wrong with findings beside their values. -/
def Findings.strayViolations (findings : Findings) : List Violation :=
  findings.strays.map fun name => ⟨[.key name], .unknownField⟩

/-- The settings that are found, or everything that is wrong with what is found. -/
def Findings.read [Validator] (findings : Findings) : Except Invalid Settings :=
  match Record.validate (.mapping findings.values), findings.strayViolations with
  | .ok settings, [] => .ok settings
  | .ok _, violations => .error ⟨Record.name Settings, violations⟩
  | .error invalid, violations => .error ⟨invalid.title, invalid.violations ++ violations⟩

/-- Settings from an environment and arguments. -/
def load [finder : Finder] [Validator] (environment : Table String String)
    (arguments : Table String Tree) : Except LoadingFault Settings := do
  let findings ← finder.find mark names environment arguments
  findings.read.mapError .invalid

end Settings

end HostOverlay
