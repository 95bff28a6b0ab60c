import HostOverlay.Schema.Strict
import HostOverlay.Settings.Loader
import HostOverlay.Text.Small

/-!
# Loading of settings

The finder with which the agent is run. Each setting is taken from the arguments if they name it,
else from the environment, where a mark stands before its name. Names are compared in small letters;
of several spellings of one name the first counts among the arguments and the last in the
environment. The environment may hold anything else beside the settings; the arguments may not,
except for options that say how the environment is searched.
-/

namespace HostOverlay

open Schema

namespace Settings

/-- Why a variable cannot be put into the environment. -/
inductive Rejection where
  /-- The name or the value has a null character in it. -/
  | nullCharacter
  /-- The name has an equals sign in it. -/
  | equalsSign
  /-- The name is empty. -/
  | emptyName
deriving DecidableEq, Repr

namespace Rejection

/-- The failure with which the operating system rejects a variable. -/
def failure : Rejection → Failure
  | nullCharacter => .value "embedded null byte"
  | equalsSign => .value "illegal environment variable name"
  | emptyName => .system (some 22) "Invalid argument"

/-- Why a variable is rejected, if it is. -/
def ofVariable? (name value : String) : Option Rejection :=
  if '\x00' ∈ name.toList ∨ '\x00' ∈ value.toList then some nullCharacter
  else if '=' ∈ name.toList then some equalsSign
  else if name.isEmpty then some emptyName
  else none

end Rejection

/-- How the environment is searched for settings. -/
structure Search where
  /-- What stands before the name of a setting. -/
  mark : String
  /-- Whether only the exact spelling of a name counts. -/
  exact : Bool
  /-- Whether empty values are passed over. -/
  skipsEmpty : Bool
  /-- The value that stands for the absent value. -/
  absentWord : Option String
deriving DecidableEq, Repr

/-- The message of a fault; one of the shape is told place by place and has none. -/
def LoadingFault.message : LoadingFault → String
  | failed failure => failure.message
  | unsearchable setting =>
    "error getting value for field \"" ++ setting ++ "\" from source \"EnvSettingsSource\""
  | invalid _ => ""

/-- The argument that is always given already. -/
def givenArgument : String := "__pydantic_self__"

/-- The options among the arguments that say how the environment is searched. -/
def searchOptions : List String :=
  ["_env_prefix", "_env_prefix_target", "_case_sensitive", "_env_ignore_empty",
    "_env_parse_none_str"]

/-- The options among the arguments that concern other sources or richer settings, so they change
nothing here. -/
def idleOptions : List String :=
  ["_build_sources", "_cli_avoid_json", "_cli_enforce_required", "_cli_exit_on_error",
    "_cli_flag_prefix_char", "_cli_hide_none_type", "_cli_ignore_unknown_args",
    "_cli_implicit_flags", "_cli_kebab_case", "_cli_parse_args", "_cli_parse_none_str",
    "_cli_prefix", "_cli_prog_name", "_cli_settings_source", "_cli_shortcuts", "_cli_show_env_vars",
    "_cli_use_class_docs_for_groups", "_env_file", "_env_file_depth", "_env_file_encoding",
    "_env_nested_delimiter", "_env_nested_max_split", "_env_parse_enums",
    "_nested_model_default_partial_update", "_secrets_dir"]

/-- Whether an argument is an option. -/
def isOption (name : String) : Bool := (searchOptions ++ idleOptions).contains name

namespace Search

/-- What options give for a mark; the usual one if they give nothing. -/
def givenMark (usual : String) (options : Table String Tree) : Tree :=
  match (Table.get? options "_env_prefix").getD .null with
  | .null => .text usual
  | mark => mark

/-- Why a mark cannot even be measured: it is a number or a truth value. -/
def markMisfit? : Tree → Option Misfit
  | mark@(.bool _) | mark@(.number ..) => some (.noLength mark.kind)
  | .null | .text _ | .sequence _ | .mapping _ | .link _ => none

/-- Whether the mark is meant for the names of the settings. -/
def isMarked (options : Table String Tree) : Bool :=
  match (Table.get? options "_env_prefix_target").getD .null with
  | .null | .text "variable" | .text "all" => true
  | _ => false

/-- Whether an option is given and not void. -/
def isAsked (options : Table String Tree) (name : String) : Bool :=
  ((Table.get? options name).map fun value => !value.isVoid).getD false

/-- The search that options ask for, or why it cannot start at the first of the names. -/
def ofOptions (usual : String) (names : List String) (options : Table String Tree) :
    Except LoadingFault Search :=
  let search (mark : String) : Search :=
    { mark
      exact := isAsked options "_case_sensitive"
      skipsEmpty := isAsked options "_env_ignore_empty"
      absentWord := match Table.get? options "_env_parse_none_str" with
        | some (.text word) => some word
        | _ => none }
  let mark := givenMark usual options
  match markMisfit? mark, mark with
  | some cause, _ => .error (.failed (.misfit cause))
  | none, .text mark => .ok (search (if isMarked options then mark else ""))
  | none, _ => if isMarked options then .error (.unsearchable (names.headD "")) else .ok (search "")

/-- Whether a name in the environment is the name of a setting. -/
def isNamed (search : Search) (setting name : String) : Bool :=
  if search.exact then name == search.mark ++ setting
  else Text.inSmallLetters name.toList == Text.inSmallLetters (search.mark ++ setting).toList

/-- What the environment holds for a setting. -/
def find? (search : Search) (environment : Table String String) (setting : String) : Option Tree :=
  let counted := environment.filter fun entry => !(search.skipsEmpty && entry.2.isEmpty)
  -- Later entries of the environment replace earlier ones, so it is searched from its end.
  (counted.reverse.find? fun entry => search.isNamed setting entry.1).map fun entry =>
    if search.absentWord = some entry.2 then .null else .text entry.2

end Search

/-- Whether an argument of this name, written in any case, is for a setting. -/
def isNamed (setting name : String) : Bool := Text.inSmallLetters name.toList == setting.toList

/-- What the arguments hold for a setting. -/
def argument? (arguments : Table String Tree) (setting : String) : Option Tree :=
  (arguments.find? fun entry => isNamed setting entry.1).map Prod.snd

/-- What is found for a setting: in the arguments, else in the environment. -/
def source? (search : Search) (environment : Table String String) (arguments : Table String Tree)
    (setting : String) : Option Tree :=
  (argument? arguments setting).or (search.find? environment setting)

/-- What is found for all settings, by a search of the environment and in arguments that are no
options. -/
def findings (search : Search) (names : List String) (environment : Table String String)
    (arguments : Table String Tree) : Findings where
  values := names.filterMap fun setting =>
    (source? search environment arguments setting).map (setting, ·)
  strays := (Table.keys arguments).filter fun name =>
    !names.any fun setting => isNamed setting name

/-- The finder of settings. The environment is set before the arguments are looked at, and it is
searched before anything is checked. -/
instance Finder.environment : Finder where
  find mark names environment arguments := do
    match environment.findSome? fun entry => Rejection.ofVariable? entry.1 entry.2 with
    | some rejection => throw (.failed rejection.failure)
    | none => pure ()
    if (Table.keys arguments).contains givenArgument then
      throw (.failed (.misfit (.repeatedArgument "BaseSettings.__init__" givenArgument)))
    let search ← Search.ofOptions mark names arguments
    return findings search names environment (arguments.filter fun entry => !isOption entry.1)

end Settings

end HostOverlay
