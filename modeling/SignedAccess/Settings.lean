import SignedAccess.Error
import SignedAccess.Record.Field

/-!
# Settings

Settings come from explicit arguments, from environment variables, or from defaults, in this
order of preference.  Among the arguments stand, under names of their own, options that say how the
variables are read.

Main definitions:

* `Environment` — environment variables in order;
* `Setting.Options` — how the variables are read, with its reader `Setting.Options.read`;
* `AuthSettings`, `StorageSettings`, `LogSettings` — the three groups of settings, each with a
  reader `resolve`;
* `StorageSettings.host` — the host of the storage service, or of an emulator.
-/

namespace SignedAccess

/-- Environment variables with their values. -/
abbrev Environment := List (Text × Text)

/-- The value of a variable, whose name is compared without regard to case; of several the last
counts. -/
def Environment.value? (env : Environment) (name : Text) : Option Text :=
  (env.reverse.find? fun v => Text.lower v.1 = Text.lower name).map Prod.snd

/-- The value of a variable of exactly this name; of several the last counts. -/
def Environment.exactValue? (env : Environment) (name : Text) : Option Text :=
  (env.reverse.find? fun v => v.1 = name).map Prod.snd

namespace Setting

/-! ## Options -/

/-- How the variables are read. -/
structure Options where
  /-- What stands in front of the name of a field; none if no variable has such a name. -/
  start? : Option Text
  /-- Whether the names of variables are compared with regard to case. -/
  isCaseSensitive : Bool
  /-- Whether variables of empty value do not count. -/
  ignoresEmpty : Bool
  /-- The value that stands for nothing. -/
  noneText? : Option Text
  deriving DecidableEq, Repr

def optionNames : List String :=
  ["_case_sensitive", "_nested_model_default_partial_update", "_env_prefix", "_env_file",
   "_env_file_encoding", "_env_ignore_empty", "_env_nested_delimiter", "_env_parse_none_str",
   "_env_parse_enums", "_cli_prog_name", "_cli_parse_args", "_cli_settings_source",
   "_cli_parse_none_str", "_cli_hide_none_type", "_cli_avoid_json", "_cli_enforce_required",
   "_cli_use_class_docs_for_groups", "_cli_exit_on_error", "_cli_prefix", "_cli_flag_prefix_char",
   "_cli_implicit_flags", "_cli_ignore_unknown_args", "_secrets_dir"]

def isOption (arg : Text × Json) : Bool := optionNames.any fun name => name.toList = arg.1

def isText : Json → Bool
  | .text _ | .unpaired _ => true
  | _ => false

def textOf? : Json → Option Text
  | .text t => some t
  | _ => none

/-- Whether a value is an array or an object. -/
def isCollection : Json → Bool
  | .array _ | .object _ => true
  | _ => false

/-- Whether a value names files: one, several, or none. -/
def namesFiles : Json → Bool
  | .null | .text _ | .unpaired _ | .object _ => true
  | .array items => items.all isText
  | _ => false

/-- Whether a value says which words of a command line are read: none of them, all of them, or those
of a list. -/
def namesWords : Json → Bool
  | .null | .bool _ | .int 0 | .real (.finite _ 0 _) | .array _ => true
  | _ => false

/-- Whether a value has a length, or stands for the default. -/
def hasLength : Json → Bool
  | .null | .text _ | .unpaired _ | .array _ | .object _ => true
  | _ => false

/-- The start of the names of variables that a value gives; none if no variable has such a name. -/
def startOf? (default : Text) : Json → Option Text
  | .null => some default
  | .text start => some start
  | _ => none

/-- The options among the arguments, where `default` is the start of names for which there is no
option. -/
def Options.read (default : Text) (args : List (Text × Json)) : Except SettingsFault Options :=
  let value (name : String) : Json := (Json.fieldOf? name.toList args).getD .null
  let start := value "_env_prefix"
  if !hasLength start || !namesFiles (value "_env_file") then .error .wrongKind
  else if !namesWords (value "_cli_parse_args") || isCollection start then .error .unusableSource
  else if !namesFiles (value "_secrets_dir") then .error .wrongKind
  else .ok {
    start? := startOf? default start
    isCaseSensitive := (value "_case_sensitive").isTruthy
    ignoresEmpty := (value "_env_ignore_empty").isTruthy
    noneText? := textOf? (value "_env_parse_none_str") }

/-! ## Variables -/

/-- The value of the variable of a field. -/
def Options.found? (options : Options) (env : Environment) (field : String) : Option Text :=
  let counted : Environment := if options.ignoresEmpty then env.filter fun v => v.2 ≠ [] else env
  let find := if options.isCaseSensitive then counted.exactValue? else counted.value?
  options.start?.bind fun start => find (start ++ field.toList)

/-- The value of a variable as the value of a field: a text, or nothing. -/
def Options.valueOf (options : Options) (value : Text) : Json :=
  if options.noneText? = some value then .null else .text value

/-! ## Groups of settings -/

/-- The explicit values, and behind them the variables that name a field missing among them. -/
def sources (options : Options) (fields : List String) (args : List (Text × Json))
    (env : Environment) : List (Text × Json) :=
  args ++ fields.filterMap fun field =>
    if (Json.fieldOf? field.toList args).isSome then none
    else (options.found? env field).map fun value => (field.toList, options.valueOf value)

/-- The faults of arguments that are no settings. -/
def extras (fields : List String) (args : List (Text × Json)) : List Fault :=
  (args.filter fun a => !fields.any fun f => f.toList = a.1).map fun a => ⟨[a.1], .extraForbidden⟩

/-- A group of settings without faults among its fields and its arguments.  The reader of the fields
takes the explicit values with those of the variables behind them. -/
def group {α : Type} (kind : RecordKind) (start : String) (fields : List String)
    (args : List (Text × Json)) (env : Environment) (read : List (Text × Json) → Decoded α) :
    Except Error α := do
  let options ← (Options.read start.toList args).mapError .settings
  let values := args.filter fun a => !isOption a
  let read := (read (sources options fields values env)).also
    (match extras fields values with
      | [] => .ok ()
      | faults => .error faults)
  (Decoded.orReject kind read).mapError .rejected

end Setting

/-! ## Token endpoint -/

/-- The token endpoint of the service. -/
def tokenUrlDefault : Text := "https://oauth2.googleapis.com/token".toList

/-- Settings of the token exchange. -/
structure AuthSettings where
  tokenUrl : Text
  deriving DecidableEq, Repr

/-- The settings of the token exchange. -/
def AuthSettings.resolve (args : List (Text × Json)) (env : Environment) :
    Except Error AuthSettings :=
  Setting.group .authSettings "CLOUDSIGN_AUTH_" ["token_url"] args env fun all =>
    Decoded.ap (.ok AuthSettings.mk) (Field.withDefault all "token_url" tokenUrlDefault Field.text)

/-! ## Storage -/

def storageHostDefault : Text := "storage.googleapis.com".toList

structure StorageSettings where
  emulatorHost : Text
  deriving DecidableEq, Repr

def StorageSettings.resolve (args : List (Text × Json)) (env : Environment) :
    Except Error StorageSettings :=
  Setting.group .storageSettings "STORAGE_" ["emulator_host"] args env fun all =>
    Decoded.ap (.ok StorageSettings.mk) (Field.withDefault all "emulator_host" [] Field.text)

/-- The settings of the storage service from the environment alone. -/
def StorageSettings.ofEnvironment (env : Environment) : StorageSettings :=
  ⟨(env.value? "STORAGE_EMULATOR_HOST".toList).getD []⟩

/-- The host of the storage service: the emulator's if there is one, without a scheme in front and
slashes behind. -/
def StorageSettings.host (s : StorageSettings) : Text :=
  if s.emulatorHost = [] then storageHostDefault
  else Text.trimEnd (· = '/')
    (Text.dropStart "http://".toList (Text.dropStart "https://".toList s.emulatorHost))

/-! ## Logging -/

structure LogSettings where
  level : Text
  jsonOutput : Bool
  deriving DecidableEq, Repr

def LogSettings.resolve (args : List (Text × Json)) (env : Environment) :
    Except Error LogSettings :=
  Setting.group .logSettings "CLOUDSIGN_LOG_" ["level", "json_output"] args env fun all =>
    Decoded.ap
      (Decoded.ap (.ok LogSettings.mk) (Field.withDefault all "level" "INFO".toList Field.text))
      (Field.withDefault all "json_output" false Field.bool)

end SignedAccess
