import EditorShell.Json.Reader
import EditorShell.Settings
import EditorShell.Settings.Coercion
import EditorShell.Text.Case

/-!
# Loading settings

A setting is taken from the values that a host passes, else from the environment variable with the
name of the setting after `VSHELL_` in any case, else it has its default. Only the groups of
commands are given as JSON text in the environment, and that text must be JSON even if the host
passes a value of its own.
-/

namespace EditorShell

/-- Why settings cannot be loaded. -/
inductive SettingsError where
  /-- The environment gives no JSON text for this setting. -/
  | unreadable (setting : String)
  | invalid (findings : List Finding)
deriving DecidableEq, Repr

/-- The error in words. -/
def SettingsError.message : SettingsError → String
  | .unreadable setting =>
    "error parsing value for field \"" ++ setting ++ "\" from source \"EnvSettingsSource\""
  | .invalid findings => "settings: " ++ Finding.summary findings

namespace Settings

/-- The values that a host passes, and the environment variables with their values. -/
structure Sources where
  passed : List (String × Json)
  environment : List (String × String)

/-- The environment variable for a setting; of several in different cases the last one counts. -/
def Sources.lookup? (sources : Sources) (setting : String) : Option String :=
  (sources.environment.findRev? fun entry => Text.lower entry.1 = "vshell_" ++ setting).map (·.2)

/-- The value given for a setting that is a text or a number. -/
def Sources.value? (sources : Sources) (setting : String) : Option Json :=
  (sources.passed.lookup setting).or ((sources.lookup? setting).map .string)

/-- A setting, read by `read` if a value is given. -/
def Sources.setting {α : Type} (sources : Sources) (name : String) (read : Json → Checked α)
    (default : α) : Checked α :=
  match sources.value? name with
  | none => .ok default
  | some v => Checked.under (.key name) (read v)

/-- The value that the environment gives for the groups of commands; JSON `null` gives none. -/
def Sources.groups? (sources : Sources) : Except SettingsError (Option Json) :=
  match sources.lookup? "command_groups" with
  | none => .ok none
  | some text =>
    match Json.read .replacing text with
    | .error _ => .error (.unreadable "command_groups")
    | .ok .null => .ok none
    | .ok v => .ok (some v)

/-- The settings, or everything that is wrong with them in the order of the settings. -/
def check (sources : Sources) (groups : Option Json) : Checked Settings :=
  let d := Settings.default
  let user := sources.setting "user" text d.user
  let home := sources.setting "home" text d.home
  let shell := sources.setting "shell" text d.shell
  let path := sources.setting "path" text d.path
  let term := sources.setting "term" text d.term
  let historyLimit := sources.setting "history_limit" positive d.historyLimit
  let historyTextLimit := sources.setting "history_text_limit" positive d.historyTextLimit
  let autocompleteLimit := sources.setting "autocomplete_limit" positive d.autocompleteLimit
  let networkDelay := sources.setting "network_delay" nonNegative d.networkDelay
  let commandGroups : Checked (List String) :=
    match (sources.passed.lookup "command_groups").or groups with
    | none => .ok d.commandGroups
    | some v => Checked.under (.key "command_groups") (textSet v)
  let logLevel := sources.setting "log_level" text d.logLevel
  match user, home, shell, path, term, historyLimit, historyTextLimit, autocompleteLimit,
    networkDelay, commandGroups, logLevel with
  | .ok user, .ok home, .ok shell, .ok path, .ok term, .ok historyLimit, .ok historyTextLimit,
    .ok autocompleteLimit, .ok networkDelay, .ok commandGroups, .ok logLevel =>
    .ok { user, home, shell, path, term, historyLimit, historyTextLimit, autocompleteLimit,
          networkDelay, commandGroups, logLevel }
  | _, _, _, _, _, _, _, _, _, _, _ =>
    .error (user.findings ++ home.findings ++ shell.findings ++ path.findings ++ term.findings ++
      historyLimit.findings ++ historyTextLimit.findings ++ autocompleteLimit.findings ++
      networkDelay.findings ++ commandGroups.findings ++ logLevel.findings)

/-- The settings that the sources give. -/
def load (sources : Sources) : Except SettingsError Settings :=
  match sources.groups? with
  | .error error => .error error
  | .ok groups =>
    match check sources groups with
    | .error findings => .error (.invalid findings)
    | .ok settings => .ok settings

end Settings
end EditorShell
