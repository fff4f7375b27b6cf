import Newsdesk.Settings.Basic

/-!
# The command line

Every setting has an option on the command line and an environment variable; the option wins.
An option takes its value from the same argument, behind `=`, or from the next one, which must
not look like an option. Each option may be given once.
-/

namespace Newsdesk

/-- Why a command line gives no settings. -/
inductive UsageError where
  | displayHelp
  | displayVersion
  | unknownArgument
  | tooManyValues
  | missingValue
  | repeatedOption
  | malformedNumber
deriving DecidableEq, Repr

namespace Settings

/-- The options that take a value. -/
inductive OptionName where
  | aggregatorUrl
  | aggregatorTimeoutSecs
  | configMapName
  | configMapNamespace
  | watchNamespace
  | webhookPort
  | tlsCertPath
  | tlsKeyPath
  | hotNewsRefreshSecs
  | errorBackoffInitialMillis
  | errorBackoffMaxSecs
deriving DecidableEq, Repr

/-! ## Values -/

/-- The digits behind an optional plus sign. -/
def unsignedDigits (cs : List Char) : Option (List Char) :=
  let ds := match cs with
    | '+' :: rest => rest
    | cs => cs
  if ds ≠ [] ∧ ds.all Char.isDigit then some ds else none

/-- The number written by decimal digits. -/
def digitsValue (ds : List Char) : Nat := ds.foldl (fun n c => n * 10 + (c.toNat - '0'.toNat)) 0

/-- The greatest number that a setting can hold. -/
def maxNumber : Nat := 0xFFFFFFFFFFFFFFFF

/-- The greatest port. -/
def maxPort : Nat := 0xFFFF

/-- A natural number of 64 bits. -/
def readSeconds (s : String) : Except UsageError Nat :=
  match unsignedDigits s.toList with
  | some ds => if digitsValue ds ≤ maxNumber then .ok (digitsValue ds) else .error .malformedNumber
  | none => .error .malformedNumber

/-- A port; zero may have a minus sign. -/
def readPort (s : String) : Except UsageError Nat :=
  let cs := s.toList
  let value := match cs with
    | '-' :: rest =>
      if rest ≠ [] ∧ rest.all Char.isDigit ∧ digitsValue rest = 0 then some 0 else none
    | _ => (unsignedDigits cs).map digitsValue
  match value with
  | some n => if n ≤ maxPort then .ok n else .error .malformedNumber
  | none => .error .malformedNumber

/-- A path, which must not be empty. -/
def readPath (s : String) : Except UsageError String :=
  if s = "" then .error .missingValue else .ok s

/-- Sets the value of an option. -/
def assign (option : OptionName) (value : String) (s : Settings) : Except UsageError Settings :=
  match option with
  | .aggregatorUrl => .ok { s with aggregatorUrl := value }
  | .aggregatorTimeoutSecs => do return { s with aggregatorTimeoutSecs := ← readSeconds value }
  | .configMapName => .ok { s with configMapName := value }
  | .configMapNamespace => .ok { s with configMapNamespace := some value }
  | .watchNamespace => .ok { s with watchNamespace := some value }
  | .webhookPort => do return { s with webhookPort := ← readPort value }
  | .tlsCertPath => do return { s with tlsCertPath := ← readPath value }
  | .tlsKeyPath => do return { s with tlsKeyPath := ← readPath value }
  | .hotNewsRefreshSecs => do return { s with hotNewsRefreshSecs := ← readSeconds value }
  | .errorBackoffInitialMillis => do
    return { s with errorBackoffInitialMillis := ← readSeconds value }
  | .errorBackoffMaxSecs => do return { s with errorBackoffMaxSecs := ← readSeconds value }

/-! ## Arguments -/

/-- The name of an option behind its two hyphens. -/
def OptionName.flag : OptionName → String
  | .aggregatorUrl => "aggregator-url"
  | .aggregatorTimeoutSecs => "aggregator-timeout-secs"
  | .configMapName => "config-map-name"
  | .configMapNamespace => "config-map-namespace"
  | .watchNamespace => "watch-namespace"
  | .webhookPort => "webhook-port"
  | .tlsCertPath => "tls-cert-path"
  | .tlsKeyPath => "tls-key-path"
  | .hotNewsRefreshSecs => "hot-news-refresh-secs"
  | .errorBackoffInitialMillis => "error-backoff-initial-millis"
  | .errorBackoffMaxSecs => "error-backoff-max-secs"

/-- All options that take a value. -/
def OptionName.all : List OptionName :=
  [.aggregatorUrl, .aggregatorTimeoutSecs, .configMapName, .configMapNamespace, .watchNamespace,
    .webhookPort, .tlsCertPath, .tlsKeyPath, .hotNewsRefreshSecs, .errorBackoffInitialMillis,
    .errorBackoffMaxSecs]

/-- What the arguments read so far have set. -/
structure Reading where
  settings : Settings
  given : List OptionName
  webhooksDisabled : Bool
  pending : Option OptionName

/-- Accepts the value of an option. -/
def Reading.accept (r : Reading) (option : OptionName) (value : String) :
    Except UsageError Reading :=
  if r.given.contains option then .error .repeatedOption
  else do
    return { r with
      settings := ← assign option value r.settings
      given := option :: r.given
      pending := none }

/-- An option that still waits for its value has none. -/
def Reading.settle (r : Reading) : Except UsageError Reading :=
  match r.pending with
  | none => .ok r
  | some option =>
    if r.given.contains option then .error .repeatedOption else .error .missingValue

/-- The name and the attached value of a long argument. -/
def splitAttached (cs : List Char) : List Char × Option (List Char) :=
  match cs.dropWhile (· ≠ '=') with
  | _ :: value => (cs.takeWhile (· ≠ '='), some value)
  | [] => (cs, none)

/-- Reads an argument that starts with two hyphens. -/
def Reading.long (r : Reading) (cs : List Char) : Except UsageError Reading :=
  let (name, value) := splitAttached cs
  let name := String.ofList name
  match OptionName.all.find? fun o => o.flag = name with
  | some option => do
    let r ← r.settle
    match value with
    | some value => r.accept option (String.ofList value)
    | none => return { r with pending := some option }
  | none =>
    if name = "disable-webhooks" then do
      let r ← r.settle
      if value.isSome then throw .tooManyValues
      if r.webhooksDisabled then throw .repeatedOption
      return { r with webhooksDisabled := true }
    else if name = "help" ∨ name = "version" then do
      let _ ← r.settle
      if value.isSome then throw .tooManyValues
      throw (if name = "help" then .displayHelp else .displayVersion)
    else .error .unknownArgument

/-- Reads the arguments in order. -/
def readArguments (r : Reading) : List String → Except UsageError Reading
  | [] => r.settle
  | arg :: rest =>
    match arg.toList with
    | '-' :: '-' :: cs =>
      if cs = [] then
        if rest = [] then r.settle else .error .unknownArgument
      else do readArguments (← r.long cs) rest
    | '-' :: c :: _ =>
      if c = 'h' ∨ c = 'V' then do
        let _ ← r.settle
        throw (if c = 'h' then .displayHelp else .displayVersion)
      else .error .unknownArgument
    | _ =>
      match r.pending with
      | some option => do readArguments (← r.accept option arg) rest
      | none => .error .unknownArgument

/-- The usage of the command line: every option with its value. -/
def usage : String :=
  let options := OptionName.all.map fun o => "[--" ++ o.flag ++ " VALUE]"
  String.intercalate "\n  " ("usage: newsdesk [--disable-webhooks] [--help] [--version]" :: options)

/-! ## Environment -/

/-- The settings that have an environment variable, in their order; `none` is the switch that
disables the webhooks. -/
def variableNames : List (String × Option OptionName) :=
  [("AGGREGATOR_URL", some .aggregatorUrl),
    ("AGGREGATOR_TIMEOUT_SECS", some .aggregatorTimeoutSecs),
    ("FEED_GROUPS_CONFIG_MAP", some .configMapName),
    ("FEED_GROUPS_NAMESPACE", some .configMapNamespace),
    ("WATCH_NAMESPACE", some .watchNamespace),
    ("WEBHOOK_PORT", some .webhookPort),
    ("TLS_CERT_PATH", some .tlsCertPath),
    ("TLS_KEY_PATH", some .tlsKeyPath),
    ("DISABLE_WEBHOOKS", none),
    ("HOT_NEWS_REFRESH_SECS", some .hotNewsRefreshSecs),
    ("ERROR_BACKOFF_INITIAL_MILLIS", some .errorBackoffInitialMillis),
    ("ERROR_BACKOFF_MAX_SECS", some .errorBackoffMaxSecs)]

/-- Takes a setting from its variable, unless an argument has set it. -/
def Reading.fromVariable (environment : List (String × String)) (r : Reading)
    (entry : String × Option OptionName) : Except UsageError Reading :=
  match environment.lookup entry.1 with
  | none => .ok r
  | some value =>
    match entry.2 with
    | some option =>
      if r.given.contains option then .ok r
      else do return { r with settings := ← assign option value r.settings }
    | none =>
      if r.webhooksDisabled then .ok r
      else if value = "true" then .ok { r with webhooksDisabled := true }
      else if value = "false" then .ok r
      else .error .missingValue

/-- The settings from arguments and environment variables. -/
def ofCommandLine (arguments : List String) (environment : List (String × String)) :
    Except UsageError Settings := do
  let r ← readArguments ⟨{}, [], false, none⟩ arguments
  let r ← variableNames.foldlM (Reading.fromVariable environment) r
  return { r.settings with disableWebhooks := r.webhooksDisabled }

end Settings

/-- The wording of a usage error. -/
def UsageError.message : UsageError → String
  | .displayHelp => Settings.usage
  | .displayVersion => "newsdesk 0.3.0"
  | .unknownArgument => "unknown argument"
  | .tooManyValues => "a switch takes no value"
  | .missingValue => "an option has no usable value"
  | .repeatedOption => "an option is given more than once"
  | .malformedNumber => "a number is malformed or out of range"

/-- Whether a usage error is what the arguments asked for. -/
def UsageError.isRequested (e : UsageError) : Bool := e = .displayHelp || e = .displayVersion

end Newsdesk
