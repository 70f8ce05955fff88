import Brokerage.Settings
import Brokerage.State
import Brokerage.Text.Quoted

/-! # The command line

Which arguments and environment variables the program takes, which settings come of them, and what
has to succeed before it can listen.
-/

namespace Brokerage

/-- The options of a run. -/
structure CommandLine where
  /-- The file with the settings. -/
  config : Option String
  apiAddr : Option String
  databaseUrl : Option String
  logLevel : String
  logJson : Bool
  deriving DecidableEq, Repr, Inhabited

namespace CommandLine

def programName : String := "router-broker"

def version : String := "0.2.0"

/-- Why the program ends before it begins. -/
inductive Stop where
  | help
  | version
  | misuse (argument : String)
  deriving DecidableEq, Repr, Inhabited

def Stop.exitCode : Stop → Nat
  | .help | .version => 0
  | .misuse _ => 2

/-- What the options are for. -/
def usage : String :=
  "Usage: router-broker [OPTIONS]\n\nOptions:\n" ++
  "      --config <CONFIG>              YAML configuration file\n" ++
  "      --api-addr <API_ADDR>          REST API bind address\n" ++
  "      --database-url <DATABASE_URL>  Binding store URL\n" ++
  "      --log-level <LOG_LEVEL>        Log level (trace, debug, info, warn, error)\n" ++
  "      --log-json                     Output logs as JSON\n" ++
  "  -h, --help                         Print help\n" ++
  "  -V, --version                      Print version"

/-- What is printed instead of beginning. -/
def Stop.text : Stop → String
  | .help => usage
  | .version => programName ++ " " ++ CommandLine.version
  | .misuse argument => "error: cannot use the argument '" ++ argument ++ "'\n\n" ++ usage

/-- The options that take a value. -/
inductive Key where
  | config
  | apiAddr
  | databaseUrl
  | logLevel
  deriving DecidableEq, Repr, Inhabited

namespace Key

/-- The option of a long name. -/
def ofName? : String → Option Key
  | "config" => some .config
  | "api-addr" => some .apiAddr
  | "database-url" => some .databaseUrl
  | "log-level" => some .logLevel
  | _ => none

/-- The environment variable that stands in for a missing option. -/
def environmentName : Key → String
  | .config => "ROUTER_BROKER_CONFIG"
  | .apiAddr => "API_ADDR"
  | .databaseUrl => "DATABASE_URL"
  | .logLevel => "LOG_LEVEL"

/-- Only the name of a file must not be empty. -/
def accepts (key : Key) (value : String) : Bool := !(key = .config && value = "")

end Key

/-- What the arguments give. -/
structure Given where
  values : List (Key × String)
  logJson : Bool
  deriving DecidableEq, Repr, Inhabited

namespace Given

def nothing : Given := ⟨[], false⟩

/-- Take the value of an option, which must not have one yet. -/
def take (g : Given) (key : Key) (value : String) : Except Stop Given :=
  if (g.values.lookup key).isSome || !key.accepts value then .error (.misuse value)
  else .ok { g with values := g.values ++ [(key, value)] }

/-- A switch is set once. -/
def setLogJson (g : Given) : Except Stop Given :=
  if g.logJson then .error (.misuse "--log-json") else .ok { g with logJson := true }

end Given

/-- Whether an argument is an option; a single dash is a value. -/
def isOption (argument : String) : Bool := argument.startsWith "-" && argument != "-"

/-- What an argument is by itself. -/
inductive Argument where
  | stop (reason : Stop)
  | logJson
  /-- An option whose value is the next argument. -/
  | option (key : Key)
  /-- An option together with its value. -/
  | assigned (key : Key) (value : String)
  /-- The mark after which no option stands. -/
  | terminator
  deriving DecidableEq, Repr, Inhabited

/-- Read one argument. -/
def Argument.ofText (text : String) : Argument :=
  match text.toList with
  | ['-', '-'] => .terminator
  | '-' :: '-' :: body =>
    let name := String.ofList (body.takeWhile (· != '='))
    let key := Key.ofName? name
    match key, body.dropWhile (· != '=') with
    | some key, '=' :: value => .assigned key (String.ofList value)
    | some key, _ => .option key
    | none, '=' :: _ => .stop (.misuse text)
    | none, _ =>
      if name = "help" then .stop .help
      else if name = "version" then .stop .version
      else if name = "log-json" then .logJson
      else .stop (.misuse text)
  | '-' :: 'h' :: _ => .stop .help
  | '-' :: 'V' :: _ => .stop .version
  | _ => .stop (.misuse text)

/-- Read the arguments from left to right. -/
def scan : Given → List String → Except Stop Given
  | g, [] => .ok g
  | g, text :: rest =>
    match Argument.ofText text with
    | .stop reason => .error reason
    | .logJson => do scan (← g.setLogJson) rest
    | .assigned key value => do scan (← g.take key value) rest
    | .terminator => if rest = [] then .ok g else .error (.misuse text)
    | .option key =>
      match rest with
      | [] => .error (.misuse text)
      | value :: rest =>
        if isOption value then .error (.misuse text)
        else do scan (← g.take key value) rest

/-- Whether logs are to be JSON, as an environment variable has it. -/
def readSwitch : Option String → Except Stop Bool
  | none | some "false" => .ok false
  | some "true" => .ok true
  | some value => .error (.misuse value)

/-- The options that arguments and environment give; arguments come first. -/
def ofArguments (arguments : List String) (environment : String → Option String) :
    Except Stop CommandLine := do
  let given ← scan .nothing arguments
  let value (key : Key) := given.values.lookup key <|> environment key.environmentName
  let config := value .config
  if config.any (!Key.config.accepts ·) then throw (.misuse "")
  let logJson ← if given.logJson then pure true else readSwitch (environment "LOG_JSON")
  return {
    config
    apiAddr := value .apiAddr
    databaseUrl := value .databaseUrl
    logLevel := (value .logLevel).getD "info"
    logJson }

/-- The settings of a run: those of the file, with what the options put over them. Both must be
sound. -/
def settings (c : CommandLine) (contents : Except Error String) : Except Error Settings := do
  let s ←
    match c.config with
    | some _ => Settings.ofYaml (← contents)
    | none => pure Settings.standard
  let s := { s with
    api.bindAddr := c.apiAddr.getD s.api.bindAddr
    store.databaseUrl := c.databaseUrl.getD s.store.databaseUrl }
  s.validate
  return s

/-- A broker that only has to listen. -/
structure Ready where
  settings : Settings
  registry : Registry
  state : State

/-- Make everything that some settings ask for: the store, the policy, the backends. -/
def prepare (s : Settings) (canOpen : String → Bool) (network : Remote.Service) (ids : IdSupply) :
    Except Error Ready := do
  let store ← Store.connect s.store canOpen
  let (policy, ids) ← Policy.build s.policy network ids
  let (registry, backends) ← Registry.build s.plugins
  return ⟨s, registry, .initial policy store backends ids⟩

/-- The error of an address that cannot be listened on. -/
def bindFailure (detail : String) : Error := .internal ("Failed to bind REST server: " ++ detail)

/-! ## The last words -/

/-- The name of the cause of an error. -/
def causeName : Error → String
  | .internal _ => "Internal"
  | .configuration _ => "Configuration"
  | .noMoreResources _ => "NoMoreResources"
  | .wrongResourceId _ => "WrongResourceId"
  | .wrongObjectId _ => "WrongObjectId"
  | .missingObjectId _ => "MissingObjectId"
  | .duplicateBinding _ => "DuplicateBinding"
  | .database _ => "Database"
  | .unknownDescriptor _ => "UnknownDescriptor"
  | .unsupportedOperation .. => "UnsupportedOperation"
  | .routerNotFound .. => "RouterNotFound"
  | .backendFailed .. => "BackendOperationFailed"
  | .http _ => "Http"
  | .remoteService .. => "RemoteService"
  | .malformedResponse _ => "MalformedResponse"
  | .timeout .. => "Timeout"
  | .jsonParse _ => "JsonParse"
  | .yamlParse _ => "YamlParse"
  | .io _ => "Io"

/-- What explains an error beside the name of its cause. -/
def explanation : Error → String
  | .internal reason | .configuration reason | .io reason => reason
  | .database detail | .http detail | .jsonParse detail | .yamlParse detail => detail
  | e => e.message

/-- The error that ends the program, as it is reported. -/
def report (e : Error) : String := causeName e ++ "(" ++ shown (explanation e) ++ ")"

end CommandLine
end Brokerage
