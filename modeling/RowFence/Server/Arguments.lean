import RowFence.Server.Config
import RowFence.Text.Digits
import RowFence.Text.Split

/-! Settings of the server from its command line and from environment variables. An argument comes
before the variable of the same setting, and that before the usual value. -/

namespace RowFence

inductive ArgumentError where
  /-- No failure: the help text is asked for. -/
  | help
  | unknown (argument : String)
  | value (setting : String)
  | malformed (setting value : String)
  | repeated (setting : String)
  | needlessValue (setting : String)
  deriving DecidableEq, Repr

def ArgumentError.message : ArgumentError → String
  | help => "help is asked for"
  | unknown argument => "unexpected argument '" ++ argument ++ "' found"
  | value setting => "a possible value is required for '--" ++ setting ++ "'"
  | malformed setting text => "invalid value '" ++ text ++ "' for '--" ++ setting ++ "'"
  | repeated setting => "the argument '--" ++ setting ++ "' cannot be used multiple times"
  | needlessValue setting => "unexpected value for '--" ++ setting ++ "' found"

structure Setting where
  name : String
  letter? : Option Char
  environmentName : String
  isSwitch : Bool
  repeats : Bool
  set : String → ServerConfig → Except ArgumentError ServerConfig

namespace Setting

def integer? (s : String) : Option Int :=
  match s.toList with
  | '-' :: digits => (Text.decimal? digits).map fun n => -(n : Int)
  | '+' :: digits => (Text.decimal? digits).map Int.ofNat
  | digits => (Text.decimal? digits).map Int.ofNat

def natural? (s : String) : Option Nat :=
  match s.toList with
  | '+' :: digits => Text.decimal? digits
  | digits => Text.decimal? digits

def bool? : String → Option Bool
  | "true" => some true
  | "false" => some false
  | _ => none

variable {α : Type}

def valued (name : String) (letter? : Option Char) (environmentName : String) (read? : String → Option α)
    (put : α → ServerConfig → ServerConfig) : Setting where
  name
  letter?
  environmentName
  isSwitch := false
  repeats := false
  set s c :=
    match read? s with
    | some a => .ok (put a c)
    | none => .error (.malformed name s)

def text (name environmentName : String) (put : String → ServerConfig → ServerConfig) : Setting :=
  valued name none environmentName some put

def chosen (name environmentName : String) (isSwitch : Bool) (read? : String → Option α)
    (put : α → ServerConfig → ServerConfig) : Setting where
  name
  letter? := none
  environmentName
  isSwitch
  repeats := false
  set s c :=
    match read? s with
    | some a => .ok (put a c)
    | none => .error (.value name)

/-- A setting whose values are lists with commas. They are put together. -/
def listed (name environmentName : String) (add : List String → ServerConfig → ServerConfig) :
    Setting where
  name
  letter? := none
  environmentName
  isSwitch := false
  repeats := true
  set s c := .ok (add (Text.pieces ',' s) c)

def nonempty? (s : String) : Option String := if s.isEmpty then none else some s

def added (before? : Option (List String)) (more : List String) : Option (List String) :=
  some (before?.getD [] ++ more)

def all : List Setting := [
  valued "port" (some 'p') "TESSERA_SERVER_PORT"
    (fun s => (((integer? s).filter isInt64).bind Int.toNat?).filter (· < Nat.pow 2 16))
    fun n c => { c with portNumber := n },
  text "host" "TESSERA_SERVER_HOST" fun s c => { c with host := s },
  text "log-level" "TESSERA_LOG_LEVEL" fun s c => { c with logLevel := s },
  valued "request-timeout" none "TESSERA_REQUEST_TIMEOUT"
    (fun s => (natural? s).filter (· < Nat.pow 2 64)) fun n c => { c with requestTimeout := n },
  chosen "enable-cors" "TESSERA_ENABLE_CORS" true bool? fun b c => { c with corsEnabled := b },
  text "cors-origins" "TESSERA_CORS_ORIGINS" fun s c => { c with corsOrigins := s },
  text "cors-methods" "TESSERA_CORS_METHODS" fun s c => { c with corsMethods := s },
  text "cors-headers" "TESSERA_CORS_HEADERS" fun s c => { c with corsHeaders := s },
  chosen "enable-request-id" "TESSERA_ENABLE_REQUEST_ID" true bool? fun b c =>
    { c with requestIdsEnabled := b },
  chosen "isolation-config" "TESSERA_ISOLATION_CONFIG" false nonempty? fun s c =>
    { c with isolationFile? := some s },
  chosen "tenant-enabled" "TESSERA_TENANT_ENABLED" false bool? fun b c =>
    { c with tenantEnabled? := some b },
  chosen "tenant-required" "TESSERA_TENANT_REQUIRED" false bool? fun b c =>
    { c with tenantRequired? := some b },
  valued "default-tenant-id" none "TESSERA_DEFAULT_TENANT_ID"
    (fun s => (integer? s).filter isInt64) fun i c => { c with defaultTenantId? := some i },
  text "tenant-id-header" "TESSERA_TENANT_ID_HEADER" fun s c =>
    { c with tenantIdHeader? := some s },
  chosen "subdomain-enabled" "TESSERA_SUBDOMAIN_ENABLED" false bool? fun b c =>
    { c with subdomainEnabled? := some b },
  valued "sql-dialect" none "TESSERA_SQL_DIALECT" (fun s => (Sql.Dialect.ofName s).toOption)
    fun d c => { c with dialect? := some d },
  listed "excluded-tables" "TESSERA_EXCLUDED_TABLES" fun names c =>
    { c with excludedTables? := added c.excludedTables? names },
  listed "excluded-paths" "TESSERA_EXCLUDED_PATHS" fun paths c =>
    { c with excludedPaths? := added c.excludedPaths? paths },
  text "database-url" "TESSERA_DATABASE_URL" fun s c => { c with databaseUrl? := some s }]

def ofName? (name : String) : Option Setting := all.find? (·.name == name)

def ofLetter? (letter : Char) : Option Setting := all.find? (·.letter? == some letter)

def usage (s : Setting) : String :=
  let letter := match s.letter? with
    | some c => "-" ++ c.toString ++ ", "
    | none => ""
  letter ++ "--" ++ s.name ++ (if s.isSwitch then "" else " <value>")
    ++ " [env: " ++ s.environmentName ++ "]"

end Setting

namespace ServerConfig

structure Pending where
  setting : Setting
  value? : Option String

structure Given where
  names : List String := []
  config : ServerConfig := {}
  deriving DecidableEq, Repr

namespace Given

def give (g : Given) (s : Setting) (value : String) : Except ArgumentError Given := do
  if !s.repeats && g.names.contains s.name then throw (.repeated s.name)
  return ⟨s.name :: g.names, ← s.set value g.config⟩

def settle (g : Given) : Option Pending → Except ArgumentError Given
  | none => .ok g
  | some ⟨s, some value⟩ => g.give s value
  | some ⟨s, none⟩ => .error (.value s.name)

def take (g : Given) (pending? : Option Pending) (s : Setting) (attached? : Option String) :
    Except ArgumentError (Given × Option Pending) := do
  match attached? with
  | some value =>
    if s.isSwitch then throw (.needlessValue s.name)
    return (← (← g.settle pending?).give s value, none)
  | none =>
    let g ← g.settle pending?
    if s.isSwitch then return (← g.give s "true", none)
    return (g, some ⟨s, none⟩)

end Given

inductive Argument where
  | long (name : String) (value? : Option String)
  | short (letter : Char) (value? : Option String)
  | plain
  deriving DecidableEq, Repr

def splitEquals (cs : List Char) : String × Option String :=
  match cs.span (· != '=') with
  | (name, '=' :: value) => (.ofList name, some (.ofList value))
  | (name, _) => (.ofList name, none)

def Argument.ofText (s : String) : Argument :=
  match s.toList with
  | '-' :: '-' :: cs => .long (splitEquals cs).1 (splitEquals cs).2
  | '-' :: c :: '=' :: cs => .short c (some (.ofList cs))
  | ['-', c] => .short c none
  | '-' :: c :: cs => .short c (some (.ofList cs))
  | _ => .plain

def argument (g : Given) (pending? : Option Pending) (s : String) :
    Except ArgumentError (Given × Option Pending) :=
  match Argument.ofText s with
  | .long "help" none
  | .short 'h' _ => do
    let _ ← g.settle pending?
    throw .help
  | .long "help" (some _) => .error (.needlessValue "help")
  | .long name value? =>
    match Setting.ofName? name with
    | some setting => g.take pending? setting value?
    | none => .error (.unknown s)
  | .short letter value? =>
    match Setting.ofLetter? letter with
    | some setting => g.take pending? setting value?
    | none => .error (.unknown s)
  | .plain =>
    match pending? with
    | some ⟨setting, none⟩ => .ok (g, some ⟨setting, some s⟩)
    | _ => .error (.unknown s)

/-- Reads arguments one by one. Two dashes may stand at the end only. -/
def arguments (g : Given) (pending? : Option Pending) :
    List String → Except ArgumentError Given
  | [] => g.settle pending?
  | ["--"] => g.settle pending?
  | "--" :: other :: _ => .error (.unknown other)
  | s :: rest => do
    let (g, pending?) ← argument g pending? s
    arguments g pending? rest

def fromVariable (environment : String → Option String) (g : Given) (s : Setting) :
    Except ArgumentError Given :=
  if g.names.contains s.name then .ok g
  else
    match environment s.environmentName with
    | some value => g.give s value
    | none => .ok g

def ofArguments (environment : String → Option String) (args : List String) :
    Except ArgumentError ServerConfig := do
  let g ← arguments {} none args
  return (← Setting.all.foldlM (fromVariable environment) g).config

def ofEnvironment (environment : String → Option String) : ServerConfig :=
  match ofArguments environment [] with
  | .ok c => c
  | .error _ => {}

end ServerConfig

end RowFence
