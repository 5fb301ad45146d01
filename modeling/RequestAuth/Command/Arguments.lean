import RequestAuth.Environment

/-! The arguments of the command line: options before and after the name of a command, each with a value
of its own. -/

namespace RequestAuth

inductive CommandName where
  | jwt
  | walletJwt
  | headers
  deriving DecidableEq

inductive OptionName where
  | config
  | logLevel
  | method
  | host
  | path
  | expiresIn
  | audience
  | body
  deriving DecidableEq

abbrev OptionValues := List (OptionName × String)

inductive Invocation where
  | run (name : CommandName) (before after : OptionValues)
  | version
  | help
  deriving DecidableEq

namespace CommandName

def text : CommandName → String
  | jwt => "jwt"
  | walletJwt => "wallet-jwt"
  | headers => "headers"

def all : List CommandName := [jwt, walletJwt, headers]

def ofText? (s : String) : Option CommandName := all.find? fun c => c.text == s

def options : CommandName → List OptionName
  | jwt => [.config, .logLevel, .method, .host, .path, .expiresIn, .audience]
  | walletJwt | headers => [.config, .logLevel, .method, .host, .path, .body]

def required : CommandName → List OptionName
  | jwt => []
  | walletJwt | headers => [.method, .host, .path]

end CommandName

namespace OptionName

def text : OptionName → String
  | config => "--config"
  | logLevel => "--log-level"
  | method => "--method"
  | host => "--host"
  | path => "--path"
  | expiresIn => "--expires-in"
  | audience => "--audience"
  | body => "--body"

def isRepeatable : OptionName → Bool
  | audience => true
  | _ => false

def accepts : OptionName → String → Bool
  | config, s => s != ""
  | expiresIn, s => (Environment.countText? s).isSome
  | _, _ => true

end OptionName

namespace Arguments

def splitOption (arg : String) : String × Option String :=
  let name := arg.toList.takeWhile (· != '=')
  match arg.toList.drop name.length with
  | _ :: value => (String.ofList name, some (String.ofList value))
  | [] => (arg, none)

/-- A value that is not attached does not look like an option. A single dash does not. -/
def isValue (arg : String) : Bool := !arg.startsWith "-" || arg == "-"

def has (o : OptionName) (vs : OptionValues) : Bool := vs.any fun v => v.1 == o

def values (o : OptionName) (vs : OptionValues) : List String := (vs.filter fun v => v.1 == o).map Prod.snd

def value? (o : OptionName) (vs : OptionValues) : Option String := (values o vs).head?

/-- Adds a value, unless there is one or it is none for this option. -/
def add (o : OptionName) (v : String) (vs : OptionValues) : Option OptionValues :=
  if (has o vs && !o.isRepeatable) || !o.accepts v then none else some (vs ++ [(o, v)])

inductive Parsed where
  | help
  | options (vs : OptionValues)

def commandOptions (allowed : List OptionName) : OptionValues → List String → Option Parsed
  | vs, [] => some (.options vs)
  | vs, arg :: r =>
    if arg == "--" then (if r = [] then some (.options vs) else none)
    else if arg == "--help" || arg.startsWith "-h" then some .help
    else match splitOption arg with
      | (name, some v) => do
        let o ← allowed.find? fun o => o.text == name
        commandOptions allowed (← add o v vs) r
      | (name, none) => do
        let o ← allowed.find? fun o => o.text == name
        match r with
        | [] => none
        | next :: r => if isValue next then commandOptions allowed (← add o next vs) r else none

def command (before : OptionValues) (arg : String) (r : List String) : Option Invocation :=
  if arg == "help" then
    match r with
    | [] => some .help
    | [c] => if c == "help" || (CommandName.ofText? c).isSome then some .help else none
    | _ => none
  else do
    let c ← CommandName.ofText? arg
    match ← commandOptions c.options [] r with
    | .help => return .help
    | .options after => if c.required.all fun o => has o after then return .run c before after else none

/-- The options before the command. The version ends them at once. -/
def parseFrom : OptionValues → List String → Option Invocation
  | _, [] => none
  | vs, arg :: r =>
    if arg == "--version" || arg.startsWith "-V" then some .version
    else if arg == "--help" || arg.startsWith "-h" then some .help
    else if isValue arg then command vs arg r
    else match splitOption arg with
      | (name, some v) => do
        let o ← [OptionName.config, .logLevel].find? fun o => o.text == name
        parseFrom (← add o v vs) r
      | (name, none) => do
        let o ← [OptionName.config, .logLevel].find? fun o => o.text == name
        match r with
        | [] => none
        | next :: r => if isValue next then parseFrom (← add o next vs) r else none

def parse (args : List String) : Option Invocation := parseFrom [] args

end Arguments
end RequestAuth
