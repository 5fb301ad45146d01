import RequestAuth.Command.Arguments
import RequestAuth.Command.LogFilter
import RequestAuth.Http.Headers

/-! Running a command: what it prints, or why it fails. Nothing is printed unless all goes well. -/

namespace RequestAuth

structure World where
  environment : Environment.Variables
  readFile : String → Except String String
  now : Times
  nonces : NonceSource

inductive CommandFault where
  | logFilter (fault : LogFilterFault)
  | environment (fault : OptionsFault)
  | configFile (path reason : String)
  | configText (problem : Yaml.Read.Problem)
  | configOptions (fault : OptionsFault)
  | noWalletSecret
  | bodyText (fault : Json.Read.Fault)
  | bodyNotObject
  | bearer (error : AuthError)
  | wallet (error : AuthError)
  | headers (error : AuthError)
  deriving DecidableEq

namespace CommandFault

def report (keyText : KeyFault → String) : CommandFault → String × List String
  | logFilter f => ("invalid log level", f.messages)
  | environment f => ("load client options from environment", [(AuthError.options f).message])
  | configFile path reason => ("read config file " ++ path, [reason])
  | configText p => ("parse config file", [p.message])
  | configOptions f => ("validate config file", [(AuthError.options f).message])
  | noWalletSecret => ("wallet secret is not configured", [])
  | bodyText f => ("parse --body as JSON", [f.message])
  | bodyNotObject => ("--body must be a JSON object", [])
  | bearer e => ("generate api key jwt", [e.text keyText])
  | wallet e => ("generate wallet jwt", [e.text keyText])
  | headers e => ("generate auth headers", [e.text keyText])

def indented (first later : String) (s : String) : String :=
  first ++ String.ofList (s.toList.flatMap fun c => if c = '\n' then '\n' :: later.toList else [c])

def numbered : Nat → List String → List String
  | _, [] => []
  | n, s :: r => indented s!"    {n}: " "       " s :: numbered (n + 1) r

def message (keyText : KeyFault → String) (f : CommandFault) : String :=
  let (what, causes) := f.report keyText
  let lines := match causes with
    | [] => []
    | [s] => [indented "    " "    " s]
    | ss => numbered 0 ss
  "Error: " ++ what ++ if lines = [] then "" else "\n\nCaused by:\n" ++ "\n".intercalate lines

end CommandFault

namespace Command

/-- Options count wherever they stand, those after the command before the others. -/
def option? (o : OptionName) (before after : OptionValues) : Option String :=
  (Arguments.value? o after).or (Arguments.value? o before)

/-- The options from a file, or else from the environment. -/
def loadOptions (w : World) (config : Option String) : Except CommandFault ClientOptions :=
  match config with
  | none => (ClientOptions.ofEnvironment w.environment).mapError .environment
  | some path => do
    let text ← (w.readFile path).mapError (.configFile path)
    let o ← (ClientOptions.ofYaml text).mapError .configText
    o.validate.mapError .configOptions
    return o

/-- The members of the body. A blank body is as good as none. -/
def parseBody (body : Option String) : Except CommandFault Members :=
  match body with
  | none => .ok []
  | some text =>
    if trimBlank text = "" then .ok []
    else match Json.Read.parse (Bytes.ofText text) with
      | .ok (.object ms) => .ok ms
      | .ok _ => .error .bodyNotObject
      | .error f => .error (.bodyText f)

def coordinates (vs : OptionValues) : Coordinates where
  method := asciiUpper ((Arguments.value? .method vs).getD "")
  host := (Arguments.value? .host vs).getD ""
  path := (Arguments.value? .path vs).getD ""

def perform (w : World) (x : Times → Signing α) : Except AuthError α :=
  match x w.now ⟨w.nonces, []⟩ with
  | .ok a _ => .ok a
  | .error e _ => .error e

def bearerRequest (o : ClientOptions) (vs : OptionValues) : BearerRequest where
  keyId := o.keyId
  keySecret := o.keySecret
  coordinates := coordinates vs
  expiresIn := (((Arguments.value? .expiresIn vs).bind Environment.countText?).or o.expiresIn).getD 0
  audience := Arguments.values .audience vs

def headersRequest (o : ClientOptions) (vs : OptionValues) (body : Members) : HeadersRequest where
  keyId := o.keyId
  keySecret := o.keySecret
  coordinates := coordinates vs
  body := some body
  walletSecret := o.walletSecret
  source := o.source
  sourceVersion := o.sourceVersion
  expiresIn := o.expiresIn
  audience := []

def line (s : String) : String := s ++ "\n"

def headerLines (h : HeaderSet) : String :=
  String.join (h.pairs.map fun p => line (p.1 ++ ": " ++ p.2))

def output (w : World) (o : ClientOptions) (name : CommandName) (vs : OptionValues) :
    Except CommandFault String :=
  match name with
  | .jwt => do
    let token ← (perform w fun now => (bearerRequest o vs).token now.bearer).mapError .bearer
    return line token
  | .walletJwt =>
    match o.walletSecret with
    | none => .error .noWalletSecret
    | some secret => do
      let body ← parseBody (Arguments.value? .body vs)
      let token ← (perform w fun now => (WalletRequest.mk secret (coordinates vs) body).token now.wallet).mapError .wallet
      return line token
  | .headers => do
    let body ← parseBody (Arguments.value? .body vs)
    let h ← (perform w (headersRequest o vs body).headers).mapError .headers
    return headerLines h

def defaultLogFilter : String := "warn"

def run (w : World) (name : CommandName) (before after : OptionValues) : Except CommandFault String := do
  (LogFilter.check ((option? .logLevel before after).getD defaultLogFilter)).mapError .logFilter
  let o ← loadOptions w (option? .config before after)
  output w o name after

/-- What a run leaves behind. In front of the report, the log is written to the same place. -/
structure Outcome where
  exit : UInt32
  stdout : String
  stderr : String
  deriving DecidableEq

def versionLine : String := "cdp-auth " ++ version

def usage : String :=
  "Usage: cdp-auth [--config PATH] [--log-level LEVEL] <jwt|wallet-jwt|headers> [OPTIONS]"

def ended (keyText : KeyFault → String) : Except CommandFault String → Outcome
  | .ok s => ⟨0, s, ""⟩
  | .error f => ⟨1, "", line (f.message keyText)⟩

/-- What a run leaves behind where the texts of faults in keys are these. -/
def outcomeWith (keyText : KeyFault → String) (w : World) (args : List String) : Outcome :=
  match Arguments.parse args with
  | none => ⟨2, "", line usage⟩
  | some .help => ⟨0, line usage, ""⟩
  | some .version => ⟨0, line versionLine, ""⟩
  | some (.run name before after) => ended keyText (run w name before after)

def outcome (w : World) (args : List String) : Outcome := outcomeWith KeyFault.context w args

end Command
end RequestAuth
