import RequestAuth.Environment
import RequestAuth.Json.Typed
import RequestAuth.Text.Shown
import RequestAuth.Url.Parse
import RequestAuth.Yaml.Reader

/-! What a client is set up with: the API key, perhaps a wallet secret, and how requests are made. -/

namespace RequestAuth

structure ClientOptions where
  keyId : String
  keySecret : String
  walletSecret : Option String
  basePath : String
  expiresIn : Option UInt64
  source : Option String
  sourceVersion : Option String
  debugging : Bool
  deriving DecidableEq

inductive OptionsFault where
  | noKeyId
  | noKeySecret
  | basePath (text : String) (fault : UrlFault)
  | setting (fault : SettingFault)
  deriving DecidableEq

def OptionsFault.message : OptionsFault → String
  | noKeyId => "api_key_id is required"
  | noKeySecret => "api_key_secret is required"
  | basePath text fault => s!"invalid base path {text}: {fault.message}"
  | setting fault => fault.message

namespace ClientOptions

def defaultBasePath : String := "https://api.cdp.coinbase.com/platform"

def new (keyId keySecret : String) : ClientOptions where
  keyId := keyId
  keySecret := keySecret
  walletSecret := none
  basePath := defaultBasePath
  expiresIn := none
  source := none
  sourceVersion := none
  debugging := false

def withSource (o : ClientOptions) (source : String) (version : Option String) : ClientOptions :=
  { o with source := some source, sourceVersion := version }

def baseUrl (o : ClientOptions) : Except OptionsFault Url :=
  match Url.parse o.basePath with
  | .ok u => .ok u
  | .error f => .error (.basePath o.basePath f)

def validate (o : ClientOptions) : Except OptionsFault Unit := do
  if o.keyId = "" then throw .noKeyId
  if o.keySecret = "" then throw .noKeySecret
  let _ ← o.baseUrl

def optionalText : Option String → Json
  | some s => .text s
  | none => .null

def toJson (o : ClientOptions) : Json :=
  .object [("api_key_id", .text o.keyId), ("api_key_secret", .text o.keySecret),
    ("wallet_secret", optionalText o.walletSecret), ("base_path", .text o.basePath),
    ("expires_in",
      match o.expiresIn with
      | some n => .number (.integer n.toNat)
      | none => .null),
    ("source", optionalText o.source), ("source_version", optionalText o.sourceVersion),
    ("debugging", .bool o.debugging)]

def shown (o : ClientOptions) : Shown :=
  .record "ClientOptions"
    [("api_key_id", .text o.keyId), ("api_key_secret", .secret),
      ("wallet_secret", .optionalSecret o.walletSecret), ("base_path", .text o.basePath),
      ("expires_in", .option (fun n => .nat n.toNat) o.expiresIn),
      ("source", .option .text o.source), ("source_version", .option .text o.sourceVersion),
      ("debugging", .bool o.debugging)]

inductive Slot where
  | keyId
  | keySecret
  | walletSecret
  | basePath
  | expiresIn
  | source
  | sourceVersion
  | debugging
  deriving DecidableEq

@[reducible] def shape : Shape where
  Slot := Slot
  decEq := inferInstance
  title := "ClientOptions"
  slots := [.keyId, .keySecret, .walletSecret, .basePath, .expiresIn, .source, .sourceVersion,
    .debugging]
  mem_slots := by intro s; cases s <;> simp
  names
    | .keyId => ("api_key_id", ["api_key_name"])
    | .keySecret => ("api_key_secret", [])
    | .walletSecret => ("wallet_secret", [])
    | .basePath => ("base_path", ["api_url"])
    | .expiresIn => ("expires_in", [])
    | .source => ("source", [])
    | .sourceVersion => ("source_version", [])
    | .debugging => ("debugging", [])
  Value
    | .keyId | .keySecret | .basePath => String
    | .walletSecret | .source | .sourceVersion => Option String
    | .expiresIn => Option UInt64
    | .debugging => Bool
  absent
    | .keyId | .keySecret => none
    | .basePath => some defaultBasePath
    | .walletSecret | .source | .sourceVersion => some none
    | .expiresIn => some none
    | .debugging => some false
  omitted
    | .keyId | .keySecret => none
    | .basePath => some defaultBasePath
    | .walletSecret | .source | .sourceVersion => some none
    | .expiresIn => some none
    | .debugging => some false

def ofFilled (f : shape.Filled) : ClientOptions :=
  ⟨f .keyId, f .keySecret, f .walletSecret, f .basePath, f .expiresIn, f .source, f .sourceVersion,
    f .debugging⟩

def readSlot : (s : Slot) → Nat → Json.Read.Reader (shape.Value s)
  | .keyId, _ => Json.Read.string
  | .keySecret, _ => Json.Read.string
  | .walletSecret, _ => Json.Read.optional Json.Read.string
  | .basePath, _ => Json.Read.string
  | .expiresIn, _ => Json.Read.optional Json.Read.count
  | .source, _ => Json.Read.optional Json.Read.string
  | .sourceVersion, _ => Json.Read.optional Json.Read.string
  | .debugging, _ => Json.Read.boolean

def read (depth : Nat) : Json.Read.Reader ClientOptions := fun s => do
  let (f, r) ← Json.Read.record shape readSlot depth s
  return (ofFilled f, r)

def readSetting : (s : Slot) → String → Setting → Except SettingFault (shape.Value s)
  | .keyId, name, v => Environment.string name v
  | .keySecret, name, v => Environment.string name v
  | .walletSecret, name, v => (Environment.string name v).map some
  | .basePath, name, v => Environment.string name v
  | .expiresIn, name, v => (Environment.count name v).map some
  | .source, name, v => (Environment.string name v).map some
  | .sourceVersion, name, v => (Environment.string name v).map some
  | .debugging, name, v => Environment.flag name v

def readNode : (s : Slot) → Yaml.Read.Node → Except Yaml.Read.Refusal (shape.Value s)
  | .keyId, n => Yaml.Read.string n
  | .keySecret, n => Yaml.Read.string n
  | .walletSecret, n => Yaml.Read.optional Yaml.Read.string n
  | .basePath, n => Yaml.Read.string n
  | .expiresIn, n => Yaml.Read.optional Yaml.Read.count n
  | .source, n => Yaml.Read.optional Yaml.Read.string n
  | .sourceVersion, n => Yaml.Read.optional Yaml.Read.string n
  | .debugging, n => Yaml.Read.boolean n

def ofYaml (text : String) : Except Yaml.Read.Problem ClientOptions :=
  (Yaml.Read.record shape readNode text).map ofFilled

/-- The options that the variables set, if they can be used. -/
def ofEnvironment (vars : Environment.Variables) : Except OptionsFault ClientOptions :=
  match Environment.record shape readSetting vars with
  | .error f => .error (.setting f)
  | .ok f => do
    let o := ofFilled f
    o.validate
    return o

end ClientOptions
end RequestAuth
