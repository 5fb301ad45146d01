import RequestAuth.Algorithm
import RequestAuth.Base64
import RequestAuth.Bytes
import RequestAuth.Command.Arguments
import RequestAuth.Command.LogFilter
import RequestAuth.Command.Run
import RequestAuth.Curve.Ed25519
import RequestAuth.Curve.Modular
import RequestAuth.Curve.P256
import RequestAuth.Der
import RequestAuth.Environment
import RequestAuth.Error
import RequestAuth.Event
import RequestAuth.Hash.Hmac
import RequestAuth.Hash.Sha256
import RequestAuth.Hash.Sha512
import RequestAuth.Http.Correlation
import RequestAuth.Http.HeaderSet
import RequestAuth.Http.Headers
import RequestAuth.Http.Request
import RequestAuth.Http.WalletRule
import RequestAuth.Json.Basic
import RequestAuth.Json.Reader
import RequestAuth.Json.Skip
import RequestAuth.Json.Typed
import RequestAuth.Key.EcPrivateKey
import RequestAuth.Key.PrivateKeyInfo
import RequestAuth.Key.SigningKey
import RequestAuth.Main
import RequestAuth.Nonce
import RequestAuth.Number.Binary64
import RequestAuth.Number.Shortest
import RequestAuth.Options
import RequestAuth.Pem
import RequestAuth.Record
import RequestAuth.RequestUri
import RequestAuth.Text.Blank
import RequestAuth.Text.LowerCase
import RequestAuth.Text.Quoted
import RequestAuth.Text.Normal
import RequestAuth.Text.Shown
import RequestAuth.Text.Table
import RequestAuth.Text.Visible
import RequestAuth.Token.Bearer
import RequestAuth.Token.BearerClaims
import RequestAuth.Token.Compact
import RequestAuth.Token.Header
import RequestAuth.Token.Signing
import RequestAuth.Token.Wallet
import RequestAuth.Token.WalletClaims
import RequestAuth.Url.Basic
import RequestAuth.Url.Host
import RequestAuth.Url.Idna
import RequestAuth.Url.IdnaTable
import RequestAuth.Url.Parse
import RequestAuth.Url.Percent
import RequestAuth.Url.Punycode
import RequestAuth.Yaml.Core
import RequestAuth.Yaml.Cursor
import RequestAuth.Yaml.Parse
import RequestAuth.Yaml.Reader
import RequestAuth.Yaml.Scalar
import RequestAuth.Yaml.Scan
import RequestAuth.Yaml.Tag
import RequestAuth.Proofs.Base64
import RequestAuth.Proofs.Json.Escape
import RequestAuth.Proofs.Json.Text
import RequestAuth.Proofs.Json.Number
import RequestAuth.Proofs.Json.Structure
import RequestAuth.Proofs.Json.Value
import RequestAuth.Proofs.Json.Record
import RequestAuth.Proofs.Json.Typed
import RequestAuth.Proofs.Token.Written
import RequestAuth.Proofs.Token.Parts
import RequestAuth.Proofs.Token.Signing
import RequestAuth.Proofs.Nonce
import RequestAuth.Proofs.Token.Content
import RequestAuth.Proofs.Http.Authenticate
import RequestAuth.Proofs.Json.Result
import RequestAuth.Proofs.Http.Fields
import RequestAuth.Proofs.Http.Forms
import RequestAuth.Proofs.Http.Binding
import RequestAuth.Proofs.Http.Session
import RequestAuth.Proofs.Url.Parsed
import RequestAuth.Proofs.Token.Refusal
import RequestAuth.Proofs.Http.Checks
import RequestAuth.Proofs.Json.Numeral
import RequestAuth.Proofs.Json.Skip
import RequestAuth.Proofs.Token.Mark
import RequestAuth.Proofs.Http.Bound
import RequestAuth.Proofs.Http.Replay
import RequestAuth.Proofs.Command.Arguments
import RequestAuth.Proofs.Http.Unlogged
import RequestAuth.Proofs.Json.Object
import RequestAuth.Proofs.Environment
import RequestAuth.Proofs.Url.Idna
import RequestAuth.Proofs.Options
import RequestAuth.Proofs.Command.Headers
import RequestAuth.Proofs.Text.LetterCase
import RequestAuth.Proofs.Variables
import RequestAuth.Proofs.Command.Lines
import RequestAuth.Proofs.Http.Trace
import RequestAuth.Proofs.Http.Secrets
import RequestAuth.Proofs.Json.Grammar
import RequestAuth.Proofs.Json.Document
import RequestAuth.Proofs.Json.Reading
import RequestAuth.Proofs.Json.Stored
import RequestAuth.Proofs.Json.Meaning
import RequestAuth.Proofs.Http.Body
import RequestAuth.Proofs.Format
import RequestAuth.Proofs.Command.Body
import RequestAuth.Proofs.Command.Answer
import RequestAuth.Proofs.Command.Origin
import RequestAuth.Proofs.Http.Declared
import RequestAuth.Proofs.Http.Course
import RequestAuth.Proofs.Key.Der
import RequestAuth.Proofs.Key.Fields
import RequestAuth.Proofs.Key.EcPrivateKey
import RequestAuth.Proofs.Key.PrivateKeyInfo
import RequestAuth.Proofs.Key.Armour
import RequestAuth.Proofs.Key.ApiSecret
import RequestAuth.Proofs.Key.WalletSecret
import RequestAuth.Proofs.Key.Written
import RequestAuth.Proofs.Token.Compact
import RequestAuth.Proofs.Token.Blame
import RequestAuth.Proofs.Json.Quoted
import RequestAuth.Proofs.Json.Source
import RequestAuth.Proofs.Http.Rearranged
import RequestAuth.Proofs.Command.Lifetime
import RequestAuth.Proofs.Http.Stream
import RequestAuth.Proofs.Json.Unordered
import RequestAuth.Proofs.Yaml.Unordered
import RequestAuth.Proofs.Members
