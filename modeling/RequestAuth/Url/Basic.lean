/-! A URL in the parts that it is written from, each already in its written form. -/

namespace RequestAuth

inductive UrlFault where
  | noScheme
  | emptyHost
  | invalidPort
  | invalidIpv4
  | invalidIpv6
  | invalidDomain
  | invalidHostCharacter
  deriving DecidableEq

def UrlFault.message : UrlFault → String
  | noScheme => "relative URL without a base"
  | emptyHost => "empty host"
  | invalidPort => "invalid port number"
  | invalidIpv4 => "invalid IPv4 address"
  | invalidIpv6 => "invalid IPv6 address"
  | invalidDomain => "invalid international domain name"
  | invalidHostCharacter => "invalid domain character"

/-- Who is addressed: user name and password with their `@`, host, and a port that is not the
scheme's own. -/
structure Authority where
  userInfo : String
  host : String
  port : Option Nat
  deriving DecidableEq

structure Url where
  scheme : String
  authority : Option Authority
  path : String
  query : Option String
  fragment : Option String
  deriving DecidableEq

namespace Url

def portText : Option Nat → String
  | some p => ":" ++ toString p
  | none => ""

/-- Without an authority, a path that starts with two slashes is set off by a dot. -/
def front (u : Url) : String :=
  match u.authority with
  | some a => "//" ++ a.userInfo ++ a.host ++ portText a.port
  | none => if u.path.startsWith "//" then "/." else ""

def marked (mark : String) : Option String → String
  | some s => mark ++ s
  | none => ""

def text (u : Url) : String :=
  u.scheme ++ ":" ++ u.front ++ u.path ++ marked "?" u.query ++ marked "#" u.fragment

def host? (u : Url) : Option String :=
  match u.authority with
  | some a => if a.host = "" then none else some a.host
  | none => none

def port? (u : Url) : Option Nat := u.authority.bind Authority.port

def hostAndPort (u : Url) : String :=
  match u.host? with
  | some h => h ++ portText u.port?
  | none => ""

end Url
end RequestAuth
