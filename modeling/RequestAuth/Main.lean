import RequestAuth.Command.Run
import Std.Time.DateTime.Timestamp

/-! The command line: its arguments, the environment, the configuration file, the clock and the random
numbers of the system. -/

namespace RequestAuth.Program

def reason (e : IO.Error) : String :=
  match e with
  | .noFileOrDirectory .. => "No such file or directory (os error 2)"
  | .permissionDenied .. => "Permission denied (os error 13)"
  | .inappropriateType .. => "Is a directory (os error 21)"
  | e => toString e

def readFile (path : String) : IO (Except String String) := do
  try
    match String.fromUTF8? (← IO.FS.readBinFile path) with
    | some s => return .ok s
    | none => return .error "stream did not contain valid UTF-8"
  catch e => return .error (reason e)

def nameAndValue? (b : Bytes) : Option (String × String) := do
  let s ← Bytes.toText? b
  let name := s.toList.takeWhile (· != '=')
  return (String.ofList name, String.ofList (s.toList.drop (name.length + 1)))

def environment : IO Environment.Variables := do
  let b ← IO.FS.readBinFile "/proc/self/environ"
  return (b.toList.splitOn 0).filterMap fun v => if v = [] then none else nameAndValue? v

def drawNonce : IO (Except String Nonce) := do
  try
    let b ← IO.getRandomBytes 16
    match Nonce.ofBytes? b.toList with
    | some n => return .ok n
    | none => return .error "not enough random bytes"
  catch e => return .error (toString e)

def configFile (args : List String) : IO (Option (String × Except String String)) := do
  match Arguments.parse args with
  | some (.run _ before after) =>
    match Command.option? .config before after with
    | some path => return some (path, ← readFile path)
    | none => return none
  | _ => return none

def clock : IO Int64 := do
  let now ← Std.Time.Timestamp.now
  return Int64.ofInt now.toSecondsSinceUnixEpoch.val

/-- No command takes more than two nonces. -/
def world (args : List String) : IO World := do
  let file ← configFile args
  return {
    environment := ← environment
    readFile := fun path =>
      match file with
      | some (p, text) => if p = path then text else .error "not read"
      | none => .error "not read"
    now := ⟨← clock, ← clock⟩
    nonces := .listed [← drawNonce, ← drawNonce] }

end RequestAuth.Program

def main (args : List String) : IO UInt32 := do
  let w ← RequestAuth.Program.world args
  let o := RequestAuth.Command.outcome w args
  IO.print o.stdout
  IO.eprint o.stderr
  return o.exit
