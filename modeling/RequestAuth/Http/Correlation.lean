/-! What a request says about the program that sends it. -/

namespace RequestAuth

def version : String := "0.1.0"

def language : String := "rust"

def defaultSource : String := "sdk-auth"

def correlationContext (source sourceVersion : Option String) : String :=
  s!"sdk_version={version},sdk_language={language},source={source.getD defaultSource}" ++
    match sourceVersion with
    | some v => ",source_version=" ++ v
    | none => ""

end RequestAuth
