import ScriptOracle.Url.Form
import ScriptOracle.Url.Host

/-!
# Addresses

A scheme, perhaps a user and a host, a path, perhaps a query and a fragment. The parts are kept in
their encoded form, so that `Url.text` only puts them side by side. `Url.appendPairs` adds form pairs
to the query and touches nothing else.
-/

namespace ScriptOracle

/-- A path: parts behind slashes, or a text without a hierarchy. -/
inductive Url.Path where
  | rooted (parts : List (List Char))
  | plain (text : List Char)
deriving DecidableEq, Repr

structure Url where
  scheme : String
  user : List Char
  password : List Char
  host : Option Url.Host
  port : Option Nat
  path : Url.Path
  query : Option (List Char)
  fragment : Option (List Char)
deriving DecidableEq, Repr

namespace Url

def Path.text : Path -> List Char
  | .rooted parts => parts.flatMap fun part => '/' :: part
  | .plain text => text

/-- The user, with the password behind a colon and `@` at the end. -/
def userText (url : Url) : List Char :=
  if url.user.isEmpty && url.password.isEmpty then []
  else if url.password.isEmpty then url.user ++ ['@']
  else url.user ++ ':' :: url.password ++ ['@']

def portText (url : Url) : List Char :=
  match url.port with
  | some port => ':' :: Nat.toDigits 10 port
  | none => []

/-- What stands between the scheme and the path. Without a host, a path that starts with two slashes
is set off by a dot. -/
def authority (url : Url) : List Char :=
  match url.host with
  | some host => '/' :: '/' :: url.userText ++ host.text ++ url.portText
  | none =>
    if url.scheme = "file" then ['/', '/']
    else
      match url.path with
      | .rooted ([] :: _ :: _) => ['/', '.']
      | _ => []

def base (url : Url) : List Char :=
  url.scheme.toList ++ ':' :: url.authority ++ url.path.text

def marked (mark : Char) : Option (List Char) -> List Char
  | some part => mark :: part
  | none => []

def text (url : Url) : String :=
  String.ofList (url.base ++ marked '?' url.query ++ marked '#' url.fragment)

def hostText (url : Url) : String :=
  match url.host with
  | some host => String.ofList host.text
  | none => ""

/-- The address with form pairs added to its query. -/
def appendPairs (url : Url) (pairs : List (String × String)) : Url :=
  { url with query := some (Form.extend (url.query.getD []) pairs) }

end Url

end ScriptOracle
