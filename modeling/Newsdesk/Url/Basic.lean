import Newsdesk.Url.Host

/-!
# URLs

A URL in its parts. The path is a list of segments below a root, or a text without a root that
no other URL can be resolved against. All parts but the host are kept in their encoded form, so writing a URL only
puts the delimiters between them.
-/

namespace Newsdesk

/-- The path of a URL. -/
inductive UrlPath where
  | segments (segments : List String)
  | rootless (text : String)
deriving DecidableEq, Repr

/-- A URL. A missing host differs from an empty one, which is written as two slashes. -/
structure Url where
  scheme : String
  username : String
  password : Option String
  host : Option Host
  port : Option Nat
  path : UrlPath
  query : Option String
  fragment : Option String
deriving DecidableEq, Repr

namespace UrlPath

/-- The segments, each behind a slash. -/
def segmentsText (segments : List String) : List Char :=
  segments.flatMap fun s => '/' :: s.toList

/-- The written form of a path. -/
def toList : UrlPath → List Char
  | .segments xs => segmentsText xs
  | .rootless text => text.toList

/-- Whether no other URL can be resolved against a path. -/
def isRootless : UrlPath → Bool
  | .rootless _ => true
  | .segments _ => false

/-- The path as a folder: with a slash at its end. A path without a root does not get one, so
that an empty one becomes an encoded slash. -/
def asFolder : UrlPath → UrlPath
  | .segments xs => if xs.getLast? = some "" then .segments xs else .segments (xs ++ [""])
  | .rootless text =>
    if text.toList = [] then .rootless "%2F"
    else if text.toList.getLast? = some '/' then .rootless text
    else .rootless (text ++ "/")

end UrlPath

namespace Url

/-! ## Schemes -/

/-- How URLs of a scheme are read. -/
inductive SchemeKind where
  | file
  | special
  | plain
deriving DecidableEq, Repr

/-- The kind of a scheme. -/
def schemeKind : String → SchemeKind
  | "file" => .file
  | "http" | "https" | "ws" | "wss" | "ftp" => .special
  | _ => .plain

/-- The port that is not written in URLs of a scheme. -/
def defaultPort? : String → Option Nat
  | "http" | "ws" => some 80
  | "https" | "wss" => some 443
  | "ftp" => some 21
  | _ => none

/-- Whether backslashes count as slashes in URLs of a kind. -/
def SchemeKind.isSpecial : SchemeKind → Bool
  | .plain => false
  | _ => true

/-! ## Writing -/

/-- The user name and password in front of a host. -/
def credentialsText (url : Url) : List Char :=
  match url.password with
  | some password => url.username.toList ++ ':' :: password.toList ++ ['@']
  | none => if url.username.toList = [] then [] else url.username.toList ++ ['@']

/-- The port behind a host. -/
def portText : Option Nat → List Char
  | some port => ':' :: Nat.toDigits 10 port
  | none => []

/-- Everything between the scheme and the path. Without a host, a path that starts with two
slashes is kept apart from them by a dot segment. -/
def authorityText (url : Url) : List Char :=
  match url.host with
  | some host => '/' :: '/' :: url.credentialsText ++ host.toList ++ portText url.port
  | none =>
    match url.path.toList with
    | '/' :: '/' :: _ => ['/', '.']
    | _ => []

/-- A part behind its delimiter, if it is there. -/
def delimited (mark : Char) : Option String → List Char
  | some text => mark :: text.toList
  | none => []

/-- The written form of a URL. -/
def toList (url : Url) : List Char :=
  url.scheme.toList ++ ':' :: url.authorityText ++ url.path.toList ++
    delimited '?' url.query ++ delimited '#' url.fragment

/-- The written form of a URL as a string. -/
def text (url : Url) : String := String.ofList url.toList

/-! ## Parts -/

/-- Whether the URL names a host. -/
def hasHost (url : Url) : Bool :=
  match url.host with
  | some host => host ≠ Host.empty
  | none => false

/-- Path and query as they are sent to the host. -/
def target (url : Url) : String :=
  String.ofList (url.path.toList ++ delimited '?' url.query)

/-- The URL with its path as a folder. -/
def asFolder (url : Url) : Url := { url with path := url.path.asFolder }

end Url

end Newsdesk
