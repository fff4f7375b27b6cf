import Newsdesk.Url.Basic

/-!
# Reading URLs

A URL is read on its own or relative to a base. Fragment and query are cut off first; what is
left starts with a scheme, or is resolved against the base: by its host if it starts with two
slashes, by its path if it starts with one, and else segment by segment.
-/

namespace Newsdesk.Url

open Text

/-! ## Cutting the text -/

/-- Whether a character at either end of a URL is dropped. -/
def isPadding (c : Char) : Bool := c.toNat ≤ 0x20

/-- The text without controls and spaces at its ends, and without tabs and line breaks. -/
def strip (cs : List Char) : List Char :=
  let inner := ((cs.dropWhile isPadding).reverse.dropWhile isPadding).reverse
  inner.filter fun c => c ≠ '\t' ∧ c ≠ '\n' ∧ c ≠ '\r'

/-- The text before the first `mark`, and the text after it if there is one. -/
def cutAt (mark : Char) : List Char → List Char × Option (List Char)
  | [] => ([], none)
  | c :: rest =>
    if c = mark then ([], some rest)
    else
      let (before, after) := cutAt mark rest
      (c :: before, after)

/-- The characters that may follow the first letter of a scheme. -/
def isSchemeChar (c : Char) : Bool := c.isAlphanum || c = '+' || c = '-' || c = '.'

/-- The scheme in lower case and the text after its colon. -/
def readScheme (cs : List Char) : Option (List Char × List Char) :=
  match cs with
  | c :: _ =>
    if c.isAlpha then
      match cs.dropWhile isSchemeChar with
      | ':' :: rest => some ((cs.takeWhile isSchemeChar).map Char.toLower, rest)
      | _ => none
    else none
  | [] => none

/-! ## Paths -/

/-- Whether a segment stands for the folder itself. -/
def isDot (segment : List Char) : Bool :=
  segment = ['.'] || segment.map Char.toLower = ['%', '2', 'e']

/-- Whether a segment stands for the folder above. -/
def isDoubleDot (segment : List Char) : Bool :=
  match segment.map Char.toLower with
  | ['.', '.'] | ['.', '%', '2', 'e'] | ['%', '2', 'e', '.'] | ['%', '2', 'e', '%', '2', 'e'] => true
  | _ => false

/-- Whether a segment names a drive: a letter and a colon or a bar. -/
def isDrive : List Char → Bool
  | [letter, mark] => letter.isAlpha && (mark = ':' || mark = '|')
  | _ => false

/-- The folder above; a drive has none. -/
def parent (segments : List String) : List String :=
  match segments.getLast? with
  | some last => if isDrive last.toList then segments else segments.dropLast
  | none => []

/-- The encoded form of a segment. A drive at the start of a file path has a colon. -/
def encodeSegment (kind : SchemeKind) (before : List String) (segment : List Char) : String :=
  match segment with
  | [letter, '|'] =>
    if kind = .file ∧ before = [] ∧ letter.isAlpha then String.ofList [letter, ':']
    else String.ofList (percentEncode inPathSet segment)
  | _ => String.ofList (percentEncode inPathSet segment)

/-- Walks from the folder `before` along the pieces of a path. -/
def walk (kind : SchemeKind) (before : List String) : List (List Char) → List String
  | [] => before
  | [last] =>
    if isDoubleDot last then parent before ++ [""]
    else if isDot last then before ++ [""]
    else before ++ [encodeSegment kind before last]
  | piece :: rest =>
    walk kind
      (if isDoubleDot piece then parent before
      else if isDot piece then before
      else before ++ [encodeSegment kind before piece])
      rest

/-- The pieces of a path between its slashes. -/
def pieces (kind : SchemeKind) (cs : List Char) : List (List Char) :=
  splitAt '/' (if kind.isSpecial then cs.map fun c => if c = '\\' then '/' else c else cs)

/-- The segments of a file path have no empty ones in front. -/
def trimFile (kind : SchemeKind) (segments : List String) : List String :=
  if kind = .file then
    match segments.dropWhile (· = "") with
    | [] => [""]
    | rest => rest
  else segments

/-- The segments that a path text leads to from a folder. -/
def resolve (kind : SchemeKind) (before : List String) (cs : List Char) : List String :=
  trimFile kind (walk kind before (pieces kind cs))

/-- Whether a character is a slash in URLs of a kind. -/
def isSlash (kind : SchemeKind) (c : Char) : Bool := c = '/' || (kind.isSpecial && c = '\\')

/-- The segments of the path behind a host. -/
def pathAfterHost (kind : SchemeKind) (cs : List Char) : List String :=
  match cs with
  | [] => if kind = .plain then [] else [""]
  | c :: rest => if isSlash kind c then resolve kind [] rest else resolve kind [] cs

/-! ## Hosts -/

/-- What stands in front of the path. -/
structure Authority where
  username : String
  password : Option String
  host : Host
  port : Option Nat

/-- The text before and after the last `@`. -/
def cutAtLast (cs : List Char) : Option (List Char × List Char) :=
  if cs.contains '@' then
    let after := (cs.reverse.takeWhile (· ≠ '@')).reverse
    some (cs.take (cs.length - after.length - 1), after)
  else none

/-- A user name and a password in their encoded form; an empty password counts as none. -/
def readCredentials (cs : List Char) : String × Option String :=
  let encode (cs : List Char) := String.ofList (percentEncode inUserinfoSet cs)
  match cutAt ':' cs with
  | (name, none) => (encode name, none)
  | (name, some []) => (encode name, none)
  | (name, some password) => (encode name, some (encode password))

/-- The text of a host, up to a colon outside brackets. -/
def spanHost : Bool → List Char → List Char × List Char
  | _, [] => ([], [])
  | inside, c :: rest =>
    if c = ':' ∧ ¬ inside then ([], c :: rest)
    else
      let inside := if c = '[' then true else if c = ']' then false else inside
      let (host, after) := spanHost inside rest
      (c :: host, after)

/-- A port and the text after it. The default port of the scheme counts as none. -/
def readPort (scheme : String) (cs : List Char) : Except UrlError (Option Nat × List Char) :=
  let digits := cs.takeWhile Char.isDigit
  let port := digits.foldl (fun n c => n * 10 + (c.toNat - '0'.toNat)) 0
  match cs.dropWhile Char.isDigit with
  | c :: rest => if c = '\\' ∧ port ≤ 65535 then .ok (written digits port, c :: rest) else .error .invalidPort
  | [] => if 65535 < port then .error .invalidPort else .ok (written digits port, [])
where
  /-- The port that is kept. -/
  written (digits : List Char) (port : Nat) : Option Nat :=
    if digits = [] ∨ defaultPort? scheme = some port then none else some port

/-- What stands between the two slashes and the path, and the text after it. The flag tells
whether nothing follows. -/
def readAuthority (scheme : String) (atEnd : Bool) (cs : List Char) :
    Except UrlError (Authority × List Char) := do
  let special := (schemeKind scheme).isSpecial
  let (credentials, rest) := match cutAtLast cs with
    | some (before, after) => (before, after)
    | none => ([], cs)
  if cs.head? = some '@' ∧ rest = [] ∧ credentials = [] ∧ ¬ atEnd then throw .emptyHost
  let (username, password) := readCredentials credentials
  let (hostText, rest) := spanHost false rest
  if hostText = [] ∧ (special ∨ rest ≠ []) then throw .emptyHost
  let host ← if special then Host.ofSpecial hostText else Host.ofOpaque hostText
  let (port, rest) ← match rest with
    | _ :: rest => readPort scheme rest
    | [] => pure (none, [])
  if host = Host.empty ∧ (username ≠ "" ∨ password.isSome) then throw .emptyHost
  return (⟨username, password, host, port⟩, rest)

/-! ## Whole URLs -/

/-- The query in its encoded form. -/
def encodeQuery (scheme : String) (cs : List Char) : String :=
  let set := if (schemeKind scheme).isSpecial then inSpecialQuerySet else inQuerySet
  String.ofList (percentEncode set cs)

/-- The fragment in its encoded form. -/
def encodeFragment (cs : List Char) : String := String.ofList (percentEncode inFragmentSet cs)

/-- A URL text without its padding, cut into its body, query and fragment. -/
structure Parts where
  body : List Char
  query : Option (List Char)
  fragment : Option (List Char)

/-- Cuts a URL text into its parts. -/
def Parts.ofList (cs : List Char) : Parts :=
  let (rest, fragment) := cutAt '#' (strip cs)
  let (body, query) := cutAt '?' rest
  ⟨body, query, fragment⟩

/-- A URL whose text after the two slashes is given. -/
def afterSlashes (scheme : String) (parts : Parts) (cs : List Char) : Except UrlError Url := do
  let kind := schemeKind scheme
  let path := cs.dropWhile fun c => !isSlash kind c
  let atEnd : Bool := path = [] ∧ parts.query = none ∧ parts.fragment = none
  let (authority, rest) ← readAuthority scheme atEnd (cs.takeWhile fun c => !isSlash kind c)
  return {
    scheme
    username := authority.username
    password := authority.password
    host := some authority.host
    port := authority.port
    path := .segments (pathAfterHost kind (rest ++ path))
    query := parts.query.map (encodeQuery scheme)
    fragment := parts.fragment.map encodeFragment
  }

/-- A URL without credentials and port. -/
def simple (scheme : String) (parts : Parts) (host : Option Host) (path : UrlPath) : Url where
  scheme := scheme
  username := ""
  password := none
  host := host
  port := none
  path := path
  query := parts.query.map (encodeQuery scheme)
  fragment := parts.fragment.map encodeFragment

/-- The base with another path and the query and fragment of the text. -/
def onBase (base : Url) (parts : Parts) (segments : List String) : Url :=
  { base with
    path := .segments segments
    query := parts.query.map (encodeQuery base.scheme)
    fragment := parts.fragment.map encodeFragment }

/-- The base with the query and fragment of an empty body. -/
def sameDocument (base : Url) (parts : Parts) : Url :=
  match parts.query with
  | some query =>
    { base with
      query := some (encodeQuery base.scheme query)
      fragment := parts.fragment.map encodeFragment }
  | none => { base with fragment := parts.fragment.map encodeFragment }

/-- The segments of a base; a path without a root has none. -/
def baseSegments (base : Url) : List String :=
  match base.path with
  | .segments xs => xs
  | .rootless _ => []

/-- How many slashes of either kind stand in front, and the text after them. -/
def leadingSlashes (cs : List Char) : Nat × List Char :=
  let isAny (c : Char) : Bool := c = '/' || c = '\\'
  ((cs.takeWhile isAny).length, cs.dropWhile isAny)

/-- A text relative to a base that is no file. -/
def relativeTo (base : Url) (parts : Parts) (cs : List Char) : Except UrlError Url :=
  let kind := schemeKind base.scheme
  match cs with
  | [] => .ok (sameDocument base parts)
  | c :: rest =>
    if c = '/' ∨ c = '\\' then
      let (count, after) := leadingSlashes cs
      if 2 ≤ count then
        match cs with
        | '/' :: '/' :: after => afterSlashes base.scheme parts after
        | _ => afterSlashes base.scheme parts after
      else .ok (onBase base parts (resolve kind [] rest))
    else .ok (onBase base parts (resolve kind (baseSegments base).dropLast cs))

/-- Whether the text starts with a drive. -/
def startsWithDrive (cs : List Char) : Bool :=
  match cs with
  | a :: b :: rest =>
    isDrive [a, b] &&
      match rest with
      | c :: _ => c = '/' || c = '\\'
      | [] => true
  | _ => false

/-- Whether a segment is a drive in its final form. -/
def isFinalDrive (segment : String) : Bool :=
  match segment.toList with
  | [letter, ':'] => letter.isAlpha
  | _ => false

/-- The host of a file URL. This machine is written as the empty host. -/
def readFileHost (cs : List Char) : Except UrlError Host :=
  if cs = [] then .ok Host.empty
  else do
    match ← Host.ofSpecial cs with
    | .domain "localhost" => return Host.empty
    | host => return host

/-- The drive at the start of the path of a base, if there is one. -/
def baseDrive (base : Option Url) : List String :=
  match base with
  | some b => (baseSegments b).head?.toList.filter isFinalDrive
  | none => []

/-- A file URL whose text after the scheme is given. -/
def fileUrl (base : Option Url) (parts : Parts) (cs : List Char) : Except UrlError Url :=
  match cs with
  | c :: d :: rest =>
    if isSlash .file c ∧ isSlash .file d then withHost rest
    else if isSlash .file c then .ok (fromRoot (d :: rest))
    else .ok (fromFolder cs)
  | [c] => .ok (if isSlash .file c then fromRoot [] else fromFolder cs)
  | [] =>
    .ok <|
      match base with
      | some b => sameDocument b parts
      | none => fromFolder []
where
  /-- A host may follow two slashes. -/
  withHost (cs : List Char) : Except UrlError Url := do
    let hostText := cs.takeWhile fun c => !isSlash .file c
    if isDrive hostText then
      return simple "file" parts (some Host.empty) (.segments (resolve .file [] cs))
    else
      let host ← readFileHost hostText
      let segments := pathAfterHost .file (cs.dropWhile fun c => !isSlash .file c)
      let host := if (segments.head?.toList.any isFinalDrive) then Host.empty else host
      return simple "file" parts (some host) (.segments segments)
  /-- One slash leads to the root of the drive or the host of the base. -/
  fromRoot (cs : List Char) : Url :=
    if startsWithDrive cs then
      simple "file" parts (some Host.empty) (.segments (resolve .file [] cs))
    else
      match baseDrive base with
      | [] =>
        simple "file" parts (some ((base.bind Url.host).getD Host.empty))
          (.segments (resolve .file [] cs))
      | drive => simple "file" parts (some Host.empty) (.segments (resolve .file drive cs))
  /-- Without a slash the folder of the base is where the path starts. -/
  fromFolder (cs : List Char) : Url :=
    match base with
    | some b =>
      if startsWithDrive cs then
        simple "file" parts (some Host.empty) (.segments (resolve .file [] cs))
      else
        let folder := match baseSegments b with
          | [only] => [only].filter isFinalDrive
          | segments => segments.dropLast
        onBase b parts (resolve .file folder cs)
    | none => simple "file" parts (some Host.empty) (.segments (resolve .file [] cs))

/-- A URL with a scheme that is not special. -/
def plainUrl (scheme : String) (parts : Parts) (cs : List Char) : Except UrlError Url :=
  match cs with
  | '/' :: '/' :: rest => afterSlashes scheme parts rest
  | '/' :: rest => .ok (simple scheme parts none (.segments (resolve .plain [] rest)))
  | _ => .ok (simple scheme parts none (.rootless (String.ofList (percentEncode inControlSet cs))))

/-- Reads a URL relative to a base. -/
def read (base : Option Url) (text : String) : Except UrlError Url :=
  let parts := Parts.ofList text.toList
  match readScheme parts.body with
  | some (schemeText, rest) =>
    let scheme := String.ofList schemeText
    match schemeKind scheme with
    | .file => fileUrl (base.filter fun b => b.scheme = "file") parts rest
    | .special =>
      let (count, after) := leadingSlashes rest
      match base with
      | some b =>
        if count < 2 ∧ b.scheme = scheme then relativeTo b parts rest
        else afterSlashes scheme parts after
      | none => afterSlashes scheme parts after
    | .plain => plainUrl scheme parts rest
  | none =>
    match base with
    | none => .error .relativeWithoutBase
    | some b =>
      if b.path.isRootless then
        if parts.body = [] ∧ parts.query = none ∧ parts.fragment ≠ none then .ok (sameDocument b parts)
        else .error .relativeToRootless
      else if b.scheme = "file" then fileUrl (some b) parts parts.body
      else relativeTo b parts parts.body

/-- Reads a URL on its own. -/
def parse (text : String) : Except UrlError Url := read none text

/-- Resolves a text against a URL. -/
def join (base : Url) (text : String) : Except UrlError Url := read (some base) text

end Newsdesk.Url
