/-!
# Media types

A media type is a type and a subtype with a slash between them, and parameters. It is JSON when
it is `application/json` in any case, or when the subtype ends in `+json` after something else.
-/

namespace Newsdesk.MediaType

/-- Whether a character may stand in a name. -/
def isNameChar (c : Char) : Bool := c.isAlphanum || "!#$%&'*+-.^_`|~".toList.contains c

/-- Whether a character may stand between quotation marks. -/
def isQuotedChar (c : Char) : Bool := 0x20 ≤ c.toNat && c.toNat < 0x7F

/-! ## Parameters -/

/-- How far a reader of parameters has come: between parameters, in a name, after its equals
sign, in a value, right after an opening quotation mark, in a quoted value, or after it. -/
inductive ParameterState where
  | between
  | name
  | equals
  | value
  | opened
  | quoted
  | closed
deriving DecidableEq, Repr

namespace ParameterState

/-- The state after a character; `none` when the character cannot stand there. -/
def step : ParameterState → Char → Option ParameterState
  | .between, c => if c = ' ' then some .between else if isNameChar c then some .name else none
  | .name, c => if c = '=' then some .equals else if isNameChar c then some .name else none
  | .equals, c => if c = '"' then some .opened else if isNameChar c then some .value else none
  | .value, c => if c = ';' then some .between else if isNameChar c then some .value else none
  | .opened, c => if isQuotedChar c then some .quoted else none
  | .quoted, c => if c = '"' then some .closed else if isQuotedChar c then some .quoted else none
  | .closed, c => if c = ';' then some .between else if c = ' ' then some .closed else none

/-- Whether parameters may end in a state. -/
def isFinal (s : ParameterState) : Bool :=
  s = .between || s = .equals || s = .value || s = .closed

end ParameterState

/-- Whether a text after the first semicolon holds parameters. -/
def areParameters (cs : List Char) : Bool :=
  (cs.foldlM ParameterState.step .between).any ParameterState.isFinal

/-! ## JSON -/

/-- Whether a text is a subtype of the JSON formats. -/
def isJsonSubtype (cs : List Char) : Bool :=
  let back := "+json".toList
  cs = "json".toList || (back.isSuffixOf cs && back.length < cs.length)

/-- Whether a text is a media type of the JSON formats. -/
def isJson (s : String) : Bool :=
  let cs := s.toList
  let head := (cs.takeWhile (· ≠ ';')).map Char.toLower
  let type := head.takeWhile (· ≠ '/')
  let subtype := (head.dropWhile (· ≠ '/')).drop 1
  type = "application".toList && subtype.all isNameChar && isJsonSubtype subtype &&
    areParameters ((cs.dropWhile (· ≠ ';')).drop 1)

end Newsdesk.MediaType
