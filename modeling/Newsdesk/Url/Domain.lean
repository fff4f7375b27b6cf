import Newsdesk.Text.Composition
import Newsdesk.Text.Direction
import Newsdesk.Text.Joining
import Newsdesk.Text.Unassigned
import Newsdesk.Url.Encoding
import Newsdesk.Url.Mapping
import Newsdesk.Url.Punycode

/-!
# Domain names

A domain name is compared in a plain form and written in ASCII. Its characters are mapped to
plain small letters and the text is composed; characters that show nothing are dropped or
refused. A label outside ASCII is written in Punycode behind `xn--`.
-/

namespace Newsdesk.Url.Domain

open Text

/-! ## Mapping -/

/-- The characters that are dropped. -/
def ignored : CodeRanges :=
  [(0xAD, 0xAD), (0x34F, 0x34F), (0x115F, 0x1160), (0x17B4, 0x17B5), (0x180B, 0x180F),
    (0x200B, 0x200B), (0x2060, 0x2064), (0x206A, 0x206F), (0x3164, 0x3164), (0xFE00, 0xFE0F),
    (0xFEFF, 0xFEFF), (0xFFA0, 0xFFA0), (0x1BCA0, 0x1BCA3), (0x1D173, 0x1D17A),
    (0xE0100, 0xE01EF)]

/-- Signs that are refused although they show something. -/
def refusedSigns : CodeRanges :=
  [(0x2024, 0x2026), (0x2488, 0x249B), (0x2FF0, 0x2FFB), (0x33C2, 0x33C2), (0x33C7, 0x33C7),
    (0x33D8, 0x33D8), (0xFE12, 0xFE12), (0xFE19, 0xFE19), (0xFE30, 0xFE30), (0xFE52, 0xFE52),
    (0xFFFC, 0xFFFD), (0x1F100, 0x1F100)]

/-- Whether no domain name has a character. -/
def isRefused (c : Char) : Bool :=
  c ≠ nonJoiner && c ≠ joiner &&
    (inRanges refusedSigns c || isInvisible c || inRanges unassigned c)

/-- What a character outside ASCII becomes that is not made up of others. -/
def mapPlain (c : Char) : List Char := (replace? mappings c).getD [c]

/-- What a character becomes: nothing, some characters, or `none` when it is refused. -/
def mapChar (c : Char) : Option (List Char) :=
  if c.toNat < 0x80 then some [c.toLower]
  else if inRanges ignored c then some []
  else
    match replace? mappings c with
    | some target => some target
    | none =>
      if isRefused c then none
      else some ((decomposeChar decompositionDepth c).flatMap mapPlain)

/-- The plain form of a text; `none` when a character is refused. -/
def plain? (cs : List Char) : Option (List Char) :=
  (cs.mapM mapChar).map fun mapped => compose mapped.flatten

/-! ## Labels -/

/-- Whether a character is in ASCII. -/
def isAscii (c : Char) : Bool := c.toNat < 0x80

/-- The characters of ASCII that no domain name has. -/
def isForbidden (c : Char) : Bool :=
  c.toNat ≤ 0x20 || c.toNat = 0x7F ||
    ['%', '#', '/', ':', '<', '>', '?', '@', '[', '\\', ']', '^', '|'].contains c

/-- Whether a label outside ASCII is well formed: it is its own plain form, no mark stands at its
front, and joiners stand only where they make a difference. -/
def isWellFormed (label : List Char) : Bool :=
  plain? label = some label && !label.head?.any isMark && joinersFit [] label

/-- The front of a label in Punycode. -/
def punycodeMark : List Char := ['x', 'n', '-', '-']

/-- What a label stands for: one that claims to be in Punycode must stand for a label outside
ASCII. -/
def labelMeaning? (label : List Char) : Option (List Char) :=
  if punycodeMark.isPrefixOf label then
    match Punycode.decode (label.drop 4) with
    | some decoded => if !decoded.all isAscii && isWellFormed decoded then some decoded else none
    | none => none
  else if label.all isAscii || isWellFormed label then some label
  else none

/-- The ASCII form of a label. -/
def labelToAscii (label : List Char) : List Char :=
  if label.all isAscii then label else punycodeMark ++ Punycode.encode label

/-- Whether labels keep their order in running text: if something in them is written from right
to left, each of them must be stable. -/
def keepOrder (labels : List (List Char)) : Bool :=
  !labels.any isRightToLeft || labels.all fun label => label.isEmpty || isDirectionStable label

/-- The ASCII form of a domain name. -/
def toAscii (cs : List Char) : Option (List Char) := do
  let labels := splitAt '.' (← plain? cs)
  let meanings ← labels.mapM labelMeaning?
  let name := ['.'].intercalate (labels.map labelToAscii)
  if keepOrder meanings && !name.any isForbidden then some name else none

/-- The text that the bytes spell in UTF-8. -/
def ofUtf8? (bytes : List UInt8) : Option (List Char) :=
  (String.fromUTF8? (ByteArray.mk bytes.toArray)).map String.toList

/-- The ASCII form of a domain name as it stands in a URL, possibly percent-encoded. -/
def ofUrlText? (cs : List Char) : Option (List Char) := do
  toAscii (← ofUtf8? (percentDecode cs))

end Newsdesk.Url.Domain
