import Newsdesk.Text.CombiningClass
import Newsdesk.Text.Decomposition

/-!
# Composed text

A text with marks has one composed form: every character is taken apart, marks on one letter are
sorted by their classes, and then letters and marks are joined again as far as possible. Korean
syllables are joined from their letters by a rule instead of a table.
-/

namespace Newsdesk.Text

/-! ## Syllables -/

/-- The first leading, middle and final letter of Korean syllables and the first syllable. The
first final letter stands for none. -/
def leadBase : Nat := 0x1100
def vowelBase : Nat := 0x1161
def tailBase : Nat := 0x11A7
def syllableBase : Nat := 0xAC00

/-- How many letters there are of each kind. -/
def leadCount : Nat := 19
def vowelCount : Nat := 21
def tailCount : Nat := 28

/-- How many syllables there are. -/
def syllableCount : Nat := leadCount * vowelCount * tailCount

/-- The letters of a syllable. -/
def syllableParts? (c : Char) : Option (List Char) :=
  let index := c.toNat - syllableBase
  if syllableBase ≤ c.toNat ∧ index < syllableCount then
    let pair := index / tailCount
    let tail := index % tailCount
    some ([Char.ofNat (leadBase + pair / vowelCount), Char.ofNat (vowelBase + pair % vowelCount)] ++
      if tail = 0 then [] else [Char.ofNat (tailBase + tail)])
  else none

/-- The syllable that a letter, or a syllable without final letter, and the next letter form. -/
def joinSyllable? (a b : Char) : Option Char :=
  let lead := a.toNat - leadBase
  let vowel := b.toNat - vowelBase
  let pair := a.toNat - syllableBase
  let tail := b.toNat - tailBase
  if leadBase ≤ a.toNat ∧ lead < leadCount ∧ vowelBase ≤ b.toNat ∧ vowel < vowelCount then
    some (Char.ofNat (syllableBase + (lead * vowelCount + vowel) * tailCount))
  else if syllableBase ≤ a.toNat ∧ pair < syllableCount ∧ pair % tailCount = 0 ∧
      tailBase < b.toNat ∧ tail < tailCount then
    some (Char.ofNat (a.toNat + tail))
  else none

/-! ## Taking apart -/

/-- How often a part of a character may itself be taken apart. -/
def decompositionDepth : Nat := 4

/-- A character with its parts taken apart, down to a depth. -/
def decomposeChar : Nat → Char → List Char
  | 0, c => [c]
  | depth + 1, c =>
    if c.toNat < 0xC0 then [c]
    else
      match syllableParts? c with
      | some parts => parts
      | none =>
        match (replace? joints c).orElse fun _ => replace? splits c with
        | some parts => parts.flatMap (decomposeChar depth)
        | none => [c]

/-- Puts a mark in front of those of the same class or a higher one that follow it. -/
def insertMark (mark : Char) : List Char → List Char
  | [] => [mark]
  | c :: rest =>
    if combiningClass c ≠ 0 ∧ combiningClass c < combiningClass mark then c :: insertMark mark rest
    else mark :: c :: rest

/-- The text with the marks on every letter sorted. -/
def sortMarks : List Char → List Char
  | [] => []
  | c :: rest => if combiningClass c = 0 then c :: sortMarks rest else insertMark c (sortMarks rest)

/-- The text taken apart. -/
def decompose (cs : List Char) : List Char :=
  sortMarks (cs.flatMap (decomposeChar decompositionDepth))

/-! ## Joining -/

/-- What two characters are joined to. -/
def join? (a b : Char) : Option Char :=
  (joinSyllable? a b).orElse fun _ =>
    if b.toNat < 0x300 then none
    else (joints.find? fun r => r.target = [a.toNat, b.toNat]).map fun r => Char.ofNat r.first

/-- Joins a letter with what follows it: `kept` are the marks since then that stay apart, the
last one first. A mark is kept from the letter by one of its own class or a higher one. -/
def joinFrom (letter : Char) (kept : List Char) : List Char → List Char
  | [] => letter :: kept.reverse
  | c :: rest =>
    let blocked := match kept with
      | [] => false
      | k :: _ => combiningClass c ≤ combiningClass k
    match if blocked then none else join? letter c with
    | some joined => joinFrom joined kept rest
    | none =>
      if combiningClass c = 0 then letter :: kept.reverse ++ joinFrom c [] rest
      else joinFrom letter (c :: kept) rest

/-- Joins letters and marks; marks in front of the first letter are left alone. -/
def joinAll : List Char → List Char
  | [] => []
  | c :: rest => if combiningClass c = 0 then joinFrom c [] rest else c :: joinAll rest

/-- The composed form of a text. -/
def compose (cs : List Char) : List Char :=
  if cs.all fun c => c.toNat < 0xC0 then cs else joinAll (decompose cs)

end Newsdesk.Text
