import Newsdesk.Json.Basic

/-!
# Decoding JSON values

A decoder takes a value to a domain type or refuses it. A record is read from an object, where
unknown fields are ignored and a known one may occur once, or from an array that lists its
fields in order. A field with a default may be missing in either form; at the end of an array
only the last ones can be.
-/

namespace Newsdesk

/-- Takes a value to a domain type, or refuses it. -/
abbrev Decoder (α : Type) := Json → Option α

namespace Json

/-! ## Plain values -/

def decodeString : Decoder String
  | .str s => some s
  | _ => none

def decodeBool : Decoder Bool
  | .bool b => some b
  | _ => none

/-- An integer between two bounds; a float is refused even if it is whole. -/
def decodeInt (least greatest : Int) : Decoder Int
  | .num (.int n) => if least ≤ n ∧ n ≤ greatest then some n else none
  | _ => none

/-- An integer of 32 bits. -/
def decodeInt32 : Decoder Int := decodeInt (-0x80000000) 0x7FFFFFFF

/-- An integer of 64 bits. -/
def decodeInt64 : Decoder Int := decodeInt (-0x8000000000000000) 0x7FFFFFFFFFFFFFFF

/-- A natural number of the given number of bits. -/
def decodeNat (bits : Nat) : Decoder Nat := fun v =>
  (decodeInt 0 (Nat.pow 2 bits - 1 : Nat) v).map Int.toNat

/-- A float; an integer becomes the nearest one. -/
def decodeFloat : Decoder Number.Binary64
  | .num (.int n) => some (Number.Binary64.ofInt n)
  | .num (.float x) => some x
  | _ => none

/-- Null or a value. -/
def decodeNullable {α : Type} (decode : Decoder α) : Decoder (Option α)
  | .null => some none
  | v => (decode v).map some

/-- An array of values. -/
def decodeList {α : Type} (decode : Decoder α) : Decoder (List α)
  | .arr items => items.mapM decode
  | _ => none

/-- An array of strings. -/
def decodeStrings : Decoder (List String) := decodeList decodeString

/-- An object of values, in the order of its names; of equal names the last counts. -/
def decodeMap {α : Type} (decode : Decoder α) : Decoder (List (String × α))
  | .obj fields => (sortFields fields).mapM fun (name, v) => (decode v).map (name, ·)
  | _ => none

/-- A name out of a fixed list: a string, or an object that maps the name to null. -/
def decodeName {α : Type} (named : String → Option α) : Decoder α
  | .str s => named s
  | .obj [(s, .null)] => named s
  | _ => none

/-! ## Records -/

/-- Where the fields of a record are read from. -/
inductive RecordSource where
  | named (fields : JsonFields)
  | listed (items : List Json)

/-- Reads some fields of a record. -/
abbrev RecordReader (α : Type) := StateT RecordSource Option α

/-- The next field of a record: its value, `some none` when it is missing. A field that is
given twice is refused. -/
def nextField (name : String) : RecordReader (Option Json) := fun source =>
  match source with
  | .named fields =>
    match fields.filter (fun f => f.1 = name) with
    | [] => some (none, source)
    | [f] => some (some f.2, source)
    | _ => none
  | .listed [] => some (none, source)
  | .listed (v :: rest) => some (some v, .listed rest)

/-- A field that must be there. -/
def requiredField {α : Type} (name : String) (decode : Decoder α) : RecordReader α := do
  match ← nextField name with
  | some v => decode v
  | none => failure

/-- A field that may be missing, but not null. -/
def defaultField {α : Type} (name : String) (decode : Decoder α) (default : α) :
    RecordReader α := do
  match ← nextField name with
  | some v => decode v
  | none => pure default

/-- A field that may be missing or null. -/
def nullableField {α : Type} (name : String) (decode : Decoder α) : RecordReader (Option α) := do
  match ← nextField name with
  | some v => decodeNullable decode v
  | none => pure none

/-- A field that may be missing by name or null, but has its place in an array. -/
def optionalField {α : Type} (name : String) (decode : Decoder α) : RecordReader (Option α) :=
  fun source =>
    match source with
    | .listed [] => none
    | source => nullableField name decode source

/-- Reads a record from an object or from an array of exactly its fields. -/
def decodeRecord {α : Type} (reader : RecordReader α) : Decoder α
  | .obj fields => (reader (.named fields)).map (·.1)
  | .arr items =>
    match reader (.listed items) with
    | some (a, .listed []) => some a
    | _ => none
  | _ => none

/-! ## Encoding -/

/-- An object with some of its fields left out. -/
def ofOptionalFields (fields : List (String × Option Json)) : Json :=
  ofFields (fields.filterMap fun (name, v) => v.map (name, ·))

end Json

end Newsdesk
