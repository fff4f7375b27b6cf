import Newsdesk.Json.Decode

/-!
# Conditions

A status keeps the outcome of the latest attempt of each kind: registering or querying, and
removing. An outcome that repeats the one on record leaves the record as it is, so its time
tells since when it holds.
-/

namespace Newsdesk

open Json

/-- What an attempt was about. -/
inductive ConditionKind where
  | added
  | deleted
deriving DecidableEq, Repr

namespace ConditionKind

/-- The name of a kind. -/
def name : ConditionKind → String
  | .added => "Added"
  | .deleted => "Deleted"

/-- The kind with a given name. -/
def ofName? : String → Option ConditionKind
  | "Added" => some .added
  | "Deleted" => some .deleted
  | _ => none

/-- Reads a kind. -/
def decode : Decoder ConditionKind := decodeName ofName?

theorem ofName?_name (k : ConditionKind) : ofName? k.name = some k := by
  cases k <;> rfl

end ConditionKind

/-- The outcome of an attempt. -/
structure Condition where
  kind : ConditionKind
  success : Bool
  reason : String
  message : String
  lastUpdatedName : String
  lastUpdateTime : String
deriving DecidableEq, Repr

namespace Condition

/-- The fields of a condition. -/
def reader : RecordReader Condition := do
  return {
    kind := ← requiredField "type" ConditionKind.decode
    success := ← requiredField "success" decodeBool
    reason := ← defaultField "reason" decodeString ""
    message := ← defaultField "message" decodeString ""
    lastUpdatedName := ← defaultField "lastUpdatedName" decodeString ""
    lastUpdateTime := ← defaultField "lastUpdateTime" decodeString ""
  }

/-- Reads a condition. -/
def decode : Decoder Condition := decodeRecord reader

/-- The written form of a condition. -/
def toJson (c : Condition) : Json :=
  ofFields [
    ("lastUpdateTime", .str c.lastUpdateTime),
    ("lastUpdatedName", .str c.lastUpdatedName),
    ("message", .str c.message),
    ("reason", .str c.reason),
    ("success", .bool c.success),
    ("type", .str c.kind.name)]

/-- Whether two conditions report the same outcome, whenever it was. -/
def sameOutcome (a b : Condition) : Bool :=
  a.kind = b.kind ∧ a.success = b.success ∧ a.reason = b.reason ∧ a.message = b.message ∧
    a.lastUpdatedName = b.lastUpdatedName

/-- The first condition of a kind. -/
def find? (kind : ConditionKind) (conditions : List Condition) : Option Condition :=
  conditions.find? fun c => c.kind = kind

/-- Records an outcome: in the place of the first condition of its kind, or at the end. The
second part tells whether anything changed. -/
def upsert (new : Condition) : List Condition → List Condition × Bool
  | [] => ([new], true)
  | c :: rest =>
    if c.kind = new.kind then
      if c.sameOutcome new then (c :: rest, false) else (new :: rest, true)
    else
      let (rest, changed) := upsert new rest
      (c :: rest, changed)

end Condition

end Newsdesk
