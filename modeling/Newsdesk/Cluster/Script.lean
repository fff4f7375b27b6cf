import Newsdesk.Http.Exchange
import Newsdesk.Json.Decode

/-!
# Scripted replies

A script makes a server answer as told instead of by its own rules. It is a list of rules; the
first one that fits a request and is not used up answers it.
-/

namespace Newsdesk

open Json

/-- A rule of a script: the requests that it fits, what it answers, and how often it still does;
no number means always. -/
structure ScriptRule where
  method : Option String
  path : Option String
  reply : Reply
  uses : Option Nat
deriving Repr

namespace ScriptRule

/-- Whether a rule answers a request. -/
def fits (method path : String) (r : ScriptRule) : Bool :=
  r.method.all (· = method) && r.path.all (· = path) && r.uses ≠ some 0

/-- The rule after it has been used once. -/
def spend (r : ScriptRule) : ScriptRule := { r with uses := r.uses.map (· - 1) }

/-- The body that a rule gives: a string as it is, anything else as JSON. A status that has no
body gives none. -/
def bodyOf (status : Nat) (body : Option Json) : Body :=
  if status = 204 ∨ status = 304 then .empty
  else
    match body with
    | none => .empty
    | some (.str raw) => .text raw
    | some value => .value value

/-- Reads a rule. -/
def decode : Decoder ScriptRule := decodeRecord do
  let method ← nullableField "method" decodeString
  let path ← nullableField "path" decodeString
  let status ← nullableField "status" (decodeNat 16)
  let body ← nullableField "body" some
  let uses ← nullableField "times" (decodeNat 64)
  let drop ← nullableField "drop" decodeBool
  let hang ← nullableField "hang" decodeBool
  let status := status.getD 200
  let reply : Reply :=
    if drop = some true then .dropped
    else if hang = some true then .unanswered
    else .answered status (bodyOf status body)
  return ⟨method, path, reply, uses⟩

end ScriptRule

/-- A list of rules. -/
abbrev Script := List ScriptRule

namespace Script

/-- The scripted reply to a request, if there is one, and the script after it. -/
def take (method path : String) : Script → Option (Reply × Script)
  | [] => none
  | r :: rest =>
    if r.fits method path then some (r.reply, r.spend :: rest)
    else (take method path rest).map fun (reply, rest) => (reply, r :: rest)

end Script

end Newsdesk
