import Newsdesk.Json.Decode

/-!
# Schemas

A schema says what values of a field look like, to the API server and to the reader of its
documentation. It is a type together with annotations, and is written as an object.
-/

namespace Newsdesk

open Json

/-- A schema: the fields of its written form. -/
abbrev Schema := List (String × Json)

namespace Schema

/-- A type without anything more. -/
def ofType (name : String) : Schema := [("type", .str name)]

/-- Any text. -/
def text : Schema := ofType "string"

/-- Truth or falsehood. -/
def bool : Schema := ofType "boolean"

/-- An integer of 32 bits. -/
def int32 : Schema := ("format", .str "int32") :: ofType "integer"

/-- One of some words. -/
def oneOf (words : List String) : Schema := ("enum", ofStrings words) :: ofType "string"

/-- A list of values. -/
def listOf (items : Schema) : Schema := ("items", ofFields items) :: ofType "array"

/-- A record with the names of the fields that must be there. -/
def record (required : List String) (properties : List (String × Schema)) : Schema :=
  let properties := ("properties", ofFields (properties.map fun p => (p.1, ofFields p.2)))
  let type := ofType "object"
  if required = [] then properties :: type
  else properties :: ("required", ofStrings required) :: type

/-- A schema with a description. -/
def described (description : String) (s : Schema) : Schema := ("description", .str description) :: s

/-- A schema with the value that a missing field has. -/
def defaulting (value : Json) (s : Schema) : Schema := ("default", value) :: s

/-- A schema that also allows null. -/
def nullable (s : Schema) : Schema := ("nullable", .bool true) :: s

end Schema

end Newsdesk
