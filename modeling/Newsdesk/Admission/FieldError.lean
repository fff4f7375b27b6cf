/-!
# Field errors

A violation names a field and says what is wrong with it. All violations of an object make up
one message.
-/

namespace Newsdesk

/-- A field and what is wrong with it. -/
structure FieldError where
  field : String
  message : String
deriving DecidableEq, Repr

namespace FieldError

/-- The wording of a violation. -/
def text (e : FieldError) : String := e.field ++ ": " ++ e.message

/-- The wording of all violations. -/
def aggregate (errors : List FieldError) : String := "; ".intercalate (errors.map text)

end FieldError

/-- What is wrong with a name that no feed has. -/
def missingFeedMessage (name : String) : String :=
  "Feed '" ++ name ++ "' does not exist in this namespace"

end Newsdesk
