import Newsdesk.Url.Reader

/-!
# Queries

Names and values are appended to the query of a URL in form encoding, and read back from it.
-/

namespace Newsdesk.Url

open Text

/-! ## Writing -/

/-- Names and values in form encoding with ampersands between them. -/
def encodePairs (pairs : List (String × String)) : List Char :=
  ['&'].intercalate (pairs.map fun p => formPair p.1 p.2)

/-- The query with names and values appended. -/
def appendedQuery (query : Option String) (pairs : List (String × String)) : List Char :=
  match query with
  | none => encodePairs pairs
  | some q => if q.toList = [] then encodePairs pairs else q.toList ++ '&' :: encodePairs pairs

/-- The URL with names and values appended to its query. -/
def appendPairs (url : Url) (pairs : List (String × String)) : Url :=
  { url with query := some (String.ofList (appendedQuery url.query pairs)) }

/-- The URL with another query, given as text. -/
def withQueryText (url : Url) (text : String) : Url :=
  let cs := text.toList.filter fun c => c ≠ '\t' ∧ c ≠ '\n' ∧ c ≠ '\r'
  { url with query := some (encodeQuery url.scheme cs) }

/-! ## Reading -/

/-- A form-encoded text with plus signs as blanks and percent escapes as their bytes; bytes that
are no UTF-8 are refused. -/
def formDecode (cs : List Char) : Option String :=
  (Domain.ofUtf8? (percentDecode (cs.map fun c => if c = '+' then ' ' else c))).map String.ofList

/-- The names and values of a query. -/
def queryPairs (query : List Char) : List (Option String × Option String) :=
  ((splitAt '&' query).filter (· ≠ [])).map fun piece =>
    match cutAt '=' piece with
    | (name, value) => (formDecode name, formDecode (value.getD []))

end Newsdesk.Url
