import NotebookGoto.Http.Message

/-!
# Media types

The value of a content type: a type and a subtype, perhaps with parameters. The subtype may end
in a suffix after its last plus. A body is JSON by its content type if that is `application/json`,
or `application` with any subtype and the suffix `json`; letters count in either case.
-/

namespace NotebookGoto.Http.MediaType

open Header

/-- Where the reading of parameters stands: before a name, inside one, at a value, inside one
without quotes, at the first character of one with quotes, further inside it, or behind it. -/
inductive Place where
  | start | name | value | plain | quote | quoted | behind
  deriving DecidableEq, Repr

/-- A character that may stand between quotes. The first one may be a quote itself. -/
def inQuotes (c : Char) : Bool :=
  0x20 ≤ c.toNat && c.toNat ≠ 0x7F

/-- The place after a character, if the character may stand there. -/
def Place.next (c : Char) : Place → Option Place
  | .start => if c = ' ' then some .start else if inToken c then some .name else none
  | .name => if c = '=' then some .value else if inToken c then some .name else none
  | .value => if c = '"' then some .quote else if inToken c then some .plain else none
  | .plain => if c = ';' then some .start else if inToken c then some .plain else none
  | .quote => if inQuotes c then some .quoted else none
  | .quoted => if c = '"' then some .behind else if inQuotes c then some .quoted else none
  | .behind => if c = ';' then some .start else if c = ' ' then some .behind else none

/-- Whether parameters may end at a place. -/
def Place.mayEnd : Place → Bool
  | .start | .value | .plain | .behind => true
  | .name | .quote | .quoted => false

/-- Whether a text holds parameters, from some place in them. -/
def parameters (place : Place) : List Char → Bool
  | [] => place.mayEnd
  | c :: rest =>
    match place.next c with
    | some place => parameters place rest
    | none => false

/-- A subtype cut at its last plus, if one stands behind its first character. -/
def splitSuffix (subtype : List Char) : List Char × Option (List Char) :=
  let suffix := (subtype.reverse.takeWhile (· ≠ '+')).reverse
  let stem := subtype.take (subtype.length - suffix.length - 1)
  if stem.isEmpty then (subtype, none) else (stem, some suffix)

/-- Whether a content type says that the body is JSON. -/
def isJson (s : List Char) : Bool :=
  let type := s.takeWhile inToken
  match s.dropWhile inToken with
  | '/' :: rest =>
    let subtype := rest.takeWhile inToken
    let (stem, suffix) := splitSuffix subtype
    let json := ['j', 's', 'o', 'n']
    let wellFormed := match rest.dropWhile inToken with
      | [] => true
      | ';' :: rest => parameters .start rest
      | _ => false
    wellFormed && sameName type "application".toList
      && (sameName stem json || (suffix.map (sameName json)).getD false)
  | _ => false

end NotebookGoto.Http.MediaType
