import NotebookGoto.Http.Target
import NotebookGoto.Text.Blank

/-!
# Requests and responses

A request as a server sees it, and the part of a response that depends on the request. The names
of header fields do not tell upper from lower case; of several fields of one name the first
counts. A field whose value holds more than visible ASCII, spaces and tabs counts as unreadable.
-/

namespace NotebookGoto.Http

open Text

/-- A header field. -/
structure Header where
  name : List Char
  value : List Char
  deriving DecidableEq, Repr

namespace Header

/-- A character that may stand in a method or in the name of a header field. -/
def inToken (c : Char) : Bool :=
  c.isAlphanum ||
    c ∈ ['!', '#', '$', '%', '&', '\'', '*', '+', '-', '.', '^', '_', '\x60', '|', '~']

/-- Whether a text is a method or the name of a header field. -/
def isToken (s : List Char) : Bool :=
  !s.isEmpty && s.all inToken

/-- A character that may stand in the value of a header field. -/
def inValue (c : Char) : Bool :=
  c = '\t' || (0x20 ≤ c.toNat && c.toNat ≠ 0x7F)

/-- A character of a value that can be read as a text. -/
def isVisible (c : Char) : Bool :=
  c = '\t' || (0x20 ≤ c.toNat && c.toNat < 0x7F)

/-- A name in lower case, to which names are compared. -/
def fold (name : List Char) : List Char :=
  name.map Char.toLower

/-- Whether two names differ in no more than the case of their letters. -/
def sameName (a b : List Char) : Bool :=
  fold a = fold b

end Header

/-- A request. -/
structure Request where
  method : List Char
  target : Target
  headers : List Header
  body : Bytes
  deriving DecidableEq, Repr

namespace Request

/-- The request with the given parts, if each of them may stand in one. -/
def make? (method target : List Char) (headers : List Header) (body : Bytes) : Option Request :=
  if Header.isToken method
      && headers.all fun h => Header.isToken h.name && h.value.all Header.inValue then
    (Target.ofText? target).map (⟨method, ·, headers, body⟩)
  else none

/-- The value of the first header field of a name, if it can be read. -/
def header? (r : Request) (name : List Char) : Option (List Char) :=
  match r.headers.find? fun h => Header.sameName h.name name with
  | some h => if h.value.all Header.isVisible then some h.value else none
  | none => none

end Request

/-- A response: its status, the two header fields that tell what it holds and which methods are
allowed, and its body. -/
structure Response where
  status : Nat
  contentType : Option String
  allow : Option String
  body : List Char
  deriving DecidableEq, Repr

end NotebookGoto.Http
