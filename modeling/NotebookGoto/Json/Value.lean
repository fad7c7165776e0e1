import NotebookGoto.Json.Token

/-!
# JSON values

`Json.read` builds the value at the head of a text and gives back the tokens after it. It never
fails: where the text stops being JSON the value holds `broken`, and every array and object that
was open at that point is marked as not closed. A reader of such a value goes through it from
left to right and meets either a fault of its own or the place where the text broke, whichever
comes first.
-/

namespace NotebookGoto

/-- A JSON value, as far as its text goes. -/
inductive Json where
  | null
  | bool (b : Bool)
  | number (n : Json.Number)
  | string (s : Json.Symbols)
  | array (items : List Json) (closed : Bool)
  | object (members : List (Json.Symbols × Json)) (closed : Bool)
  | broken
  deriving Repr

namespace Json

/-- Whether the text of a value was well-formed up to its end. Only the outermost bracket has to
be looked at, since a text that breaks inside it leaves it open. -/
def whole : Json → Bool
  | .array _ closed => closed
  | .object _ closed => closed
  | .broken => false
  | _ => true

/-- An array or an object that is not closed yet, with what it holds so far, the latest first.
In a `member` the value of a key is still to come. -/
inductive Frame where
  | array (done : List Json)
  | object (done : List (Symbols × Json))
  | member (done : List (Symbols × Json)) (key : Symbols)
  deriving Repr

/-- What has to come next: a value, also with the choice of closing an empty array; a key, also
with the choice of closing an empty object; the colon of a member; or, after a value, a comma or
the closing mark. -/
inductive Want where
  | value | valueOrEnd | key | keyOrEnd | colon | commaOrEnd
  deriving DecidableEq, Repr

/-- What a token does. -/
inductive Step where
  | more (stack : List Frame) (want : Want)
  | complete (v : Json)
  | fault

namespace Step

/-- A value is complete: it goes into the innermost frame, or it is the whole. -/
def put (v : Json) : List Frame → Step
  | [] => .complete v
  | .array done :: stack => .more (.array (v :: done) :: stack) .commaOrEnd
  | .member done key :: stack => .more (.object ((key, v) :: done) :: stack) .commaOrEnd
  -- A key comes first in an object, so no value is ever put there.
  | .object _ :: _ => .fault

/-- A token where a value has to come. -/
def value (stack : List Frame) : Token → Step
  | .null => put .null stack
  | .bool b => put (.bool b) stack
  | .number n => put (.number n) stack
  | .string s => put (.string s) stack
  | .opening .square => .more (.array [] :: stack) .valueOrEnd
  | .opening .brace => .more (.object [] :: stack) .keyOrEnd
  | _ => .fault

/-- A closing mark, which has to match the innermost frame. -/
def close (b : Bracket) : List Frame → Step
  | .array done :: stack => if b = .square then put (.array done.reverse true) stack else .fault
  | .object done :: stack => if b = .brace then put (.object done.reverse true) stack else .fault
  | _ => .fault

/-- A token where a key has to come. -/
def key (stack : List Frame) (t : Token) : Step :=
  match stack, t with
  | .object done :: stack, .string s => .more (.member done s :: stack) .colon
  | _, _ => .fault

/-- A comma between two items or two members. -/
def comma : List Frame → Step
  | .array done :: stack => .more (.array done :: stack) .value
  | .object done :: stack => .more (.object done :: stack) .key
  | _ => .fault

/-- What a token does, by what has to come. -/
def of (stack : List Frame) (want : Want) (t : Token) : Step :=
  match want, t with
  | .value, t => value stack t
  | .valueOrEnd, .closing b => close b stack
  | .valueOrEnd, t => value stack t
  | .key, t => key stack t
  | .keyOrEnd, .closing b => close b stack
  | .keyOrEnd, t => key stack t
  | .colon, .colon => .more stack .value
  | .commaOrEnd, .closing b => close b stack
  | .commaOrEnd, .comma => comma stack
  | _, _ => .fault

end Step

/-- The value of a text that breaks inside some frames, where `v` is the innermost value. -/
def abandon (v : Json) : List Frame → Json
  | [] => v
  | .array done :: stack => abandon (.array (v :: done).reverse false) stack
  | .object done :: stack => abandon (.object done.reverse false) stack
  | .member done key :: stack => abandon (.object ((key, v) :: done).reverse false) stack

/-- The value that some tokens continue, and the tokens after it. -/
def build (stack : List Frame) (want : Want) : List Token → Json × List Token
  | [] => (abandon .broken stack, [])
  | t :: rest =>
    match Step.of stack want t with
    | .more stack want => build stack want rest
    | .complete v => (v, rest)
    | .fault => (abandon .broken stack, rest)

/-- The value at the head of a text, and the tokens after it. -/
def read (s : Symbols) : Json × List Token :=
  build [] .value (tokens s)

/-- The value of a text that holds nothing else. -/
def readAll (s : Symbols) : Json :=
  match read s with
  | (v, []) => v
  | _ => .broken

end Json

end NotebookGoto
