import NotebookGoto.Domain.Name
import NotebookGoto.Http.Query
import NotebookGoto.IpAddress

/-!
# Hosts

The host of a URL is a domain name or an IP address. An address of version 6 stands in square
brackets. In a name, escapes are resolved first. A name whose last label is a number is an address
of version 4: up to four numbers with points between them, in decimal, to base sixteen behind `0x`
or to base eight behind `0`, of which the last one fills all the bytes that are left.
-/

namespace NotebookGoto.Http

open Text

/-- A host: a name in ASCII, or an address. -/
inductive Host where
  | name (s : List Char)
  | address (a : IpAddress)
  deriving DecidableEq, Repr

namespace Host

/-- The digits and the base of a number. -/
def baseOf : List Char → Nat × List Char
  | '0' :: 'x' :: ds => (16, ds)
  | '0' :: 'X' :: ds => (16, ds)
  | '0' :: d :: ds => (8, d :: ds)
  | ds => (10, ds)

/-- The number that a part of an address is. No digits behind `0x` are a zero. -/
def number? (part : List Char) : Option Nat :=
  let (base, ds) := baseOf part
  if part.isEmpty then none
  else ds.foldlM (fun n c => (Decimal.hexDigit? c).bind fun d =>
    if d < base then some (n * base + d) else none) 0

/-- The labels of a name but for an empty one at its end, which is the root. -/
def labels (name : List Char) : List (List Char) :=
  let parts := name.splitOn '.'
  if 1 < parts.length && parts.getLast? = some [] then parts.dropLast else parts

/-- Whether a name is meant as an address: its last label is a number, or consists of digits. -/
def endsInNumber (name : List Char) : Bool :=
  (labels name).getLast?.any fun part =>
    (number? part).isSome || (!part.isEmpty && part.all Char.isDigit)

/-- The address of version 4 that some numbers are. All but the last are one byte each. -/
def v4? (numbers : List Nat) : Option IpAddress :=
  let bytes := numbers.dropLast
  match numbers.getLast? with
  | none => none
  | some last =>
    if 3 < bytes.length || bytes.any (255 < ·) ||
        Nat.pow 256 (4 - bytes.length) ≤ last then none
    else
      let all := bytes ++
        (List.range (4 - bytes.length)).reverse.map fun i => last / Nat.pow 256 i % 256
      match all with
      | [a, b, c, d] => some (.v4 a b c d)
      | _ => none

/-- The host that a name in ASCII is. -/
def ofName? (name : List Char) : Option Host :=
  if name.isEmpty then none
  else if endsInNumber name then
    ((labels name).mapM number?).bind fun numbers => (v4? numbers).map .address
  else some (.name name)

/-- The host that a text spells. -/
def ofText? : List Char → Option Host
  | '[' :: rest =>
    match IpAddress.readV6? rest with
    | some (groups, [']']) => some (.address (.v6 groups))
    | _ => none
  | s => do ofName? (← Domain.Name.ascii? (← Utf8.text? (Query.unescape (Utf8.encode s))))

/-- A host as it is written in a URL. -/
def text : Host → List Char
  | .name s => s
  | .address (.v4 a b c d) => IpAddress.textV4 a b c d
  | .address (.v6 groups) => ['['] ++ IpAddress.textV6 groups ++ [']']

end Host

end NotebookGoto.Http
