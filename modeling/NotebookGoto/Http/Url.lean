import NotebookGoto.Http.Host
import NotebookGoto.Http.Message

/-!
# Addresses of servers

The URL at which a client looks for a server: a scheme that is `http` or `https`, a host, perhaps
with a port, and a path with its query and fragment. A user in front of the host does not count.
In the path, a backslash is a slash, segments of dots are resolved, and characters that cannot be
sent are written as the bytes they have in UTF-8.
-/

namespace NotebookGoto.Http

open Text

/-- The parts of a URL, each as it is written. -/
structure Url where
  secure : Bool
  host : Host
  port : Option Nat
  path : List Char
  query : Option (List Char)
  fragment : Option (List Char)
  deriving DecidableEq, Repr

namespace Url

/-- A host and what follows it from a colon on. A colon in brackets belongs to the host. -/
def splitHost (bracketed : Bool) : List Char → List Char × List Char
  | [] => ([], [])
  | c :: rest =>
    if c = ':' ∧ !bracketed then ([], c :: rest)
    else
      let (host, port) := splitHost (c = '[' || (bracketed && c ≠ ']')) rest
      (c :: host, port)

/-- The port behind a colon, if both are there, where the digits may be left out. A port that the
scheme implies is not told. -/
def port? (secure : Bool) (s : List Char) : Option (Option Nat) :=
  let ds := s.drop 1
  let port := Decimal.value ds
  let implied := if secure then 443 else 80
  if !ds.all Char.isDigit || 65535 < port then none
  else if ds.isEmpty || port = implied then some none
  else some (some port)

/-- A byte as an escape. -/
def escapeByte (b : UInt8) : List Char :=
  let digit := fun n => (Char.toUpper <$> Decimal.hexDigits n).headD '0'
  ['%', digit (b.toNat / 16), digit (b.toNat % 16)]

/-- A text in which the characters of a class are escaped, and those that are not ASCII. -/
def escape (marks : List Char) (s : List Char) : List Char :=
  s.flatMap fun c =>
    if c.toNat ≤ 0x20 || 0x7F ≤ c.toNat || c ∈ marks then (Utf8.encodeChar c).flatMap escapeByte
    else [c]

/-- How many dots a segment consists of, one or two, each perhaps written as an escape. -/
def dots? (segment : List Char) : Option Nat :=
  let one := [['.'], ['%', '2', 'e']]
  let two := one.flatMap fun a => one.map (a ++ ·)
  let s := Header.fold segment
  if s ∈ one then some 1 else if s ∈ two then some 2 else none

/-- The segments of a path with those of dots resolved: one dot stands for nothing, and two take
the segment before away. At the end they leave an empty segment. -/
def resolve (done : List (List Char)) : List (List Char) → List (List Char)
  | [] => done.reverse
  | s :: rest =>
    match dots? s with
    | none => resolve (s :: done) rest
    | some n =>
      let done := if n = 1 then done else done.drop 1
      resolve (if rest.isEmpty then [] :: done else done) rest

/-- A path as it is sent. -/
def resolved (s : List Char) : List Char :=
  let segments := (s.map fun c => if c = '\\' then '/' else c).splitOn '/'
  let segments := match segments with
    -- The slash that the path starts with opens the first segment.
    | [] :: rest => rest
    | segments => segments
  '/' :: ['/'].intercalate
    ((resolve [] segments).map (escape ['"', '<', '>', '\x60', '\x7b', '\x7d']))

/-- Whether a scheme is the secure one of the two. -/
def isSecure? (scheme : List Char) : Option Bool :=
  if scheme = "https".toList then some true
  else if scheme = "http".toList then some false
  else none

/-- The part of a text behind the first character of a kind, if there is one. -/
def behind? (mark : Char) (s : List Char) : Option (List Char) :=
  match s.dropWhile (· ≠ mark) with
  | [] => none
  | _ :: rest => some rest

/-- The URL that a text spells. White space around it and line ends in it do not count. -/
def ofText? (s : List Char) : Option Url := do
  let s := trimBy (fun c => c.toNat ≤ 0x20) s
  let s := s.filter (· ∉ ['\t', '\n', '\r'])
  let secure ← isSecure? (Header.fold (s.takeWhile (· ≠ ':')))
  let rest := (← behind? ':' s).dropWhile fun c => c = '/' ∨ c = '\\'
  let inside := fun (c : Char) => c ∉ ['/', '\\', '?', '#']
  let authority := rest.takeWhile inside
  let (host, port) := splitHost false (authority.reverse.takeWhile (· ≠ '@')).reverse
  let host ← Host.ofText? host
  let port ← port? secure port
  let rest := rest.dropWhile inside
  let shown := rest.takeWhile (· ≠ '#')
  return {
    secure, host, port
    path := resolved (shown.takeWhile (· ≠ '?'))
    query := (behind? '?' shown).map (escape ['"', '<', '>', '\''])
    fragment := (behind? '#' rest).map (escape ['"', '<', '>', '\x60']) }

/-- A URL as it is written. -/
def text (u : Url) : List Char :=
  let part := fun (mark : Char) (s : Option (List Char)) => (s.map (mark :: ·)).getD []
  (if u.secure then "https://" else "http://").toList ++ u.host.text
    ++ part ':' (u.port.map Decimal.digits) ++ u.path ++ part '?' u.query ++ part '#' u.fragment

/-- The target of a request for what is at a URL. There is none if the URL is too long, or if its
host has characters that cannot stand in a target. -/
def target? (u : Url) : Option Target :=
  Target.ofText? u.text

end Url

end NotebookGoto.Http
