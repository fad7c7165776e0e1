import NotebookGoto.IpAddress

/-!
# Socket addresses

An address to listen at: an IP address and a port behind a colon. The address of version 6 stands
in square brackets, and a scope may follow it there after a percent sign. `SocketAddress.text`
writes the shortest of these forms.
-/

namespace NotebookGoto

open Text

/-- An IP address with a port, and for version 6 with a scope. -/
structure SocketAddress where
  ip : IpAddress
  scope : Nat
  port : Nat
  deriving DecidableEq, Repr

namespace SocketAddress

/-! ## Reading -/

/-- A colon and a port at the end of a text. -/
def readPort? (s : List Char) : Option Nat := do
  let (port, rest) ← IpAddress.readDecimal? 65535 (← afterPrefix? [':'] s)
  if rest.isEmpty then some port else none

/-- A scope after a percent sign, where there is one, and the text after it. -/
def readScope? (s : List Char) : Option (Nat × List Char) :=
  match s with
  | '%' :: rest => IpAddress.readDecimal? 4294967295 rest
  | _ => some (0, s)

/-- The address that a text spells. -/
def ofText? (s : List Char) : Option SocketAddress :=
  match s with
  | '[' :: rest => do
    let (groups, rest) ← IpAddress.readV6? rest
    let (scope, rest) ← readScope? rest
    return ⟨.v6 groups, scope, ← readPort? (← afterPrefix? [']'] rest)⟩
  | _ => do
    let ((a, b, c, d), rest) ← IpAddress.readV4? s
    return ⟨.v4 a b c d, 0, ← readPort? rest⟩

/-! ## Writing -/

/-- An address as it is written. -/
def text (a : SocketAddress) : List Char :=
  let port := ':' :: Decimal.digits a.port
  match a.ip with
  | .v4 .. => a.ip.text ++ port
  | .v6 _ =>
    let scope := if a.scope = 0 then [] else '%' :: Decimal.digits a.scope
    ['['] ++ a.ip.text ++ scope ++ [']'] ++ port

/-- Whether an address is of version 6. -/
def isV6 (a : SocketAddress) : Bool :=
  match a.ip with
  | .v4 .. => false
  | .v6 _ => true

end SocketAddress

end NotebookGoto
