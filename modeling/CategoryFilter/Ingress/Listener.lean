/-
Where the local interface listens.
-/

import CategoryFilter.Ingress.Address
import CategoryFilter.Ingress.Router

namespace CategoryFilter

/-- Why the interface cannot be served. -/
inductive ListenError where
  | address
deriving Repr, DecidableEq

/-- The message of a fault. -/
def ListenError.message : ListenError → String
  | .address => "server error: invalid address: invalid socket address syntax"

/-- The host and the port that the interface listens at. -/
structure Listener where
  host : String
  port : UInt16
deriving Repr, DecidableEq

namespace Listener

def standardPort : UInt16 := 48766

/-- This machine only. -/
def standardHost : String := "127.0.0.1"

/-- The socket address of a host and a port. -/
def address (l : Listener) : Except ListenError Address :=
  match Address.parse? (l.host ++ ":" ++ toString l.port.toNat) with
  | some address => .ok address
  | none => .error .address

end Listener

end CategoryFilter
