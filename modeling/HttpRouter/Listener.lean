import HttpRouter.Fault

/-!
Listeners. An address has one listener at a time; port zero stands for any port that is free. A
listener that ends, however it ends, leaves its port free.
-/

namespace HttpRouter

structure Network where
  listening : List Address
  deriving DecidableEq, Repr

namespace Network

def idle : Network := ⟨[]⟩

def ephemeralPorts : List UInt16 :=
  (List.range 16384).map fun offset => UInt16.ofNat (49152 + offset)

def isFree (network : Network) (address : Address) : Bool :=
  !network.listening.contains address

/-- The address to bind: the one asked for, or one with a free port. -/
def choose (network : Network) (asked : Address) : Option Address :=
  if asked.port = 0 then
    (ephemeralPorts.map fun port => { asked with port := port }).find? network.isFree
  else if network.isFree asked then some asked
  else none

def listen (network : Network) (asked : Address) : Except Fault (Address × Network) :=
  match network.choose asked with
  | some address => .ok (address, ⟨address :: network.listening⟩)
  | none => .error (.bind asked.render "Address already in use (os error 98)")

def release (network : Network) (address : Address) : Network :=
  ⟨network.listening.filter (· ≠ address)⟩

end Network

namespace Record

def listening (address : Address) : Record :=
  ⟨.info, "Listening for connections", [("address", address.render)]⟩

def shutDown : Record :=
  ⟨.info, "Listener shut down", []⟩

end Record
end HttpRouter
