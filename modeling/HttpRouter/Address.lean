/-!
Socket addresses of peers and listeners. A version 6 address is written with its longest run of two
or more zero groups left out, the first of several such runs, and with its zone unless that is the
default one, zero.
-/

namespace HttpRouter

inductive IpAddress where
  | v4 (first second third fourth : UInt8)
  | v6 (groups : List UInt16) (zone : UInt32)
  deriving DecidableEq, Repr

structure Address where
  ip : IpAddress
  port : UInt16
  deriving DecidableEq, Repr

namespace IpAddress

def zeroRun (groups : List UInt16) : Nat :=
  (groups.takeWhile (· == 0)).length

/-- Where the longest run of zero groups starts, and its length. An earlier run wins a tie. -/
def longestZeroRun : Nat → List UInt16 → Nat × Nat
  | start, [] => (start, 0)
  | start, group :: rest =>
      let later := longestZeroRun (start + 1) rest
      let here := zeroRun (group :: rest)
      if later.2 ≤ here then (start, here) else later

def renderGroup (group : UInt16) : String :=
  String.ofList (Nat.toDigits 16 group.toNat)

def renderGroups (groups : List UInt16) : String :=
  ":".intercalate (groups.map renderGroup)

def renderQuad (octets : List Nat) : String :=
  ".".intercalate (octets.map fun octet => toString octet)

def mapped? : List UInt16 → Option (List Nat)
  | [0, 0, 0, 0, 0, 0xFFFF, high, low] =>
      some [high.toNat / 256, high.toNat % 256, low.toNat / 256, low.toNat % 256]
  | _ => none

def renderV6 (groups : List UInt16) : String :=
  match mapped? groups with
  | some octets => "::ffff:" ++ renderQuad octets
  | none =>
      let run := longestZeroRun 0 groups
      if run.2 < 2 then renderGroups groups
      else renderGroups (groups.take run.1) ++ "::" ++ renderGroups (groups.drop (run.1 + run.2))

def renderZone (zone : UInt32) : String :=
  if zone = 0 then "" else "%" ++ toString zone.toNat

def render : IpAddress → String
  | .v4 first second third fourth =>
      renderQuad [first.toNat, second.toNat, third.toNat, fourth.toNat]
  | .v6 groups zone => renderV6 groups ++ renderZone zone

def readOctet (text : String) : Option UInt8 :=
  let digits := text.toList
  if digits.isEmpty || 3 < digits.length || !digits.all Char.isDigit ||
      (1 < digits.length && digits.head? == some '0') then none
  else
    let value := digits.foldl (fun value digit => value * 10 + (digit.toNat - 48)) 0
    if value < 256 then some (UInt8.ofNat value) else none

def readV4 (text : String) : Option IpAddress :=
  match (text.toList.splitOn '.').map (readOctet ∘ String.ofList) with
  | [some first, some second, some third, some fourth] => some (.v4 first second third fourth)
  | _ => none

def hexValue (char : Char) : Option Nat :=
  if char.isDigit then some (char.toNat - 48)
  else if 'a' ≤ char ∧ char ≤ 'f' then some (char.toNat - 87)
  else if 'A' ≤ char ∧ char ≤ 'F' then some (char.toNat - 55)
  else none

def readGroup (digits : List Char) : Option UInt16 :=
  if digits.isEmpty || 4 < digits.length then none
  else (digits.foldlM (fun value char => (hexValue char).map (value * 16 + ·)) 0).map UInt16.ofNat

/-- Groups between colons. The last one may be a version 4 address, which fills two groups. -/
def readGroups : List (List Char) → Option (List UInt16)
  | [] => some []
  | [last] =>
      if '.' ∈ last then
        match readV4 (String.ofList last) with
        | some (.v4 first second third fourth) =>
            some [UInt16.ofNat (first.toNat * 256 + second.toNat),
              UInt16.ofNat (third.toNat * 256 + fourth.toNat)]
        | _ => none
      else (readGroup last).map fun group => [group]
  | group :: rest => do return (← readGroup group) :: (← readGroups rest)

def readSide (text : List Char) : Option (List UInt16) :=
  if text.isEmpty then some [] else readGroups (text.splitOn ':')

def cutAtGap : List Char → List Char × Option (List Char)
  | ':' :: ':' :: rest => ([], some rest)
  | char :: rest => let (before, after) := cutAtGap rest; (char :: before, after)
  | [] => ([], none)

/-- Eight groups, or fewer around a gap. A version 4 address may only end the whole. -/
def readAllGroups (text : List Char) : Option (List UInt16) := do
  match cutAtGap text with
  | (all, none) =>
      let groups ← readGroups (all.splitOn ':')
      if groups.length = 8 then some groups else none
  | (before, some after) =>
      let left ← if '.' ∈ before then none else readSide before
      let right ← readSide after
      let filled := left.length + right.length
      if filled < 8 then some (left ++ List.replicate (8 - filled) 0 ++ right) else none

def readNumber (bound : Nat) (digits : List Char) : Option Nat :=
  if digits.isEmpty || !digits.all Char.isDigit then none
  else
    let value := digits.foldl (fun value digit => value * 10 + (digit.toNat - 48)) 0
    if value < bound then some value else none

def readV6 (text : List Char) : Option IpAddress := do
  let groups ← readAllGroups (text.takeWhile (· != '%'))
  match text.dropWhile (· != '%') with
  | [] => return .v6 groups 0
  | _ :: zone => return .v6 groups (UInt32.ofNat (← readNumber 4294967296 zone))

end IpAddress

namespace Address

def render (address : Address) : String :=
  let port := toString address.port.toNat
  match address.ip with
  | .v4 .. => address.ip.render ++ ":" ++ port
  | .v6 .. => "[" ++ address.ip.render ++ "]:" ++ port

def readPort (digits : List Char) : Option UInt16 :=
  (IpAddress.readNumber 65536 digits).map UInt16.ofNat

def parse? (text : String) : Option Address :=
  match text.toList with
  | '[' :: inner => do
      let ip ← IpAddress.readV6 (inner.takeWhile (· != ']'))
      match inner.dropWhile (· != ']') with
      | ']' :: ':' :: port => return ⟨ip, ← readPort port⟩
      | _ => none
  | chars => do
      let ip ← IpAddress.readV4 (String.ofList (chars.takeWhile (· != ':')))
      match chars.dropWhile (· != ':') with
      | ':' :: port => return ⟨ip, ← readPort port⟩
      | _ => none

end Address
end HttpRouter
