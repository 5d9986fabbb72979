import HttpRouter.Fault

/-!
Settings of a server from its environment: a host and a port, both with a default.
-/

namespace HttpRouter

inductive PortError where
  | empty
  | invalidDigit
  | tooLarge
  deriving DecidableEq, Repr

def PortError.message : PortError → String
  | .empty => "cannot parse integer from empty string"
  | .invalidDigit => "invalid digit found in string"
  | .tooLarge => "number too large to fit in target type"

structure Settings where
  host : String
  port : UInt16
  deriving DecidableEq, Repr

namespace Settings

/-- Reads decimal digits from left to right; the first defect met is the one reported. -/
def readDigits : Nat → List Char → Except PortError UInt16
  | value, [] => .ok (UInt16.ofNat value)
  | value, char :: rest =>
      if char.isDigit then
        let next := value * 10 + (char.toNat - '0'.toNat)
        if next < 65536 then readDigits next rest else .error .tooLarge
      else .error .invalidDigit

def readPort (text : String) : Except PortError UInt16 :=
  match text.toList with
  | [] => .error .empty
  | ['+'] => .error .invalidDigit
  | '+' :: digits => readDigits 0 digits
  | digits => readDigits 0 digits

def read (host port : Option String) : Except Fault Settings :=
  let host := host.getD "127.0.0.1"
  match port with
  | none => .ok ⟨host, 3000⟩
  | some text =>
      match readPort text with
      | .ok port => .ok ⟨host, port⟩
      | .error error =>
          .error (.plain ("Invalid PORT " ++ Text.quote text ++ ": " ++ error.message))

end Settings

def Fault.report (fault : Fault) : String :=
  "Error: " ++ fault.describe ++ "\n"

end HttpRouter
