import Esp3Host.Text.Blank
import Esp3Host.Text.Numeral

/-!
# Equipment profiles

A profile says what a device's payload means.  It is named by three bytes: the telegram family
(RORG), the function and the type.  `Profile.known` lists the profiles this host supports.
-/

namespace Esp3Host

structure Profile where
  rorg : UInt8
  func : UInt8
  variant : UInt8
  deriving DecidableEq, Repr

inductive ProfileError where
  | wrongShape
  | badPart (cause : NumeralError)
  deriving DecidableEq, Repr

def ProfileError.message (given : String) : ProfileError → String
  | wrongShape => s!"invalid EEP '{given}': expected RR-FF-TT"
  | badPart cause => s!"invalid EEP '{given}': {cause.message}"

namespace Profile

def text (p : Profile) : String :=
  String.ofList (Hex.upperPair p.rorg ++ '-' :: Hex.upperPair p.func ++ '-' :: Hex.upperPair p.variant)

def isSeparator (c : Char) : Bool := c == '-' || c == ':' || c == '_'

/-- The parts between separators; there is always at least one, and parts may be empty. -/
def parts : List Char → List (List Char)
  | [] => [[]]
  | c :: rest =>
      if isSeparator c then [] :: parts rest
      else
        match parts rest with
        | first :: others => (c :: first) :: others
        | [] => [[c]]

def readPart (part : List Char) : Except ProfileError UInt8 :=
  match Numeral.read 16 0xFF part with
  | .ok n => .ok (UInt8.ofNat n)
  | .error cause => .error (.badPart cause)

/--
Read three hexadecimal parts between separators, with blanks around the whole.  The first part that
is no byte decides about the error.
-/
def read (given : String) : Except ProfileError Profile :=
  match parts (Text.trim given.toList) with
  | [rorg, func, variant] => do
      return ⟨← readPart rorg, ← readPart func, ← readPart variant⟩
  | _ => .error .wrongShape

def toNat (p : Profile) : Nat := (p.rorg.toNat * 256 + p.func.toNat) * 256 + p.variant.toNat

def le (a b : Profile) : Bool := a.toNat ≤ b.toNat

structure Entry where
  profile : Profile
  description : String
  deriving DecidableEq, Repr

def known : List Entry :=
  [ ⟨⟨0xF6, 0x02, 0x01⟩, "Light and blind control, application style 1"⟩,
    ⟨⟨0xF6, 0x02, 0x02⟩, "Light and blind control, application style 2"⟩,
    ⟨⟨0xF6, 0x10, 0x00⟩, "Window handle"⟩,
    ⟨⟨0xD5, 0x00, 0x01⟩, "Single input contact"⟩,
    ⟨⟨0xA5, 0x02, 0x05⟩, "Temperature sensor 0..40 C"⟩,
    ⟨⟨0xA5, 0x04, 0x01⟩, "Temperature and humidity sensor 0..40 C"⟩,
    ⟨⟨0xA5, 0x06, 0x01⟩, "Light sensor 300..60000 lx"⟩,
    ⟨⟨0xA5, 0x07, 0x01⟩, "Occupancy sensor with supply voltage"⟩,
    ⟨⟨0xA5, 0x09, 0x04⟩, "CO2 sensor with humidity and temperature"⟩,
    ⟨⟨0xA5, 0x10, 0x06⟩, "Room operating panel, set point and day/night"⟩,
    ⟨⟨0xA5, 0x12, 0x01⟩, "Automated meter reading, electricity"⟩,
    ⟨⟨0xA5, 0x20, 0x01⟩, "Battery powered actuator (HVAC)"⟩,
    ⟨⟨0xD2, 0x01, 0x01⟩, "Electronic switch, 1 channel"⟩,
    ⟨⟨0xD2, 0x01, 0x12⟩, "Electronic switch, 2 channels"⟩,
    ⟨⟨0xD2, 0x05, 0x00⟩, "Blinds control for position and angle"⟩ ]

def knownProfiles : List Profile := known.map Entry.profile

def description? (p : Profile) : Option String :=
  (known.find? fun entry => entry.profile = p).map Entry.description

/-- What a rocker switch is taken for, since its telegram names no profile. -/
def rockerSwitch : Profile := ⟨0xF6, 0x02, 0x01⟩

def contact : Profile := ⟨0xD5, 0x00, 0x01⟩

end Profile

end Esp3Host
