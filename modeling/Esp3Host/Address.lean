import Esp3Host.Text.Blank
import Esp3Host.Text.Numeral

/-!
# Radio addresses

A transmitter is known by four bytes.  They are written as one hexadecimal number of eight digits
behind the mark `0x`; a user may leave out the mark, leading zeros and upper case.
-/

namespace Esp3Host

structure Address where
  byte3 : UInt8
  byte2 : UInt8
  byte1 : UInt8
  byte0 : UInt8
  deriving DecidableEq, Repr

namespace Address

def broadcast : Address := ⟨0xFF, 0xFF, 0xFF, 0xFF⟩

def toBytes (a : Address) : Bytes := [a.byte3, a.byte2, a.byte1, a.byte0]

def ofBytes? : Bytes → Option Address
  | byte3 :: byte2 :: byte1 :: byte0 :: _ => some ⟨byte3, byte2, byte1, byte0⟩
  | _ => none

def toNat (a : Address) : Nat := Bytes.toNat a.toBytes

/-- The address with this number; what exceeds four bytes is dropped. -/
def ofNat (n : Nat) : Address :=
  ⟨UInt8.ofNat (n / 0x1000000), UInt8.ofNat (n / 0x10000), UInt8.ofNat (n / 0x100), UInt8.ofNat n⟩

@[simp] theorem ofBytes?_append (a : Address) (rest : Bytes) :
    ofBytes? (a.toBytes ++ rest) = some a := rfl

theorem toNat_mk (byte3 byte2 byte1 byte0 : UInt8) :
    toNat ⟨byte3, byte2, byte1, byte0⟩ =
      0x1000000 * byte3.toNat + 0x10000 * byte2.toNat + 0x100 * byte1.toNat + byte0.toNat := by
  simp only [toNat, toBytes, Bytes.toNat, List.foldl_cons, List.foldl_nil]
  omega

theorem toNat_le (a : Address) : a.toNat ≤ 0xFFFFFFFF := by
  obtain ⟨b₃, b₂, b₁, b₀⟩ := a
  have h₃ := b₃.toNat_lt
  have h₂ := b₂.toNat_lt
  have h₁ := b₁.toNat_lt
  have h₀ := b₀.toNat_lt
  rw [toNat_mk]
  omega

theorem ofNat_toNat (a : Address) : ofNat a.toNat = a := by
  obtain ⟨b₃, b₂, b₁, b₀⟩ := a
  have h₃ := b₃.toNat_lt
  have h₂ := b₂.toNat_lt
  have h₁ := b₁.toNat_lt
  have h₀ := b₀.toNat_lt
  simp only [ofNat, toNat_mk, mk.injEq]
  refine ⟨?_, ?_, ?_, ?_⟩
  all_goals
    apply UInt8.toNat_inj.mp
    rw [UInt8.toNat_ofNat']
    omega

theorem toNat_ofNat {n : Nat} (h : n ≤ 0xFFFFFFFF) : (ofNat n).toNat = n := by
  rw [ofNat, toNat_mk]
  simp only [UInt8.toNat_ofNat']
  omega

def text (a : Address) : String :=
  "0x" ++ String.ofList (a.toBytes.flatMap Hex.upperPair)

def dropMarks (first second : Char) : List Char → List Char
  | c :: d :: rest =>
      if c = first ∧ d = second then dropMarks first second rest else c :: d :: rest
  | rest => rest

def read (typed : String) : Except NumeralError Address :=
  (Numeral.read 16 0xFFFFFFFF
    (dropMarks '0' 'X' (dropMarks '0' 'x' (Text.trim typed.toList)))).map ofNat

def readMessage (typed : String) (cause : NumeralError) : String :=
  s!"invalid device id '{typed}': {cause.message}"

end Address

end Esp3Host
