import Esp3Host.Device
import Esp3Host.Telegram

/-!
# Profiles carried by four-byte teach-in telegrams

Such a telegram names its profile and manufacturer in the first three payload bytes if bit seven of
the fourth is set:

    function, six bits | type, seven bits | manufacturer, eleven bits
-/

namespace Esp3Host.TeachIn

def carriesProfileBit : Nat := 7

def carriedProfile? : Bytes → Option (Profile × Nat)
  | db3 :: db2 :: db1 :: db0 :: _ =>
      if hasBit db0 Telegram.learnBit || !hasBit db0 carriesProfileBit then none
      else
        some
          (⟨Rorg.fourByte.code, UInt8.ofNat (db3.toNat / 4),
            UInt8.ofNat (db3.toNat % 4 * 32 + db2.toNat / 8)⟩,
            db2.toNat % 8 * 256 + db1.toNat)
  | _ => none

end Esp3Host.TeachIn
