import Esp3Host.Address
import Esp3Host.Profile

/-!
# Devices

A paired device has an address, a manufacturer and a profile.  The device table maps addresses to
devices and accepts new ones only with a profile that it lists.
-/

namespace Esp3Host

/-- The manufacturer of a device whose telegram names none. -/
def unknownManufacturer : Nat := 0x7FF

structure Device where
  address : Address
  manufacturer : Nat
  profile : Profile
  deriving DecidableEq, Repr

inductive DeviceError where
  | unsupportedProfile (profile : Profile)
  | alreadyRegistered (address : Address)
  | rejected (reason : String)
  deriving DecidableEq, Repr

namespace DeviceError

def message : DeviceError → String
  | unsupportedProfile profile => s!"profile {profile.text} is not supported"
  | alreadyRegistered address => s!"device {address.text} is already registered"
  | rejected reason => s!"registry rejected device: {reason}"

end DeviceError

structure DeviceTable where
  devices : List Device := []
  profiles : List Profile := Profile.knownProfiles
  deriving DecidableEq, Repr

namespace DeviceTable

def find? (table : DeviceTable) (address : Address) : Option Device :=
  table.devices.find? fun d => d.address = address

def supports (table : DeviceTable) (profile : Profile) : Bool := table.profiles.contains profile

/-- Enter a device, in the place of the one with its address if there is one. -/
def insert (table : DeviceTable) (device : Device) : DeviceTable :=
  if (table.find? device.address).isSome then
    { table with
      devices := table.devices.map fun d => if d.address = device.address then device else d }
  else { table with devices := table.devices ++ [device] }

def erase (table : DeviceTable) (address : Address) : DeviceTable :=
  { table with devices := table.devices.filter fun d => d.address ≠ address }

/-- Enter a new device.  A profile that is not listed is refused before a known address is. -/
def create (table : DeviceTable) (device : Device) : Except DeviceError DeviceTable :=
  if !table.supports device.profile then .error (.unsupportedProfile device.profile)
  else if (table.find? device.address).isSome then .error (.alreadyRegistered device.address)
  else .ok { table with devices := table.devices ++ [device] }

def byAddress (table : DeviceTable) : List Device :=
  table.devices.mergeSort fun a b => a.address.toNat ≤ b.address.toNat

end DeviceTable

end Esp3Host
