import BrightScript.Device.Info
import BrightScript.Device.Models
import BrightScript.Storage.FileSystem

namespace BrightScript

/-- A device: its description, the models it knows, its storage and its clock. -/
structure Device where
  info : DeviceInfo := {}
  models : ModelTable := .bundled
  files : FileSystem := .standard
  /-- What the clock will read, the next time first. -/
  readings : List Nat := []

/-- The name of the device's own model. -/
def Device.modelName? (device : Device) : Option String :=
  (device.models.get? device.info.deviceModel).map (·.name)

end BrightScript
