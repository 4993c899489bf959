import BrightScript.Json.Record
import BrightScript.SortedMap

namespace BrightScript

/-- What a device tells about itself. The registry holds persistent sections as
`section.key → value` for the host to keep between launches. -/
structure DeviceInfo where
  developerId : String := "34c6fceca75e456f25e7e99531e2425c6c1de443"
  friendlyName : String := "BrightScript Emulator"
  deviceModel : String := "8000X"
  firmwareVersion : String := "049.10E04111A"
  clientId : String := "6c5bf3a5-b2a5-4918-824d-7691d5c85364"
  advertisingId : String := "f51ac698-bc60-4409-aae3-8fc3abc025c4"
  countryCode : String := "US"
  timeZone : String := "US/Arizona"
  locale : String := "en_US"
  clockFormat : String := "12h"
  displayMode : String := "720p"
  defaultFont : String := "Asap"
  maxSimulStreams : Nat := 2
  localIps : List String := ["eth1,127.0.0.1"]
  registry : SortedMap String := .empty
  deriving DecidableEq, Repr

namespace DeviceInfo

instance : Inhabited DeviceInfo := ⟨{}⟩

def fieldNames : List String :=
  ["developerId", "friendlyName", "deviceModel", "firmwareVersion", "clientId", "RIDA",
    "countryCode", "timeZone", "locale", "clockFormat", "displayMode", "defaultFont",
    "maxSimulStreams", "localIps", "registry"]

def toJson (info : DeviceInfo) : Json :=
  .object [
    ("developerId", .text info.developerId),
    ("friendlyName", .text info.friendlyName),
    ("deviceModel", .text info.deviceModel),
    ("firmwareVersion", .text info.firmwareVersion),
    ("clientId", .text info.clientId),
    ("RIDA", .text info.advertisingId),
    ("countryCode", .text info.countryCode),
    ("timeZone", .text info.timeZone),
    ("locale", .text info.locale),
    ("clockFormat", .text info.clockFormat),
    ("displayMode", .text info.displayMode),
    ("defaultFont", .text info.defaultFont),
    ("maxSimulStreams", .integer info.maxSimulStreams),
    ("localIps", .array (info.localIps.map .text)),
    ("registry", .object (info.registry.entries.map fun (name, value) => (name, .text value)))]

/-- Reads a description; missing fields keep their standard values. -/
def ofJson? (document : Json) : Option DeviceInfo := do
  let standard : DeviceInfo := {}
  match ← Json.fields? fieldNames document with
  | [developerId, friendlyName, deviceModel, firmwareVersion, clientId, advertisingId,
      countryCode, timeZone, locale, clockFormat, displayMode, defaultFont, maxSimulStreams,
      localIps, registry] =>
    return {
      developerId := ← Json.fieldOr? Json.text? standard.developerId developerId
      friendlyName := ← Json.fieldOr? Json.text? standard.friendlyName friendlyName
      deviceModel := ← Json.fieldOr? Json.text? standard.deviceModel deviceModel
      firmwareVersion := ← Json.fieldOr? Json.text? standard.firmwareVersion firmwareVersion
      clientId := ← Json.fieldOr? Json.text? standard.clientId clientId
      advertisingId := ← Json.fieldOr? Json.text? standard.advertisingId advertisingId
      countryCode := ← Json.fieldOr? Json.text? standard.countryCode countryCode
      timeZone := ← Json.fieldOr? Json.text? standard.timeZone timeZone
      locale := ← Json.fieldOr? Json.text? standard.locale locale
      clockFormat := ← Json.fieldOr? Json.text? standard.clockFormat clockFormat
      displayMode := ← Json.fieldOr? Json.text? standard.displayMode displayMode
      defaultFont := ← Json.fieldOr? Json.text? standard.defaultFont defaultFont
      maxSimulStreams :=
        ← Json.fieldOr? (Json.natBelow? 0x100000000) standard.maxSimulStreams maxSimulStreams
      localIps := ← Json.fieldOr? (Json.list? Json.text?) standard.localIps localIps
      registry :=
        ← Json.fieldOr? (fun value => (Json.members? Json.text? value).map SortedMap.ofList)
          standard.registry registry }
  | _ => none

end DeviceInfo

end BrightScript
