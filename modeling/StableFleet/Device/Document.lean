import StableFleet.Device.Record
import StableFleet.Error
import StableFleet.Json.Canonical
import StableFleet.Json.Codec
import StableFleet.Json.Complaint
import StableFleet.Json.Reader
import StableFleet.Text.Quoted

/-!
# Inventory records as documents

A record is written as an object with all its members, labels by their names.
When it is read, members that are missing keep their unset values, and a text
that is no name of a label is refused with the kind of label it should name.
-/

namespace StableFleet

open Json (Codec Complaint Misfit Shape Value)

/-- The shape of a label: one of the names of its kind. -/
def Label.shape {α : Type} [Label α] : Shape α := fun value => do
  let text ← Shape.text value
  match Label.read? text with
  | some label => return label
  | none => throw (.unknownName (Label.kind α) text)

/-- A label by its name. -/
def Label.codec {α : Type} [Label α] : Codec α :=
  ⟨Label.shape, fun label => .ofText (Label.name label)⟩

/-- The members of what a device can do. -/
def Capabilities.codec : Codec Capabilities :=
  Codec.record [
    Codec.member "atrus" Codec.bool (·.atrus) fun record value => { record with atrus := value },
    Codec.member "bluetooth" Codec.bool (·.bluetooth)
      fun record value => { record with bluetooth := value },
    Codec.member "detachablebase" Codec.bool (·.detachablebase)
      fun record value => { record with detachablebase := value },
    Codec.member "fingerprint" Codec.bool (·.fingerprint)
      fun record value => { record with fingerprint := value },
    Codec.member "flashrom" Codec.bool (·.flashrom)
      fun record value => { record with flashrom := value },
    Codec.member "hotwording" Codec.bool (·.hotwording)
      fun record value => { record with hotwording := value },
    Codec.member "internal_display" Codec.bool (·.internalDisplay)
      fun record value => { record with internalDisplay := value },
    Codec.member "lucidsleep" Codec.bool (·.lucidsleep)
      fun record value => { record with lucidsleep := value },
    Codec.member "touchpad" Codec.bool (·.touchpad)
      fun record value => { record with touchpad := value },
    Codec.member "touchscreen" Codec.bool (·.touchscreen)
      fun record value => { record with touchscreen := value },
    Codec.member "webcam" Codec.bool (·.webcam)
      fun record value => { record with webcam := value },
    Codec.member "graphics" Codec.text (·.graphics)
      fun record value => { record with graphics := value },
    Codec.member "gpu_family" Codec.text (·.gpuFamily)
      fun record value => { record with gpuFamily := value },
    Codec.member "modem" Codec.text (·.modem) fun record value => { record with modem := value },
    Codec.member "power" Codec.text (·.power) fun record value => { record with power := value },
    Codec.member "storage" Codec.text (·.storage)
      fun record value => { record with storage := value },
    Codec.member "telephony" Codec.text (·.telephony)
      fun record value => { record with telephony := value },
    Codec.member "carrier" Label.codec (·.carrier)
      fun record value => { record with carrier := value },
    Codec.member "video_acceleration" (Codec.list Label.codec) (·.videoAcceleration)
      fun record value => { record with videoAcceleration := value }] {}

/-- The members of what is attached to a device. -/
def Peripherals.codec : Codec Peripherals :=
  Codec.record [
    Codec.member "audio_board" Codec.bool (·.audioBoard)
      fun record value => { record with audioBoard := value },
    Codec.member "audio_box" Codec.bool (·.audioBox)
      fun record value => { record with audioBox := value },
    Codec.member "audio_loopback_dongle" Codec.bool (·.audioLoopbackDongle)
      fun record value => { record with audioLoopbackDongle := value },
    Codec.member "camerabox" Codec.bool (·.camerabox)
      fun record value => { record with camerabox := value },
    Codec.member "chameleon" Codec.bool (·.chameleon)
      fun record value => { record with chameleon := value },
    Codec.member "conductive" Codec.bool (·.conductive)
      fun record value => { record with conductive := value },
    Codec.member "huddly" Codec.bool (·.huddly)
      fun record value => { record with huddly := value },
    Codec.member "mimo" Codec.bool (·.mimo) fun record value => { record with mimo := value },
    Codec.member "router_802_11ax" Codec.bool (·.router80211ax)
      fun record value => { record with router80211ax := value },
    Codec.member "servo" Codec.bool (·.servo) fun record value => { record with servo := value },
    Codec.member "smart_usbhub" Codec.bool (·.smartUsbhub)
      fun record value => { record with smartUsbhub := value },
    Codec.member "stylus" Codec.bool (·.stylus)
      fun record value => { record with stylus := value },
    Codec.member "wificell" Codec.bool (·.wificell)
      fun record value => { record with wificell := value },
    Codec.member "servo_type" Codec.text (·.servoType)
      fun record value => { record with servoType := value },
    Codec.member "servo_state" Label.codec (·.servoState)
      fun record value => { record with servoState := value },
    Codec.member "chameleon_type" (Codec.list Label.codec) (·.chameleonType)
      fun record value => { record with chameleonType := value },
    Codec.member "servo_usb_state" Label.codec (·.servoUsbState)
      fun record value => { record with servoUsbState := value },
    Codec.member "storage_state" Label.codec (·.storageState)
      fun record value => { record with storageState := value },
    Codec.member "battery_state" Label.codec (·.batteryState)
      fun record value => { record with batteryState := value },
    Codec.member "wifi_state" Label.codec (·.wifiState)
      fun record value => { record with wifiState := value },
    Codec.member "bluetooth_state" Label.codec (·.bluetoothState)
      fun record value => { record with bluetoothState := value },
    Codec.member "working_bluetooth_btpeer" Codec.word32 (·.workingBluetoothBtpeer)
      fun record value => { record with workingBluetoothBtpeer := value },
    Codec.member "sim_count" Codec.word32 (·.simCount)
      fun record value => { record with simCount := value }] {}

/-- The members of a record. -/
def DeviceRecord.codec : Codec DeviceRecord :=
  Codec.record [
    Codec.member "id" Codec.text (·.id) fun record value => { record with id := value },
    Codec.member "hostname" Codec.text (·.hostname)
      fun record value => { record with hostname := value },
    Codec.member "hwid" Codec.text (·.hwid) fun record value => { record with hwid := value },
    Codec.member "serial_number" Codec.text (·.serialNumber)
      fun record value => { record with serialNumber := value },
    Codec.member "dut_state" Label.codec (·.dutState)
      fun record value => { record with dutState := value },
    Codec.member "board" Codec.text (·.board) fun record value => { record with board := value },
    Codec.member "model" Codec.text (·.model) fun record value => { record with model := value },
    Codec.member "sku" Codec.text (·.sku) fun record value => { record with sku := value },
    Codec.member "device_sku" Codec.text (·.deviceSku)
      fun record value => { record with deviceSku := value },
    Codec.member "brand" Codec.text (·.brand) fun record value => { record with brand := value },
    Codec.member "platform" Codec.text (·.platform)
      fun record value => { record with platform := value },
    Codec.member "reference_design" Codec.text (·.referenceDesign)
      fun record value => { record with referenceDesign := value },
    Codec.member "variant" Codec.text (·.variant)
      fun record value => { record with variant := value },
    Codec.member "wifi_chip" Codec.text (·.wifiChip)
      fun record value => { record with wifiChip := value },
    Codec.member "arc" Codec.bool (·.arc) fun record value => { record with arc := value },
    Codec.member "stable" Codec.bool (·.stable)
      fun record value => { record with stable := value },
    Codec.member "phase" Label.codec (·.phase) fun record value => { record with phase := value },
    Codec.member "os_type" Label.codec (·.osType)
      fun record value => { record with osType := value },
    Codec.member "ec_type" Label.codec (·.ecType)
      fun record value => { record with ecType := value },
    Codec.member "cts_abi" (Codec.list Label.codec) (·.ctsAbi)
      fun record value => { record with ctsAbi := value },
    Codec.member "cts_cpu" (Codec.list Label.codec) (·.ctsCpu)
      fun record value => { record with ctsCpu := value },
    Codec.member "critical_pools" (Codec.list Label.codec) (·.criticalPools)
      fun record value => { record with criticalPools := value },
    Codec.member "self_serve_pools" (Codec.list Codec.text) (·.selfServePools)
      fun record value => { record with selfServePools := value },
    Codec.member "cr50_phase" Label.codec (·.cr50Phase)
      fun record value => { record with cr50Phase := value },
    Codec.member "cr50_ro_keyid" Codec.text (·.cr50RoKeyid)
      fun record value => { record with cr50RoKeyid := value },
    Codec.member "cr50_ro_version" Codec.text (·.cr50RoVersion)
      fun record value => { record with cr50RoVersion := value },
    Codec.member "cr50_rw_keyid" Codec.text (·.cr50RwKeyid)
      fun record value => { record with cr50RwKeyid := value },
    Codec.member "cr50_rw_version" Codec.text (·.cr50RwVersion)
      fun record value => { record with cr50RwVersion := value },
    Codec.member "licenses" (Codec.list Label.codec) (·.licenses)
      fun record value => { record with licenses := value },
    Codec.member "capabilities" Capabilities.codec (·.capabilities)
      fun record value => { record with capabilities := value },
    Codec.member "peripherals" Peripherals.codec (·.peripherals)
      fun record value => { record with peripherals := value },
    Codec.member "attributes" (Codec.table (Codec.list Codec.text)) (·.attributes)
      fun record value => { record with attributes := value }] {}

namespace DeviceRecord

/-- A record as a value. -/
def toValue (record : DeviceRecord) : Value := codec.write record

/-- The failure of bytes that are no record. -/
def undecodable (reason : String) : Error :=
  .decode ("cannot decode device record: " ++ reason)

/-- What is said of bytes whose value does not fit. -/
def misfitReason [Complaint] (bytes : Bytes) : Misfit → String
  | .shape => Complaint.about "value of a device record" bytes
  | .unknownName kind text => "unknown " ++ kind ++ " value " ++ Text.Quoted.quote text

/-- The record that some bytes hold. -/
def parse [Complaint] (bytes : Bytes) : Except Error DeviceRecord :=
  match (Value.parse? bytes).bind Value.canonical? with
  | none => .error (undecodable (Complaint.about "value" bytes))
  | some value =>
    if value.isObject then
      (codec.shape value).mapError fun misfit => undecodable (misfitReason bytes misfit)
    else .error (undecodable "expected a JSON object")

end DeviceRecord

end StableFleet
