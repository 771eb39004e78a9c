import StableFleet.Device.Record
import StableFleet.Dimensions.Basic
import StableFleet.Text.Cut
import StableFleet.Text.Decimal

/-!
# Projecting records to dimensions

Every part of a record has a key of its own and a form in which it is written as
values; the attributes of a record have the remaining keys. The same table of
fields serves both directions, while the keys that attributes may not have are
listed on their own for labels, pools and numbers. A part that is not set is not
written; values that cannot be read are passed over.
-/

namespace StableFleet

namespace Projection

/-- How a part of a record is written as values, and read from values. -/
structure Form (α : Type) where
  write : α → List String
  read : List String → α

/-- A part of a record under its key. -/
structure Field where
  key : String
  write : DeviceRecord → List String
  read : List String → DeviceRecord → DeviceRecord

/-- A part of a record in some form. -/
def field {α : Type} (key : String) (form : Form α) (get : DeviceRecord → α)
    (set : DeviceRecord → α → DeviceRecord) : Field where
  key := key
  write record := form.write (get record)
  read values record := set record (form.read values)

/-- The value of a flag that is set. -/
def trueText : String := "True"

/-- What the names of the health of parts start with. -/
def hardwareStart : String := "HARDWARE_"

/-- The label of a text, if it names one that is set. -/
def setLabel? {α : Type} [Label α] [DecidableEq α] (text : String) : Option α :=
  (Label.read? text).filter Label.isSet

/-- The numeral of a number as text. -/
def numeral (number : Nat) : String := String.ofList (Text.Decimal.digits number)

/-- The number of a text of digits, with or without a plus before them, if it
fits a word of 32 bits. -/
def count? (text : String) : Option Nat :=
  let digits := match text.toList with
    | '+' :: rest => rest
    | all => all
  if !digits.isEmpty && digits.all Char.isDigit && Text.Decimal.value digits < UInt32.size then
    some (Text.Decimal.value digits)
  else none

/-- The greatest of the numbers that some values have. -/
def greatestCount (values : List String) : Nat :=
  (values.filterMap count?).foldl max 0

namespace Form

/-- A text is its own value; the first value that is not empty is read. -/
def text : Form String where
  write content := if content.isEmpty then [] else [content]
  read values := (values.find? fun value => !value.isEmpty).getD ""

/-- A flag has one value when it is set. -/
def flag : Form Bool where
  write isSet := if isSet then [trueText] else []
  read values := values.contains trueText

/-- The health of a part is written by its name without the common start. -/
def hardware : Form HardwareState where
  write state :=
    if Label.isSet state then
      let name := Label.name state
      [((Text.after? hardwareStart.toList name.toList).map String.ofList).getD name]
    else []
  read values :=
    (values.findSome? fun value => Label.read? (hardwareStart ++ value)).getD Label.unset

/-- Labels are written by their names; labels that are not set are left out. -/
def labels {α : Type} [Label α] [DecidableEq α] : Form (List α) where
  write given := (given.filter Label.isSet).map Label.name
  read values := values.filterMap setLabel?

/-- One label; the first that can be read counts. -/
def label {α : Type} [Label α] [DecidableEq α] : Form α where
  write given := labels.write [given]
  read values := (labels.read values).head?.getD Label.unset

/-- The pools of a device: first those that the lab manages, then the others. -/
def pools : Form (List CriticalPool × List String) where
  write given := labels.write given.1 ++ given.2
  read values := (labels.read values, values.filter fun value =>
    !value.isEmpty && (setLabel? (α := CriticalPool) value).isNone)

/-- A number that is not zero. -/
def count : Form UInt32 where
  write number := if number = 0 then [] else [numeral number.toNat]
  read values := UInt32.ofNat (greatestCount values)

/-- A number as all numbers from one up to it. -/
def upTo : Form UInt32 where
  write number := (List.range number.toNat).map fun before => numeral (before + 1)
  read values := UInt32.ofNat (greatestCount values)

end Form

/-- The texts of a record. -/
def textFields : List Field := [
    field "dut_id" Form.text (·.id) fun record value => { record with id := value },
    field "dut_name" Form.text (·.hostname) fun record value => { record with hostname := value },
    field "hwid" Form.text (·.hwid) fun record value => { record with hwid := value },
    field "serial_number" Form.text (·.serialNumber)
      fun record value => { record with serialNumber := value },
    field "label-board" Form.text (·.board) fun record value => { record with board := value },
    field "label-model" Form.text (·.model) fun record value => { record with model := value },
    field "label-sku" Form.text (·.sku) fun record value => { record with sku := value },
    field "label-device-sku" Form.text (·.deviceSku)
      fun record value => { record with deviceSku := value },
    field "label-brand" Form.text (·.brand) fun record value => { record with brand := value },
    field "label-platform" Form.text (·.platform)
      fun record value => { record with platform := value },
    field "label-reference_design" Form.text (·.referenceDesign)
      fun record value => { record with referenceDesign := value },
    field "label-variant" Form.text (·.variant)
      fun record value => { record with variant := value },
    field "label-wifi_chip" Form.text (·.wifiChip)
      fun record value => { record with wifiChip := value },
    field "label-cr50_ro_keyid" Form.text (·.cr50RoKeyid)
      fun record value => { record with cr50RoKeyid := value },
    field "label-cr50_ro_version" Form.text (·.cr50RoVersion)
      fun record value => { record with cr50RoVersion := value },
    field "label-cr50_rw_keyid" Form.text (·.cr50RwKeyid)
      fun record value => { record with cr50RwKeyid := value },
    field "label-cr50_rw_version" Form.text (·.cr50RwVersion)
      fun record value => { record with cr50RwVersion := value },
    field "label-graphics" Form.text (·.capabilities.graphics)
      fun record value => { record with capabilities.graphics := value },
    field "label-gpu_family" Form.text (·.capabilities.gpuFamily)
      fun record value => { record with capabilities.gpuFamily := value },
    field "label-modem" Form.text (·.capabilities.modem)
      fun record value => { record with capabilities.modem := value },
    field "label-power" Form.text (·.capabilities.power)
      fun record value => { record with capabilities.power := value },
    field "label-storage" Form.text (·.capabilities.storage)
      fun record value => { record with capabilities.storage := value },
    field "label-telephony" Form.text (·.capabilities.telephony)
      fun record value => { record with capabilities.telephony := value },
    field "label-servo_type" Form.text (·.peripherals.servoType)
      fun record value => { record with peripherals.servoType := value }]

/-- The flags of a record. -/
def flagFields : List Field := [
    field "label-arc" Form.flag (·.arc) fun record value => { record with arc := value },
    field "label-device-stable" Form.flag (·.stable)
      fun record value => { record with stable := value },
    field "label-atrus" Form.flag (·.capabilities.atrus)
      fun record value => { record with capabilities.atrus := value },
    field "label-bluetooth" Form.flag (·.capabilities.bluetooth)
      fun record value => { record with capabilities.bluetooth := value },
    field "label-detachablebase" Form.flag (·.capabilities.detachablebase)
      fun record value => { record with capabilities.detachablebase := value },
    field "label-fingerprint" Form.flag (·.capabilities.fingerprint)
      fun record value => { record with capabilities.fingerprint := value },
    field "label-flashrom" Form.flag (·.capabilities.flashrom)
      fun record value => { record with capabilities.flashrom := value },
    field "label-hotwording" Form.flag (·.capabilities.hotwording)
      fun record value => { record with capabilities.hotwording := value },
    field "label-internal_display" Form.flag (·.capabilities.internalDisplay)
      fun record value => { record with capabilities.internalDisplay := value },
    field "label-lucidsleep" Form.flag (·.capabilities.lucidsleep)
      fun record value => { record with capabilities.lucidsleep := value },
    field "label-touchpad" Form.flag (·.capabilities.touchpad)
      fun record value => { record with capabilities.touchpad := value },
    field "label-touchscreen" Form.flag (·.capabilities.touchscreen)
      fun record value => { record with capabilities.touchscreen := value },
    field "label-webcam" Form.flag (·.capabilities.webcam)
      fun record value => { record with capabilities.webcam := value },
    field "label-audio_board" Form.flag (·.peripherals.audioBoard)
      fun record value => { record with peripherals.audioBoard := value },
    field "label-audio_box" Form.flag (·.peripherals.audioBox)
      fun record value => { record with peripherals.audioBox := value },
    field "label-audio_loopback_dongle" Form.flag (·.peripherals.audioLoopbackDongle)
      fun record value => { record with peripherals.audioLoopbackDongle := value },
    field "label-camerabox" Form.flag (·.peripherals.camerabox)
      fun record value => { record with peripherals.camerabox := value },
    field "label-chameleon" Form.flag (·.peripherals.chameleon)
      fun record value => { record with peripherals.chameleon := value },
    field "label-conductive" Form.flag (·.peripherals.conductive)
      fun record value => { record with peripherals.conductive := value },
    field "label-huddly" Form.flag (·.peripherals.huddly)
      fun record value => { record with peripherals.huddly := value },
    field "label-mimo" Form.flag (·.peripherals.mimo)
      fun record value => { record with peripherals.mimo := value },
    field "label-router_802_11ax" Form.flag (·.peripherals.router80211ax)
      fun record value => { record with peripherals.router80211ax := value },
    field "label-servo" Form.flag (·.peripherals.servo)
      fun record value => { record with peripherals.servo := value },
    field "label-smart_usbhub" Form.flag (·.peripherals.smartUsbhub)
      fun record value => { record with peripherals.smartUsbhub := value },
    field "label-stylus" Form.flag (·.peripherals.stylus)
      fun record value => { record with peripherals.stylus := value },
    field "label-wificell" Form.flag (·.peripherals.wificell)
      fun record value => { record with peripherals.wificell := value }]

/-- The health of parts. -/
def hardwareFields : List Field := [
    field "label-servo_usb_state" Form.hardware (·.peripherals.servoUsbState)
      fun record value => { record with peripherals.servoUsbState := value },
    field "label-storage_state" Form.hardware (·.peripherals.storageState)
      fun record value => { record with peripherals.storageState := value },
    field "label-battery_state" Form.hardware (·.peripherals.batteryState)
      fun record value => { record with peripherals.batteryState := value },
    field "label-wifi_state" Form.hardware (·.peripherals.wifiState)
      fun record value => { record with peripherals.wifiState := value },
    field "label-bluetooth_state" Form.hardware (·.peripherals.bluetoothState)
      fun record value => { record with peripherals.bluetoothState := value }]

/-- The labels of a record. -/
def labelFields : List Field := [
    field "dut_state" Form.label (·.dutState) fun record value => { record with dutState := value },
    field "label-phase" Form.label (·.phase) fun record value => { record with phase := value },
    field "label-os_type" Form.label (·.osType) fun record value => { record with osType := value },
    field "label-ec_type" Form.label (·.ecType) fun record value => { record with ecType := value },
    field "label-cr50_phase" Form.label (·.cr50Phase)
      fun record value => { record with cr50Phase := value },
    field "label-carrier" Form.label (·.capabilities.carrier)
      fun record value => { record with capabilities.carrier := value },
    field "label-servo_state" Form.label (·.peripherals.servoState)
      fun record value => { record with peripherals.servoState := value },
    field "label-cts_abi" Form.labels (·.ctsAbi)
      fun record value => { record with ctsAbi := value },
    field "label-cts_cpu" Form.labels (·.ctsCpu)
      fun record value => { record with ctsCpu := value },
    field "label-license" Form.labels (·.licenses)
      fun record value => { record with licenses := value },
    field "label-video_acceleration" Form.labels (·.capabilities.videoAcceleration)
      fun record value => { record with capabilities.videoAcceleration := value },
    field "label-chameleon_type" Form.labels (·.peripherals.chameleonType)
      fun record value => { record with peripherals.chameleonType := value }]

/-- The pools of a record. -/
def poolField : Field :=
  field "label-pool" Form.pools (fun record => (record.criticalPools, record.selfServePools))
    fun record value => { record with criticalPools := value.1, selfServePools := value.2 }

/-- The numbers of a record. -/
def countFields : List Field := [
    field "label-working_bluetooth_btpeer" Form.upTo (·.peripherals.workingBluetoothBtpeer)
      fun record value => { record with peripherals.workingBluetoothBtpeer := value },
    field "label-sim_count" Form.count (·.peripherals.simCount)
      fun record value => { record with peripherals.simCount := value }]

/-- Every part of a record but its attributes. -/
def fields : List Field :=
  textFields ++ flagFields ++ hardwareFields ++ labelFields ++ [poolField] ++ countFields

/-- The keys of the labels, the pools and the numbers of a record. -/
def labelKeys : List String := [
    "dut_state", "label-pool", "label-phase", "label-os_type", "label-ec_type", "label-cts_abi",
    "label-cts_cpu", "label-cr50_phase", "label-license", "label-carrier",
    "label-video_acceleration", "label-chameleon_type", "label-servo_state",
    "label-working_bluetooth_btpeer", "label-sim_count"]

/-- The keys that no attribute may have. -/
def reservedKeys : List String :=
  (textFields ++ flagFields ++ hardwareFields).map (·.key) ++ labelKeys

/-- Whether a key belongs to a part of a record, so that no attribute may have
it. -/
def isReserved (key : String) : Bool := reservedKeys.contains key

/-- The dimensions that are left when every part of a record has been read. -/
def remaining (dimensions : Dimensions) : Dimensions :=
  dimensions.filter fun key _ => !fields.any fun field => field.key == key

end Projection

namespace DeviceRecord

open Projection

/-- The dimensions of a device. -/
def project (record : DeviceRecord) : Dimensions :=
  let attributes := record.attributes.filter fun key _ => !isReserved key
  Dimensions.clean <| Table.ofList <|
    fields.map (fun field => (field.key, field.write record)) ++ attributes.toList

/-- The record that dimensions tell of. What no part of a record is read from
becomes attributes. -/
def ofDimensions (dimensions : Dimensions) : DeviceRecord :=
  fields.foldl (fun record field => field.read ((dimensions.get? field.key).getD []) record)
    { attributes := remaining dimensions }

end DeviceRecord

end StableFleet
