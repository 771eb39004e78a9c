import StableFleet.Device.Labels
import StableFleet.Device.State
import StableFleet.Table

/-!
# Inventory records

What the inventory knows of one device: what it is, what it can do, and what is
attached to it in the lab. Whatever is not known has its unset value.
-/

namespace StableFleet

/-- What a device can do by itself. -/
structure Capabilities where
  atrus : Bool := false
  bluetooth : Bool := false
  detachablebase : Bool := false
  fingerprint : Bool := false
  flashrom : Bool := false
  hotwording : Bool := false
  internalDisplay : Bool := false
  lucidsleep : Bool := false
  touchpad : Bool := false
  touchscreen : Bool := false
  webcam : Bool := false
  graphics : String := ""
  gpuFamily : String := ""
  modem : String := ""
  power : String := ""
  storage : String := ""
  telephony : String := ""
  carrier : Carrier := Label.unset
  videoAcceleration : List VideoAcceleration := []
  deriving Repr, DecidableEq, Inhabited

/-- What is attached to a device in the lab. -/
structure Peripherals where
  audioBoard : Bool := false
  audioBox : Bool := false
  audioLoopbackDongle : Bool := false
  camerabox : Bool := false
  chameleon : Bool := false
  conductive : Bool := false
  huddly : Bool := false
  mimo : Bool := false
  router80211ax : Bool := false
  servo : Bool := false
  smartUsbhub : Bool := false
  stylus : Bool := false
  wificell : Bool := false
  servoType : String := ""
  servoState : PeripheralState := Label.unset
  chameleonType : List ChameleonType := []
  servoUsbState : HardwareState := Label.unset
  storageState : HardwareState := Label.unset
  batteryState : HardwareState := Label.unset
  wifiState : HardwareState := Label.unset
  bluetoothState : HardwareState := Label.unset
  workingBluetoothBtpeer : UInt32 := 0
  simCount : UInt32 := 0
  deriving Repr, DecidableEq, Inhabited

/-- What the inventory knows of a device. The attributes are dimensions of its
own that are carried along unchanged. -/
structure DeviceRecord where
  id : String := ""
  hostname : String := ""
  hwid : String := ""
  serialNumber : String := ""
  dutState : DutState := Label.unset
  board : String := ""
  model : String := ""
  sku : String := ""
  deviceSku : String := ""
  brand : String := ""
  platform : String := ""
  referenceDesign : String := ""
  variant : String := ""
  wifiChip : String := ""
  arc : Bool := false
  stable : Bool := false
  phase : Phase := Label.unset
  osType : OsType := Label.unset
  ecType : EcType := Label.unset
  ctsAbi : List CtsAbi := []
  ctsCpu : List CtsCpu := []
  criticalPools : List CriticalPool := []
  selfServePools : List String := []
  cr50Phase : Cr50Phase := Label.unset
  cr50RoKeyid : String := ""
  cr50RoVersion : String := ""
  cr50RwKeyid : String := ""
  cr50RwVersion : String := ""
  licenses : List LicenseType := []
  capabilities : Capabilities := {}
  peripherals : Peripherals := {}
  attributes : Table (List String) := Table.empty
  deriving DecidableEq, Inhabited

end StableFleet
