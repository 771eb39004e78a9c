import StableFleet.Device.Label

/-!
# The labels of a device

What an inventory record says about a device in words of its own: each kind of
label with its values and their names. The first value of a kind means that the
label is not set.
-/

namespace StableFleet

/-- How far the build of a device has come. -/
inductive Phase
  | invalid
  | evt
  | evt2
  | dvt
  | dvt2
  | pvt
  | pvt2
  | pvt3
  | mp
  deriving Repr, DecidableEq, Inhabited

instance : Label Phase where
  kind := "Phase"
  unset := .invalid
  others := [.evt, .evt2, .dvt, .dvt2, .pvt, .pvt2, .pvt3, .mp]
  name
    | .invalid => "PHASE_INVALID"
    | .evt => "PHASE_EVT"
    | .evt2 => "PHASE_EVT2"
    | .dvt => "PHASE_DVT"
    | .dvt2 => "PHASE_DVT2"
    | .pvt => "PHASE_PVT"
    | .pvt2 => "PHASE_PVT2"
    | .pvt3 => "PHASE_PVT3"
    | .mp => "PHASE_MP"
  complete label := by cases label <;> simp
  distinct := by simp

/-- The operating system of a device. -/
inductive OsType
  | invalid
  | android
  | cros
  | jetstream
  | moblab
  | labstation
  deriving Repr, DecidableEq, Inhabited

instance : Label OsType where
  kind := "OsType"
  unset := .invalid
  others := [.android, .cros, .jetstream, .moblab, .labstation]
  name
    | .invalid => "OS_TYPE_INVALID"
    | .android => "OS_TYPE_ANDROID"
    | .cros => "OS_TYPE_CROS"
    | .jetstream => "OS_TYPE_JETSTREAM"
    | .moblab => "OS_TYPE_MOBLAB"
    | .labstation => "OS_TYPE_LABSTATION"
  complete label := by cases label <;> simp
  distinct := by simp

/-- The embedded controller of a device. -/
inductive EcType
  | invalid
  | chromeOs
  deriving Repr, DecidableEq, Inhabited

instance : Label EcType where
  kind := "EcType"
  unset := .invalid
  others := [.chromeOs]
  name
    | .invalid => "EC_TYPE_INVALID"
    | .chromeOs => "EC_TYPE_CHROME_OS"
  complete label := by cases label <;> simp
  distinct := by simp

/-- A binary interface that compatibility tests run with. -/
inductive CtsAbi
  | invalid
  | arm
  | x86
  deriving Repr, DecidableEq, Inhabited

instance : Label CtsAbi where
  kind := "CtsAbi"
  unset := .invalid
  others := [.arm, .x86]
  name
    | .invalid => "CTS_ABI_INVALID"
    | .arm => "CTS_ABI_ARM"
    | .x86 => "CTS_ABI_X86"
  complete label := by cases label <;> simp
  distinct := by simp

/-- A processor that compatibility tests run on. -/
inductive CtsCpu
  | invalid
  | arm
  | x86
  deriving Repr, DecidableEq, Inhabited

instance : Label CtsCpu where
  kind := "CtsCpu"
  unset := .invalid
  others := [.arm, .x86]
  name
    | .invalid => "CTS_CPU_INVALID"
    | .arm => "CTS_CPU_ARM"
    | .x86 => "CTS_CPU_X86"
  complete label := by cases label <;> simp
  distinct := by simp

/-- A pool that the lab manages itself. -/
inductive CriticalPool
  | invalid
  | cq
  | bvt
  | suites
  | cts
  | ctsPerbuild
  | continuous
  | arcPresubmit
  | quota
  deriving Repr, DecidableEq, Inhabited

instance : Label CriticalPool where
  kind := "CriticalPool"
  unset := .invalid
  others := [.cq, .bvt, .suites, .cts, .ctsPerbuild, .continuous, .arcPresubmit, .quota]
  name
    | .invalid => "DUT_POOL_INVALID"
    | .cq => "DUT_POOL_CQ"
    | .bvt => "DUT_POOL_BVT"
    | .suites => "DUT_POOL_SUITES"
    | .cts => "DUT_POOL_CTS"
    | .ctsPerbuild => "DUT_POOL_CTS_PERBUILD"
    | .continuous => "DUT_POOL_CONTINUOUS"
    | .arcPresubmit => "DUT_POOL_ARC_PRESUBMIT"
    | .quota => "DUT_POOL_QUOTA"
  complete label := by cases label <;> simp
  distinct := by simp

/-- How far the build of the security chip has come. -/
inductive Cr50Phase
  | invalid
  | prePvt
  | pvt
  deriving Repr, DecidableEq, Inhabited

instance : Label Cr50Phase where
  kind := "Cr50Phase"
  unset := .invalid
  others := [.prePvt, .pvt]
  name
    | .invalid => "CR50_PHASE_INVALID"
    | .prePvt => "CR50_PHASE_PREPVT"
    | .pvt => "CR50_PHASE_PVT"
  complete label := by cases label <;> simp
  distinct := by simp

/-- A licence that a device holds. -/
inductive LicenseType
  | unspecified
  | windows10Pro
  | msOfficeStandard
  deriving Repr, DecidableEq, Inhabited

instance : Label LicenseType where
  kind := "LicenseType"
  unset := .unspecified
  others := [.windows10Pro, .msOfficeStandard]
  name
    | .unspecified => "LICENSE_TYPE_UNSPECIFIED"
    | .windows10Pro => "LICENSE_TYPE_WINDOWS_10_PRO"
    | .msOfficeStandard => "LICENSE_TYPE_MS_OFFICE_STANDARD"
  complete label := by cases label <;> simp
  distinct := by simp

/-- The carrier of the modem of a device. -/
inductive Carrier
  | invalid
  | att
  | tmobile
  | verizon
  | sprint
  | testEsim
  | esim
  | multiSim
  | roamSim
  deriving Repr, DecidableEq, Inhabited

instance : Label Carrier where
  kind := "Carrier"
  unset := .invalid
  others := [.att, .tmobile, .verizon, .sprint, .testEsim, .esim, .multiSim, .roamSim]
  name
    | .invalid => "CARRIER_INVALID"
    | .att => "CARRIER_ATT"
    | .tmobile => "CARRIER_TMOBILE"
    | .verizon => "CARRIER_VERIZON"
    | .sprint => "CARRIER_SPRINT"
    | .testEsim => "CARRIER_TESTESIM"
    | .esim => "CARRIER_ESIM"
    | .multiSim => "CARRIER_MULTISIM"
    | .roamSim => "CARRIER_ROAMSIM"
  complete label := by cases label <;> simp
  distinct := by simp

/-- A codec that the hardware of a device speeds up. -/
inductive VideoAcceleration
  | invalid
  | h264
  | encH264
  | vp8
  | encVp8
  | vp9
  | encVp9
  | vp9v2
  | encVp9v2
  | h265
  | encH265
  | mjpg
  | encMjpg
  deriving Repr, DecidableEq, Inhabited

instance : Label VideoAcceleration where
  kind := "VideoAcceleration"
  unset := .invalid
  others := [.h264, .encH264, .vp8, .encVp8, .vp9, .encVp9, .vp9v2, .encVp9v2, .h265, .encH265,
    .mjpg, .encMjpg]
  name
    | .invalid => "VIDEO_ACCELERATION_INVALID"
    | .h264 => "VIDEO_ACCELERATION_H264"
    | .encH264 => "VIDEO_ACCELERATION_ENC_H264"
    | .vp8 => "VIDEO_ACCELERATION_VP8"
    | .encVp8 => "VIDEO_ACCELERATION_ENC_VP8"
    | .vp9 => "VIDEO_ACCELERATION_VP9"
    | .encVp9 => "VIDEO_ACCELERATION_ENC_VP9"
    | .vp9v2 => "VIDEO_ACCELERATION_VP9_2"
    | .encVp9v2 => "VIDEO_ACCELERATION_ENC_VP9_2"
    | .h265 => "VIDEO_ACCELERATION_H265"
    | .encH265 => "VIDEO_ACCELERATION_ENC_H265"
    | .mjpg => "VIDEO_ACCELERATION_MJPG"
    | .encMjpg => "VIDEO_ACCELERATION_ENC_MJPG"
  complete label := by cases label <;> simp
  distinct := by simp

/-- A kind of display emulator. -/
inductive ChameleonType
  | invalid
  | btHid
  | dp
  | dpHdmi
  | vga
  | hdmi
  | btBleHid
  | btA2dpSink
  | btPeer
  deriving Repr, DecidableEq, Inhabited

instance : Label ChameleonType where
  kind := "ChameleonType"
  unset := .invalid
  others := [.btHid, .dp, .dpHdmi, .vga, .hdmi, .btBleHid, .btA2dpSink, .btPeer]
  name
    | .invalid => "CHAMELEON_TYPE_INVALID"
    | .btHid => "CHAMELEON_TYPE_BT_HID"
    | .dp => "CHAMELEON_TYPE_DP"
    | .dpHdmi => "CHAMELEON_TYPE_DP_HDMI"
    | .vga => "CHAMELEON_TYPE_VGA"
    | .hdmi => "CHAMELEON_TYPE_HDMI"
    | .btBleHid => "CHAMELEON_TYPE_BT_BLE_HID"
    | .btA2dpSink => "CHAMELEON_TYPE_BT_A2DP_SINK"
    | .btPeer => "CHAMELEON_TYPE_BT_PEER"
  complete label := by cases label <;> simp
  distinct := by simp

/-- The state of the debug board of a device. -/
inductive PeripheralState
  | unknown
  | working
  | missingConfig
  | wrongConfig
  | notConnected
  | noSsh
  | broken
  | needReplacement
  deriving Repr, DecidableEq, Inhabited

instance : Label PeripheralState where
  kind := "PeripheralState"
  unset := .unknown
  others := [.working, .missingConfig, .wrongConfig, .notConnected, .noSsh, .broken,
    .needReplacement]
  name
    | .unknown => "UNKNOWN"
    | .working => "WORKING"
    | .missingConfig => "MISSING_CONFIG"
    | .wrongConfig => "WRONG_CONFIG"
    | .notConnected => "NOT_CONNECTED"
    | .noSsh => "NO_SSH"
    | .broken => "BROKEN"
    | .needReplacement => "NEED_REPLACEMENT"
  complete label := by cases label <;> simp
  distinct := by simp

/-- The health of a part of a device. -/
inductive HardwareState
  | unknown
  | normal
  | acceptable
  | needReplacement
  | notDetected
  deriving Repr, DecidableEq, Inhabited

instance : Label HardwareState where
  kind := "HardwareState"
  unset := .unknown
  others := [.normal, .acceptable, .needReplacement, .notDetected]
  name
    | .unknown => "HARDWARE_UNKNOWN"
    | .normal => "HARDWARE_NORMAL"
    | .acceptable => "HARDWARE_ACCEPTABLE"
    | .needReplacement => "HARDWARE_NEED_REPLACEMENT"
    | .notDetected => "HARDWARE_NOT_DETECTED"
  complete label := by cases label <;> simp
  distinct := by simp

end StableFleet
