import StableFleet.Config.Document
import StableFleet.Machine.Work

/-!
# Finding the configuration

The configuration is that of the file that is named. If none is named, it is that
of a file at a usual place below the directory of settings, and if there is no
such file, the configuration of defaults. A file that is named has to be there.
-/

namespace StableFleet

/-- What a program finds around it: where its user has settings. -/
structure Environment where
  /-- The configuration file that is named for all calls of the program. -/
  configFile : Option String := none
  /-- The directory of settings, if it is not the usual one. -/
  configHome : Option String := none
  /-- The directory of the user. -/
  home : Option String := none
  deriving Repr, DecidableEq, Inhabited

/-- The directory of settings. It can be moved to an absolute path only. -/
def Environment.settings? (environment : Environment) : Option Path :=
  ((environment.configHome.map Path.mk).filter Path.isAbsolute).or <|
    (environment.home.filter fun home => !home.isEmpty).map fun home =>
      (Path.mk home).join ".config"

namespace Config

/-- The failure of a file that cannot be read. -/
def unreadable (path : Path) (reason : String) : Error :=
  .config ("cannot read " ++ path.text ++ ": " ++ reason) none

/-- The configuration of a file. -/
def fromFile (path : Path) : Work Config :=
  ExceptT.mk do
    match ← Machine.call (.readFile path) with
    | .error reason => return .error (unreadable path reason)
    | .ok bytes =>
      match Bytes.text? bytes with
      | none => return .error (unreadable path "stream did not contain valid UTF-8")
      | some text => return parse text

/-- The usual place of the configuration. -/
def usualPlace? (environment : Environment) : Option Path :=
  environment.settings?.map fun settings => (settings.join "labfleet").join "config.yaml"

/-- The configuration of a file that is there, or else that of defaults. -/
def fromUsualPlace (place : Option Path) : Work Config :=
  match place with
  | none => return {}
  | some path => do
    if ← ExceptT.lift (Machine.call (.isFile path)) then fromFile path
    else return {}

/-- The configuration that a program works with. -/
def load (environment : Environment) (named : Option Path) : Work Config :=
  match named with
  | some path => fromFile path
  | none => fromUsualPlace (usualPlace? environment)

end Config

end StableFleet
