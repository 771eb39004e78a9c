import StableFleet.Archive.Bundle
import StableFleet.CommandLine.Grammar

/-!
# Commands

What the program can be told to do, and how it is read from a command line.
Options that every command has may stand before the command as well as after it;
what stands after it counts.
-/

namespace StableFleet.CommandLine

/-- Settings that take the place of configured ones. -/
structure Overrides where
  archiveRoot : Option String := none
  manifestRepo : Option String := none
  manifestBranch : Option String := none
  manifestPath : Option String := none
  deriving Repr, DecidableEq

/-- How a manifest is to be updated. -/
structure UpdateOptions where
  dryRun : Bool
  output : Option Path
  manifest : Option Path
  releaseFeed : Option String
  overrides : Overrides
  deriving Repr, DecidableEq

/-- How a manifest is to be checked. -/
structure ValidateOptions where
  path : Option Path
  revision : Option String
  ignoresAllowLists : Bool
  allowsOsModels : Bool
  overrides : Overrides
  deriving Repr, DecidableEq

/-- How a manifest is to be shown. -/
structure DumpOptions where
  model : Option String
  manifest : Option Path
  overrides : Overrides
  deriving Repr, DecidableEq

/-- Whose dimensions are to be shown, or from which a record is to be made. -/
structure DimensionsOptions where
  records : List Path
  schedulingUnit : Option Path
  reverted : Option Path
  deriving Repr, DecidableEq

/-- Which bundle is to be found. -/
structure LocateOptions where
  query : BundleQuery
  overrides : Overrides
  deriving Repr, DecidableEq

/-- What the program is told to do. -/
inductive Command
  | update (options : UpdateOptions)
  | validate (options : ValidateOptions)
  | dump (options : DumpOptions)
  | dimensions (options : DimensionsOptions)
  | locateFirmware (options : LocateOptions)
  deriving Repr, DecidableEq

/-- A command with what goes for every command. -/
structure Invocation where
  command : Command
  configFile : Option Path
  alwaysExitZero : Bool
  deriving Repr, DecidableEq

/-- The options of every command. -/
def commonRules : List OptionRule :=
  [⟨"log-level", .text⟩, ⟨"config", .path⟩, ⟨"always-exit-zero", .flag⟩]

/-- The options that stand before a command. -/
def leadingRules : List OptionRule := ⟨"version", .flag⟩ :: commonRules

/-- The options for another archive. -/
def archiveRules : List OptionRule := [⟨"archive-root", .text⟩]

/-- The options for another manifest. -/
def manifestRules : List OptionRule :=
  [⟨"manifest-repo", .text⟩, ⟨"manifest-branch", .text⟩, ⟨"manifest-path", .text⟩]

/-- The settings that options take the place of. -/
def overrides (given : Given) : Overrides where
  archiveRoot := given.value? "archive-root"
  manifestRepo := given.value? "manifest-repo"
  manifestBranch := given.value? "manifest-branch"
  manifestPath := given.value? "manifest-path"

/-- The path that an option gives. -/
def path? (given : Given) (name : String) : Option Path := (given.value? name).map Path.mk

/-- Reads a command that updates a manifest. -/
def readUpdate (words : List String) : Except Stop (Given × Command) := do
  let given ← read ([⟨"dry-run", .flag⟩, ⟨"output-json", .path⟩, ⟨"manifest", .path⟩,
    ⟨"release-feed", .text⟩] ++ archiveRules ++ manifestRules ++ commonRules) (some 0) words
  return (given, .update {
    dryRun := given.has "dry-run"
    output := path? given "output-json"
    manifest := path? given "manifest"
    releaseFeed := given.value? "release-feed"
    overrides := overrides given })

/-- The manifest file of a command that checks one. There is either a file or the
repository. -/
def readManifestFile (given : Given) : Except Stop (Option Path) :=
  match given.arguments.head?, given.has "remote" with
  | none, true => .ok none
  | none, false => .error (.misuse (.missing "FILE"))
  | some _, true => .error (.misuse (.conflict "FILE" "--remote"))
  | some word, false => .ok (some ⟨word⟩)

/-- Reads a command that checks a manifest. -/
def readValidate (words : List String) : Except Stop (Given × Command) := do
  let given ← read ([⟨"remote", .flag⟩, ⟨"revision", .text⟩, ⟨"no-allow-list", .flag⟩,
    ⟨"allow-os-models", .flag⟩] ++ archiveRules ++ manifestRules ++ commonRules) (some 1) words
  let path ← readManifestFile given
  return (given, .validate {
    path := path
    revision := given.value? "revision"
    ignoresAllowLists := given.has "no-allow-list"
    allowsOsModels := given.has "allow-os-models"
    overrides := overrides given })

/-- Reads a command that shows a manifest. -/
def readDump (words : List String) : Except Stop (Given × Command) := do
  let given ← read ([⟨"model", .text⟩, ⟨"manifest", .path⟩] ++ manifestRules ++ commonRules)
    (some 0) words
  return (given, .dump {
    model := given.value? "model"
    manifest := path? given "manifest"
    overrides := overrides given })

/-- Refuses what a record made from dimensions does not go with. -/
def refuseWithRevert (given : Given) : Except Stop Unit :=
  if !given.has "revert" then
    if given.arguments.isEmpty then .error (.misuse (.missing "DEVICE")) else .ok ()
  else if given.has "unit" then .error (.misuse (.conflict "--unit" "--revert"))
  else if given.arguments.isEmpty then .ok ()
  else .error (.misuse (.conflict "--revert" "DEVICE"))

/-- Reads a command that shows dimensions. -/
def readDimensions (words : List String) : Except Stop (Given × Command) := do
  let given ← read ([⟨"unit", .path⟩, ⟨"revert", .path⟩] ++ commonRules) none words
  refuseWithRevert given
  return (given, .dimensions {
    records := given.arguments.map Path.mk
    schedulingUnit := path? given "unit"
    reverted := path? given "revert" })

/-- The value of an option that has to be given. -/
def required (given : Given) (name : String) : Except Stop String :=
  match given.value? name with
  | some value => .ok value
  | none => .error (.misuse (.missing ("--" ++ name)))

/-- The number that the value of an option is. -/
def number {α : Type} (read? : String → Option α) (name value : String) : Except Stop α :=
  match read? value with
  | some number => .ok number
  | none => .error (.misuse (.badValue name value))

/-- The name of a bundle that is looked for unless another is given. -/
def usualSuffix : String := "firmware_from_source.tar.bz2"

/-- Reads a command that finds a bundle. -/
def readLocate (words : List String) : Except Stop (Given × Command) := do
  let given ← read ([⟨"board", .text⟩, ⟨"milestone", .word32⟩, ⟨"tip", .word64⟩,
    ⟨"branch", .word64⟩, ⟨"suffix", .text⟩] ++ archiveRules ++ commonRules) (some 0) words
  let board ← required given "board"
  let milestone ← number word32? "milestone" (← required given "milestone")
  let tip ← number word64? "tip" (← required given "tip")
  let branch ← number word64? "branch" ((given.value? "branch").getD "0")
  return (given, .locateFirmware {
    query := ⟨board, milestone, tip, branch, (given.value? "suffix").getD usualSuffix⟩
    overrides := overrides given })

/-- The commands with how they are read. -/
def commands : List (String × (List String → Except Stop (Given × Command))) :=
  [("update", readUpdate), ("validate", readValidate), ("dump", readDump),
    ("dimensions", readDimensions), ("locate-firmware", readLocate)]

/-- The configuration file that is named: behind the command, before it, or for
all calls of the program. The name for all calls is looked at on both sides of
the command, unless one is given there, and is then not empty. -/
def configFile (leading given : Given) (usual : Option String) : Except Stop (Option Path) :=
  if usual = some "" && !(leading.has "config" && given.has "config") then
    .error (.misuse (.noValue "config"))
  else .ok ((((given.value? "config").or (leading.value? "config")).or usual).map Path.mk)

/-- How a call for help goes, which may name a command or help itself. -/
def help (names : List String) : List String → Stop
  | [] => .help
  | [name] => if name = "help" || name ∈ names then .help else .misuse (.unknownCommand name)
  | _ :: name :: _ => .misuse (.unknownCommand name)

/-- Reads the words behind the name of a command. -/
def readCommand (leading : Given) (usual : Option String) (name : String) (words : List String) :
    Except Stop Invocation :=
  match commands.find? fun command => command.1 = name with
  | none =>
    .error <| if name = "help" then help (commands.map (·.1)) words
      else .misuse (.unknownCommand name)
  | some (_, readRest) => do
    let (given, command) ← readRest words
    return {
      command := command
      configFile := ← configFile leading given usual
      alwaysExitZero := leading.has "always-exit-zero" || given.has "always-exit-zero" }

/-- Reads a whole command line. A configuration file may be named for all calls
of the program. -/
def Invocation.read (words : List String) (usual : Option String) : Except Stop Invocation := do
  let (leading, rest) ← readOptions leadingRules {} words
  match rest with
  | [] => throw (.misuse .noCommand)
  | name :: words =>
    if name = "--" then
      throw <| .misuse <| match words with
        | [] => .noCommand
        | word :: _ => .needless word
    else readCommand leading usual name words

end StableFleet.CommandLine
