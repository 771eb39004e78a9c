import StableFleet.Machine.Work
import StableFleet.Text.Blank
import StableFleet.Text.Cut

/-!
# Checkouts under version control

Checkouts are made and used by the command `git`, with no more history than is
needed. Where the command was refused access, the report says what may help.
-/

namespace StableFleet.VersionControl

/-- The name of the command. -/
def command : String := "git"

/-- Whether a text stands in another. -/
def mentions (text part : String) : Bool := (Text.cutAtRun? part.toList text.toList).isSome

/-- Whether a command says that it was refused access. -/
def isRefusal (said : String) : Bool :=
  ["Authentication failed", "Permission denied", "Could not read from remote repository"].any
    (mentions said)

/-- What is reported of what a command said. -/
def explain (said : String) : String :=
  if isRefusal said then
    "Authentication failed. Make sure you have access to the repository.\n" ++
      "Ensure you have:\n- SSH key added to ssh-agent\n- Git credentials configured\nError: " ++ said
  else Text.Blank.trim said

/-- The failure of a command. -/
def failed (line address said : String) : Error := .gitCommand line address (explain said)

/-- Runs the command and gives its output. -/
def run (arguments : List String) (line address : String) : Work Bytes := do
  let output ← Work.runCommand (command :: arguments) (failed line address)
  if output.succeeded then return output.stdout
  else throw (failed line address (Bytes.replaceInvalid output.stderr))

/-- Runs the command in a checkout. -/
def runIn (checkout : Path) (arguments : List String) : Work Bytes :=
  run (["-C", checkout.text] ++ arguments) (" ".intercalate arguments) checkout.text

/-- Removes what is left of an earlier checkout. -/
def clear (checkout : Path) : Work Unit := do
  if ← ExceptT.lift (Machine.call (.pathExists checkout)) then
    Work.onFiles (Machine.call (.removeTree checkout))

/-- Makes a checkout of one branch, in place of what is there. -/
def clone (address branch : String) (checkout : Path) : Work Unit := do
  clear checkout
  Work.makeParent checkout
  let _ ← run ["clone", "--depth=1", "--branch", branch, address, checkout.text] "clone" address

/-- Brings one revision into a checkout. -/
def fetch (checkout : Path) (revision : String) : Work Unit := do
  let _ ← runIn checkout ["fetch", "--depth=1", "origin", revision]

/-- Reads a file of a revision. -/
def showFile (checkout : Path) (revision path : String) : Work Bytes :=
  runIn checkout ["show", revision ++ ":" ++ path]

/-- Commits one file. -/
def commit (checkout : Path) (path message : String) : Work Unit := do
  let _ ← runIn checkout ["add", "--", path]
  let _ ← runIn checkout ["commit", "--quiet", "-m", message]

/-- Pushes what was committed. -/
def push (checkout : Path) (target : String) : Work Unit := do
  let _ ← runIn checkout ["push", "origin", "HEAD:" ++ target]

end StableFleet.VersionControl
