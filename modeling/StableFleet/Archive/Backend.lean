import StableFleet.Error
import StableFleet.Text.Quoted
import StableFleet.Url.Basic

/-!
# Kinds of archives

Where an archive is kept follows from its root. Object stores are read by a
command, others over a network or from the disk; a root without a scheme is a
directory. An archive may also be supplied by whoever runs the operation.
-/

namespace StableFleet

/-- How an archive is read. -/
inductive Backend
  | objectStore
  | network
  | disk
  | supplied
  deriving Repr, DecidableEq, Inhabited

namespace Backend

/-- The kinds of roots that are understood. -/
def hint : String := "use gs://, http(s)://, file:// or a local directory"

/-- Whether a root names its scheme. -/
def hasScheme (root : String) : Bool :=
  (Text.cutAtRun? "://".toList root.toList).isSome

/-- How the archive at a root is read. -/
def ofRoot (root : String) : Except Error Backend :=
  if hasScheme root then
    match Url.parse root with
    | .error fault => .error (.url fault.message)
    | .ok url =>
      if url.scheme = "gs" then .ok .objectStore
      else if url.scheme = "http" ∨ url.scheme = "https" then .ok .network
      else if url.scheme = "file" then .ok .disk
      else
        .error <| .config
          ("unsupported archive scheme " ++ Text.Quoted.quote url.scheme ++ " in " ++ root) hint
  else .ok .disk

end Backend

/-- The path of a location that may be the address of a file. -/
def localPath (location : String) : Except Error Path :=
  if (Text.after? "file://".toList location.toList).isSome then
    match Url.parse location with
    | .error fault => .error (.url fault.message)
    | .ok url =>
      match url.filePath? with
      | some path => .ok path
      | none => .error (.config ("not a local file URL: " ++ location) none)
  else .ok ⟨location⟩

end StableFleet
