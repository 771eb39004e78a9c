import StableFleet.Proofs.Flow.Exchange

/-!
# Surroundings with what is on a shelf

The simplest surroundings have some files and some objects and nothing else. They
do whatever they are asked without keeping anything, and never tell an operation
to stop. Statements about runs are shown to speak of something with runs in such
surroundings.
-/

namespace StableFleet

/-- Files by their paths, and objects of archives and stores by where they are. -/
structure Shelf where
  files : List (Path × Bytes) := []
  objects : List (String × Bytes) := []

namespace Shelf

/-- The object at a place. -/
def object (shelf : Shelf) (remote : String) : Except Error Bytes :=
  match shelf.objects.lookup remote with
  | some contents => .ok contents
  | none => .error (.notFound remote)

/-- The file at a path. -/
def file (shelf : Shelf) (path : Path) : Except String Bytes :=
  match shelf.files.lookup path with
  | some contents => .ok contents
  | none => .error "no such file"

/-- The answer to a request. -/
def answer (shelf : Shelf) : (request : Request) → request.Answer
  | .stopped => false
  | .download _ remote _ => shelf.object remote
  | .probe _ remote => .ok (shelf.objects.lookup remote).isSome
  | .readObject remote => shelf.object remote
  | .readAddress address => shelf.object address
  | .clone .. => .ok ()
  | .fetch .. => .ok ()
  | .showFile _ _ path => (shelf.file ⟨path⟩).mapError Error.file
  | .commit .. => .ok ()
  | .push .. => .ok ()
  | .makeScratch => .ok ⟨"/scratch"⟩
  | .dropScratch _ => ()
  | .readFile path => shelf.file path
  | .writeFile .. => .ok ()
  | .makeDirectories _ => .ok ()

/-- The host that answers from a shelf. -/
def host (shelf : Shelf) : Host Unit := ⟨fun request _ => ⟨shelf.answer request, false, ()⟩⟩

/-- The bytes of a build record that names one model of a board. -/
def record (board model firmware : String) : Bytes :=
  Bytes.ofText ("\x7b\"unibuild\":true,\"board-metadata\":\x7b\"" ++ board ++
    "\":\x7b\"models\":\x7b\"" ++ model ++ "\":\x7b\"main-readwrite-firmware-version\":\"" ++
    firmware ++ "\"\x7d\x7d\x7d\x7d\x7d")

/-- A run that was not told to stop has the answers of the shelf. -/
theorem answered {α : Type} (shelf : Shelf) (flow : Flow α) {run : Run Unit}
    (untold : run.stopped = false) :
    ∀ exchange ∈ Flow.exchanges shelf.host flow run,
      exchange.answer = shelf.answer exchange.request := by
  induction flow generalizing run with
  | done result => exact List.forall_mem_nil _
  | ask request next inductionHypothesis =>
    refine List.forall_mem_cons.mpr ⟨?_, inductionHypothesis _ ?_⟩
    · cases request with
      | stopped => exact untold
      | _ => rfl
    · cases request <;> simp [Run.serve, host, untold]

end Shelf

/-- An attempt succeeds with what it is known to give. -/
theorem eq_ok_of_toOption {ε α : Type} {attempt : Except ε α} {result : α}
    (given : attempt.toOption = some result) : attempt = .ok result := by
  cases attempt with
  | error failure => cases given
  | ok found => exact congrArg _ (Option.some.inj given)

/-- An attempt that gives nothing does not succeed. -/
theorem ne_ok_of_toOption {ε α : Type} {attempt : Except ε α} (refused : attempt.toOption = none)
    (result : α) : attempt ≠ .ok result := by
  rintro rfl
  cases refused

end StableFleet
