import StableFleet.Flows.Inspection
import StableFleet.Proofs.Update.Assessment

/-!
# The documents that a flow reads

A flow reads the feed, and the manifest that it updates or checks, from documents: from a
file, from an object store, from an address on a network or from a revision of the
repository. What it makes of them is made of bytes that it was answered.
-/

namespace StableFleet

/-- What a request to read a document was answered, if it could be read. -/
def Exchange.document? : Exchange → Option Bytes
  | ⟨.readFile _, .ok bytes⟩ => some bytes
  | ⟨.readObject _, .ok bytes⟩ => some bytes
  | ⟨.readAddress _, .ok bytes⟩ => some bytes
  | ⟨.showFile .., .ok bytes⟩ => some bytes
  | _ => none

/-- The documents that were read in some exchanges, in order. -/
def documents (exchanges : List Exchange) : List Bytes :=
  exchanges.filterMap Exchange.document?

@[simp] theorem documents_append (exchanges later : List Exchange) :
    documents (exchanges ++ later) = documents exchanges ++ documents later :=
  List.filterMap_append

namespace Attempt

variable {α β : Type}

/-- The result of an attempt is that of a document which the attempt has read. -/
def Reads (ofDocument : Bytes → α → Prop) (attempt : Attempt α) : Prop :=
  ∀ ⦃σ : Type⦄ (host : Host σ) (run : Run σ) (result : α),
    (attempt.perform host run).1 = .ok result →
      ∃ bytes ∈ documents (attempt.exchanges host run), ofDocument bytes result

section Reads

variable {ofDocument : Bytes → α → Prop} {ofDocument' : Bytes → β → Prop}

/-- A request that reads a document, whose answer is made into the result. -/
theorem reads_request (request : Request) (convert : request.Answer → Except Error α)
    (made : ∀ answer result, convert answer = .ok result →
      ∃ bytes, Exchange.document? ⟨request, answer⟩ = some bytes ∧ ofDocument bytes result) :
    Reads ofDocument (ExceptT.mk (Flow.ask request >>= fun answer => pure (convert answer))) := by
  intro σ host run result succeeded
  have converted : convert (Run.serve host request run).1 = .ok result := succeeded
  obtain ⟨bytes, read, ofBytes⟩ := made _ _ converted
  have asked : documents [⟨request, (Run.serve host request run).1⟩] = [bytes] := by
    rw [documents, List.filterMap_cons_some read, List.filterMap_nil]
  refine ⟨bytes, ?_, ofBytes⟩
  change bytes ∈ documents [⟨request, (Run.serve host request run).1⟩]
  rw [asked]
  exact List.mem_singleton_self bytes

/-- One attempt after another reads the document that the second reads. -/
theorem reads_bind_right {attempt : Attempt α} {after : α → Attempt β}
    (second : ∀ first, Reads ofDocument' (after first)) :
    Reads ofDocument' (attempt >>= after) := by
  intro σ host run result succeeded
  rcases bind_cases host attempt after run with
    ⟨_, _, performed, _⟩ | ⟨first, _, performed, exchanged⟩
  · rw [performed] at succeeded
    cases succeeded
  · rw [performed] at succeeded
    obtain ⟨bytes, read, ofBytes⟩ := second first host _ result succeeded
    rw [exchanged, documents_append]
    exact ⟨bytes, List.mem_append_right _ read, ofBytes⟩

/-- One attempt after another reads the document that the first reads, when the second makes its
result of what the first has found. -/
theorem reads_bind_left {attempt : Attempt α} {after : α → Attempt β}
    (first : Reads ofDocument attempt)
    (goesOn : ∀ {σ : Type} {host : Host σ} {run : Run σ} {bytes found result},
      ofDocument bytes found → ((after found).perform host run).1 = .ok result →
        ofDocument' bytes result) :
    Reads ofDocument' (attempt >>= after) := by
  intro σ host run result succeeded
  rcases bind_cases host attempt after run with
    ⟨_, _, performed, _⟩ | ⟨found, got, performed, exchanged⟩
  · rw [performed] at succeeded
    cases succeeded
  · rw [performed] at succeeded
    obtain ⟨bytes, read, ofBytes⟩ := first host run found got
    rw [exchanged, documents_append]
    exact ⟨bytes, List.mem_append_left _ read, goesOn ofBytes succeeded⟩

theorem reads_readFile (path : Path) : Reads (· = ·) (readFile path) := by
  refine reads_request (.readFile path) _ ?_
  rintro (_ | _) _ ⟨⟩
  exact ⟨_, rfl, rfl⟩

end Reads

end Attempt

/-- A feed is read from the document that was fetched. -/
theorem Feed.reads_fetch (location : String) : Attempt.Reads (· = ·) (fetch location) := by
  refine Attempt.reads_bind_right fun _ => ?_
  split
  · refine Attempt.reads_request (.readAddress location) id ?_
    rintro (_ | _) _ ⟨⟩
    exact ⟨_, rfl, rfl⟩
  · split
    · refine Attempt.reads_request (.readObject location) id ?_
      rintro (_ | _) _ ⟨⟩
      exact ⟨_, rfl, rfl⟩
    · exact Attempt.reads_bind_right fun path => Attempt.reads_readFile path

/-- A manifest of the repository is read from the document that was shown. -/
theorem Repository.reads_readManifest (repository : Repository) (checkout : Path)
    (revision : Option String) :
    Attempt.Reads (· = ·) (repository.readManifest checkout revision) := by
  refine Attempt.reads_bind_right fun _ => Attempt.reads_bind_right fun name => ?_
  refine Attempt.reads_request (.showFile checkout name repository.manifestPath) id ?_
  rintro (_ | _) _ ⟨⟩
  exact ⟨_, rfl, rfl⟩

namespace Lab

variable (lab : Lab) (source : ManifestSource) (workdir : Path)

theorem reads_readRepository (revision : Option String) :
    Attempt.Reads (fun bytes found => bytes = found.1) (lab.readRepository revision workdir) := by
  refine Attempt.reads_bind_right fun repository => Attempt.reads_bind_right fun checkout => ?_
  refine Attempt.reads_bind_left (repository.reads_readManifest checkout revision) ?_
  rintro σ host run bytes _ _ rfl ⟨⟩
  rfl

/-- The current manifest is read from a document. -/
theorem reads_readCurrent :
    Attempt.Reads (fun bytes found => bytes = found.1) (lab.readCurrent source workdir) := by
  cases source with
  | file path =>
    refine Attempt.reads_bind_left (Attempt.reads_readFile path) ?_
    rintro σ host run bytes _ _ rfl ⟨⟩
    rfl
  | repository revision =>
    refine Attempt.reads_bind_left (lab.reads_readRepository workdir revision) ?_
    rintro σ host run bytes ⟨_, repository, checkout⟩ _ rfl ⟨⟩
    rfl

/-- The manifest that is checked is read from a document that is accepted by itself. -/
theorem reads_inspect : Attempt.Reads
    (fun bytes manifest => Shallow.inspectBuffer lab.config.strictOsModels bytes = .ok manifest)
    (lab.inspect source workdir) := by
  cases source with
  | file path =>
    intro σ host run manifest succeeded
    have ran : (lab.inspect (.file path) workdir).perform host run = _ :=
      Flow.run_bind host (Flow.ask (.readFile path)) _ run
    have exchanged : (lab.inspect (.file path) workdir).exchanges host run = _ :=
      Flow.exchanges_bind host (Flow.ask (.readFile path)) _ run
    rw [ran, Flow.run_ask] at succeeded
    rw [exchanged, Flow.exchanges_ask, documents_append]
    cases answered : (Run.serve host (.readFile path) run).1 with
    | error reason =>
      rw [answered] at succeeded
      cases succeeded
    | ok bytes =>
      rw [answered] at succeeded
      exact ⟨bytes, List.mem_cons_self, succeeded⟩
  | repository revision =>
    refine Attempt.reads_bind_left (lab.reads_readRepository workdir revision) ?_
    rintro σ host run bytes ⟨_, repository, checkout⟩ _ rfl succeeded
    exact succeeded

/-- Reading the manifest that is checked only consults. -/
theorem obeys_inspect : Attempt.Obeys (·.consults = true) (lab.inspect source workdir) := by
  cases source with
  | file path =>
    refine Attempt.obeys_request (by rfl) (fun _ => rfl) fun answer => ?_
    cases answer <;> exact ⟨_, rfl⟩
  | repository revision =>
    exact Attempt.obeys_bind (lab.obeys_readRepository revision workdir) fun _ =>
      Attempt.obeys_ofExcept _

end Lab

end StableFleet
