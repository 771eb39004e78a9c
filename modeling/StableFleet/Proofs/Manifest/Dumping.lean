import StableFleet.Flows.Inspection
import StableFleet.Proofs.Flow.Shelf
import StableFleet.Proofs.Manifest.Codec

/-!
# Dumping a manifest

What is dumped depends on the bytes of the current manifest alone, wherever they come from:
it is the canonical form of what they hold, or of the entries about one model. The canonical
order leaves the entries about a model as they follow each other, so they may be picked out
before or after it. Dumping what was dumped changes nothing.
-/

namespace StableFleet

namespace Manifest

/-- A manifest, or its entries about one model. -/
def about (manifest : Manifest) : Option String → Manifest
  | some model => manifest.filterModel model
  | none => manifest

/-- Picking out the entries about a model keeps their canonical order. -/
theorem filterModel_sort (manifest : Manifest) (model : String) :
    manifest.sort.filterModel model = (manifest.filterModel model).sort := by
  simp only [sort, filterModel, mapSections, filter_sortEntries]

/-- Picking out the entries about a model a second time changes nothing. -/
theorem filterModel_filterModel (manifest : Manifest) (model : String) :
    (manifest.filterModel model).filterModel model = manifest.filterModel model := by
  simp only [filterModel, mapSections, List.filter_filter, Bool.and_self]

/-- What some bytes are dumped as, if they hold a manifest. -/
def dumped (bytes : Bytes) (model : Option String) : Except Error Bytes :=
  (decode bytes).map fun manifest => (manifest.about model).encode

/-- The canonical form of a manifest is dumped as that of the entries asked for. -/
theorem dumped_encode (manifest : Manifest) (model : Option String) :
    dumped manifest.encode model = .ok (manifest.about model).encode := by
  rw [dumped, decode_encode]
  cases model with
  | none => exact congrArg Except.ok manifest.encode_sort
  | some model =>
    change Except.ok (manifest.sort.filterModel model).encode = .ok (manifest.filterModel model).encode
    rw [filterModel_sort, encode_sort]

end Manifest

namespace Lab

variable {σ : Type}

/-- At the start of a flow a source gives some bytes: a scratch directory can be made, and the
source can then be read. -/
def Gives (lab : Lab) (source : ManifestSource) (host : Host σ) (run : Run σ) (bytes : Bytes) :
    Prop :=
  ∃ workdir, (Run.serve host .makeScratch run).1 = .ok workdir ∧
    ((lab.readSource source workdir).perform host (Run.serve host .makeScratch run).2).1 = .ok bytes

/-- A dump reads its source, decodes what it has read, and writes the entries asked for. -/
theorem dump_eq (lab : Lab) (source : ManifestSource) (model : Option String) :
    lab.dump source model = Attempt.withScratch fun workdir =>
      lab.readSource source workdir >>= fun bytes =>
        Attempt.ofExcept (Manifest.decode bytes) >>= fun current =>
          pure (current.about model).encode := by
  cases model <;> rfl

/-- A dump comes to what the bytes of its source are dumped as. -/
theorem perform_dump {lab : Lab} {source : ManifestSource} {host : Host σ} {run : Run σ}
    {bytes : Bytes} (given : lab.Gives source host run bytes) (model : Option String) :
    ((lab.dump source model).perform host run).1 = Manifest.dumped bytes model := by
  obtain ⟨workdir, made, read⟩ := given
  rw [dump_eq]
  rcases Attempt.withScratch_cases host _ run with
    ⟨reason, failed, _⟩ | ⟨directory, made', performed, _⟩
  · cases failed.symm.trans made
  · obtain rfl : directory = workdir := Except.ok.inj (made'.symm.trans made)
    rw [performed, Attempt.perform_bind_of_ok (Prod.ext read rfl), Manifest.dumped]
    cases Manifest.decode bytes <;> rfl

/-- From whatever source some bytes come, they are dumped as others. -/
def Dumps (bytes : Bytes) (model : Option String) (dumped : Bytes) : Prop :=
  ∀ ⦃σ : Type⦄ (lab : Lab) (source : ManifestSource) (host : Host σ) (run : Run σ),
    lab.Gives source host run bytes → ((lab.dump source model).perform host run).1 = .ok dumped

/-- A file on a shelf gives its bytes. -/
theorem gives_on_shelf (lab : Lab) (path : Path) (bytes : Bytes) :
    lab.Gives (.file path) (Shelf.host { files := [(path, bytes)] }) (Run.start ()) bytes := by
  refine ⟨⟨"/scratch"⟩, rfl, ?_⟩
  have found : Shelf.file { files := [(path, bytes)] } path = .ok bytes := by
    simp [Shelf.file]
  exact congrArg (Except.mapError Error.file) found

/-- Bytes are dumped as others exactly when they hold a manifest that has those others as its
canonical form, or as that of its entries about the model. -/
theorem dumps_iff {bytes dumped : Bytes} {model : Option String} :
    Dumps bytes model dumped ↔ Manifest.dumped bytes model = .ok dumped := by
  constructor
  · intro dumps
    have given := gives_on_shelf {} ⟨"manifest.json"⟩ bytes
    exact (perform_dump given model).symm.trans (dumps _ _ _ _ given)
  · intro held σ lab source host run given
    exact (perform_dump given model).trans held

/-- Bytes that hold a manifest are dumped as one sequence of bytes for all of its entries, and
as one for those about a model. The second holds the entries about the model of what the first
holds, in the same order. Both are dumped as themselves, the second with or without the
model. -/
theorem dump_filterModel {bytes : Bytes} {manifest : Manifest}
    (held : Manifest.decode bytes = .ok manifest) (model : String) :
    ∃ whole part current,
      (∀ dumped, Dumps bytes none dumped ↔ dumped = whole) ∧
      (∀ dumped, Dumps bytes (some model) dumped ↔ dumped = part) ∧
      Manifest.decode whole = .ok current ∧
      Manifest.decode part = .ok (current.filterModel model) ∧
      Dumps whole none whole ∧ Dumps part none part ∧ Dumps part (some model) part := by
  have dumps (asked : Option String) (dumped : Bytes) :
      Dumps bytes asked dumped ↔ dumped = (manifest.about asked).encode := by
    rw [dumps_iff, Manifest.dumped, held]
    constructor
    · intro same
      exact (Except.ok.inj same).symm
    · rintro rfl
      rfl
  have again (current : Manifest) (asked : Option String)
      (same : current.about asked = current) : Dumps current.encode asked current.encode := by
    rw [dumps_iff, Manifest.dumped_encode, same]
  refine ⟨manifest.encode, (manifest.filterModel model).encode, manifest.sort, dumps none,
    dumps (some model), manifest.decode_encode, ?_, again _ none rfl, again _ none rfl,
    again _ (some model) (manifest.filterModel_filterModel model)⟩
  rw [Manifest.decode_encode, Manifest.filterModel_sort]

/-- A document that names a model of two boards, the boards not in canonical order. -/
def unsorted : Bytes := Bytes.ofText <|
  "\x7b\"cros\":[\x7b\"key\":\x7b\"buildTarget\":\x7b\"name\":\"nami\"\x7d," ++
  "\"modelId\":\x7b\"value\":\"sona\"\x7d\x7d,\"version\":\"R80-12739.1.0\"\x7d," ++
  "\x7b\"key\":\x7b\"buildTarget\":\x7b\"name\":\"coral\"\x7d\x7d," ++
  "\"version\":\"R77-12371.52.22\"\x7d]\x7d"

/-- What the document holds. -/
def unsortedManifest : Manifest where
  cros := [.of "nami" "sona" "R80-12739.1.0", .of "coral" "" "R77-12371.52.22"]

/-- What it is dumped as for the model: the entry about the model, and no other. -/
def dumpedForSona : Bytes := Bytes.ofText <|
  "\x7b\n\t\"cros\": [\n\t\t\x7b\n\t\t\t\"key\": \x7b\n" ++
  "\t\t\t\t\"buildTarget\": \x7b\n\t\t\t\t\t\"name\": \"nami\"\n\t\t\t\t\x7d,\n" ++
  "\t\t\t\t\"modelId\": \x7b\n\t\t\t\t\t\"value\": \"sona\"\n\t\t\t\t\x7d\n" ++
  "\t\t\t\x7d,\n\t\t\t\"version\": \"R80-12739.1.0\"\n\t\t\x7d\n\t]\n\x7d\n"

theorem dump_filterModel_unsorted :
    Manifest.decode unsorted = .ok unsortedManifest ∧
    ∃ whole current,
      (∀ dumped, Dumps unsorted none dumped ↔ dumped = whole) ∧
      (∀ dumped, Dumps unsorted (some "sona") dumped ↔ dumped = dumpedForSona) ∧
      Manifest.decode whole = .ok current ∧
      Manifest.decode dumpedForSona = .ok (current.filterModel "sona") ∧
      Dumps whole none whole ∧ Dumps dumpedForSona none dumpedForSona ∧
      Dumps dumpedForSona (some "sona") dumpedForSona := by
  have held : Manifest.decode unsorted = .ok unsortedManifest :=
    eq_ok_of_toOption (by decide +kernel)
  have filtered : Dumps unsorted (some "sona") dumpedForSona :=
    dumps_iff.mpr (eq_ok_of_toOption (by decide +kernel))
  obtain ⟨whole, part, current, dumpsWhole, dumpsPart, rest⟩ := dump_filterModel held "sona"
  obtain rfl : dumpedForSona = part := (dumpsPart _).mp filtered
  exact ⟨held, whole, current, dumpsWhole, dumpsPart, rest⟩

end Lab

end StableFleet
