import Mathlib.Data.Finmap
import StableFleet.Archive.Cache

/-!
# Kept records as one map

Records are kept in two levels, by build target and then by version. Whoever only asks the
cache cannot tell it from one finite map whose keys are the pairs of a build target and a
version: whatever the requests, and whatever fetching a record does besides, the answers are
the same.
-/

namespace StableFleet.FirmwareCache

/-- What is asked of kept records. A fetch is an action, which may fail and may have any other
effect. -/
inductive Access (m : Type → Type) where
  | insert (buildTarget version : String) (record : ModelFirmware)
  | getOrFetch (buildTarget version : String) (fetch : m (Except Error ModelFirmware))
  | get (buildTarget version : String)
  | firmware (buildTarget version model : String)
  | contains (buildTarget version : String)
  | size
  | isEmpty

/-- What a request is answered with. -/
inductive Answer where
  | inserted
  | fetched (answer : Except Error ModelFirmware)
  | record (known : Option ModelFirmware)
  | firmware (known : Option String)
  | truth (holds : Bool)
  | number (count : Nat)
  deriving DecidableEq

section Serving

variable {m : Type → Type} [Monad m]

/-- The answer of the cache to a request, and what it keeps afterwards. -/
def serve (cache : FirmwareCache) : Access m → m (Answer × FirmwareCache)
  | .insert buildTarget version record =>
    return (.inserted, cache.insert buildTarget version record)
  | .getOrFetch buildTarget version fetch =>
    Prod.map Answer.fetched id <$> cache.getOrFetch buildTarget version fetch
  | .get buildTarget version => return (.record (cache.get? buildTarget version), cache)
  | .firmware buildTarget version model =>
    return (.firmware (cache.firmware? buildTarget version model), cache)
  | .contains buildTarget version => return (.truth (cache.contains buildTarget version), cache)
  | .size => return (.number cache.size, cache)
  | .isEmpty => return (.truth cache.isEmpty, cache)

/-- Finitely many records, each under a pair of a build target and a version. -/
abbrev PairMap := Finmap fun _ : String × String => ModelFirmware

/-- The answer of a map of pairs to a request, and the map afterwards. -/
def PairMap.serve (records : PairMap) : Access m → m (Answer × PairMap)
  | .insert buildTarget version record =>
    return (.inserted, records.insert (buildTarget, version) record)
  | .getOrFetch buildTarget version fetch =>
    match records.lookup (buildTarget, version) with
    | some record => return (.fetched (.ok record), records)
    | none => do
      match ← fetch with
      | .ok record =>
        return (.fetched (.ok record), records.insert (buildTarget, version) record)
      | .error error => return (.fetched (.error error), records)
  | .get buildTarget version => return (.record (records.lookup (buildTarget, version)), records)
  | .firmware buildTarget version model =>
    return (.firmware ((records.lookup (buildTarget, version)).bind (·.get? model)), records)
  | .contains buildTarget version => return (.truth ((buildTarget, version) ∈ records), records)
  | .size => return (.number records.keys.card, records)
  | .isEmpty => return (.truth (records = ∅), records)

/-- The answers to several requests, one after another. -/
def serveAll {σ : Type} (serve : σ → Access m → m (Answer × σ)) (store : σ) :
    List (Access m) → m (List Answer × σ)
  | [] => return ([], store)
  | request :: requests => do
    let (answer, store) ← serve store request
    let (answers, store) ← serveAll serve store requests
    return (answer :: answers, store)

/-- Where every single request is answered alike by two kinds of store, so are several. -/
theorem serveAll_map [LawfulMonad m] {σ τ : Type} {serve : σ → Access m → m (Answer × σ)}
    {serveOther : τ → Access m → m (Answer × τ)} {translate : σ → τ}
    (alike : ∀ store request,
      Prod.map id translate <$> serve store request = serveOther (translate store) request)
    (store : σ) (requests : List (Access m)) :
    Prod.map id translate <$> serveAll serve store requests =
      serveAll serveOther (translate store) requests := by
  induction requests generalizing store with
  | nil => simp [serveAll]
  | cons request requests inductionHypothesis =>
    simp only [serveAll, ← alike, ← inductionHypothesis, map_bind, bind_map_left, map_pure,
      Prod.map_fst, Prod.map_snd, Prod.map_apply, id_eq]

end Serving

/-! ## The pairs -/

/-- The records of a cache, each under the pair that it is kept for. -/
def entries (cache : FirmwareCache) : List (Σ _ : String × String, ModelFirmware) :=
  cache.records.toList.flatMap fun target =>
    target.2.toList.map fun kept => ⟨(target.1, kept.1), kept.2⟩

theorem mem_entries_iff {cache : FirmwareCache} {buildTarget version : String}
    {record : ModelFirmware} :
    ⟨(buildTarget, version), record⟩ ∈ cache.entries ↔
      cache.get? buildTarget version = some record := by
  rw [get?, Option.bind_eq_some_iff, entries, List.mem_flatMap]
  constructor
  · rintro ⟨target, member, inside⟩
    obtain ⟨_, kept, same⟩ := List.mem_map.mp inside
    cases same
    exact ⟨target.2, Table.mem_toList_iff.mp member, Table.mem_toList_iff.mp kept⟩
  · rintro ⟨versions, found, kept⟩
    exact ⟨(buildTarget, versions), Table.mem_toList_iff.mpr found,
      List.mem_map.mpr ⟨(version, record), Table.mem_toList_iff.mpr kept, rfl⟩⟩

/-- No pair has two records: within a build target versions differ, and otherwise build
targets do. -/
theorem nodupKeys_entries (cache : FirmwareCache) : cache.entries.NodupKeys := by
  rw [List.nodupKeys_iff_pairwise, entries, List.pairwise_flatMap]
  constructor
  · rintro target -
    refine List.pairwise_map.mpr (target.2.ascending.imp fun {earlier later} before same => ?_)
    have version : earlier.1 = later.1 := (Prod.ext_iff.mp same).2
    exact String.lt_irrefl _ (version ▸ before)
  · refine cache.records.ascending.imp
      fun {earlier later} before first inEarlier second inLater same => ?_
    obtain ⟨_, -, rfl⟩ := List.mem_map.mp inEarlier
    obtain ⟨_, -, rfl⟩ := List.mem_map.mp inLater
    have buildTarget : earlier.1 = later.1 := (Prod.ext_iff.mp same).1
    exact String.lt_irrefl _ (buildTarget ▸ before)

theorem length_entries (cache : FirmwareCache) : cache.entries.length = cache.size := by
  simp [entries, size, List.length_flatMap, Table.values, Table.toList, Table.size, List.sum,
    Function.comp_def]

/-- The map of pairs that a cache stands for. -/
def pairs (cache : FirmwareCache) : PairMap :=
  (AList.mk cache.entries cache.nodupKeys_entries).toFinmap

@[simp] theorem lookup_pairs (cache : FirmwareCache) (buildTarget version : String) :
    cache.pairs.lookup (buildTarget, version) = cache.get? buildTarget version := by
  apply Option.ext
  intro record
  rw [← mem_entries_iff, pairs, Finmap.lookup_toFinmap]
  exact List.mem_dlookup_iff cache.nodupKeys_entries

/-- The size is the number of pairs. -/
theorem card_pairs (cache : FirmwareCache) : cache.pairs.keys.card = cache.size := by
  rw [← length_entries]
  exact List.length_map ..

theorem mem_pairs_iff {cache : FirmwareCache} {buildTarget version : String} :
    (buildTarget, version) ∈ cache.pairs ↔ cache.contains buildTarget version = true := by
  rw [← Finmap.lookup_isSome, lookup_pairs, contains]

theorem pairs_eq_empty_iff {cache : FirmwareCache} :
    cache.pairs = ∅ ↔ cache.isEmpty = true := by
  rw [isEmpty, beq_iff_eq, ← card_pairs, Finset.card_eq_zero]
  constructor
  · intro without
    rw [without, Finmap.keys_empty]
  · intro without
    refine Finmap.ext_lookup fun pair => Finmap.lookup_eq_none.mpr fun present => ?_
    exact Finset.notMem_empty pair (without ▸ Finmap.mem_keys.mpr present)

@[simp] theorem pairs_empty : empty.pairs = ∅ := rfl

@[simp] theorem pairs_insert (cache : FirmwareCache) (buildTarget version : String)
    (record : ModelFirmware) :
    (cache.insert buildTarget version record).pairs =
      cache.pairs.insert (buildTarget, version) record := by
  apply Finmap.ext_lookup
  rintro ⟨otherTarget, otherVersion⟩
  rw [lookup_pairs, get?_insert]
  split
  · next same => rw [same.1, same.2, Finmap.lookup_insert]
  · next apart =>
    rw [Finmap.lookup_insert_of_ne _ (by simpa using apart), lookup_pairs]

section Serving

variable {m : Type → Type} [Monad m] [LawfulMonad m]

/-- A cache answers a request as the map of its pairs does, and then stands for that map. -/
theorem serve_pairs (cache : FirmwareCache) (request : Access m) :
    Prod.map id pairs <$> cache.serve request = cache.pairs.serve request := by
  cases request with
  | insert buildTarget version record => simp [serve, PairMap.serve]
  | getOrFetch buildTarget version fetch =>
    rw [serve, PairMap.serve, getOrFetch, lookup_pairs]
    cases cache.get? buildTarget version with
    | some record => simp
    | none =>
      -- Both make the same fetch, and what comes of it is kept by both or by neither.
      simp only [map_bind]
      refine bind_congr fun answer => ?_
      cases answer <;> simp
  | get buildTarget version => simp [serve, PairMap.serve]
  | firmware buildTarget version model => simp [serve, PairMap.serve, firmware?]
  | contains buildTarget version => simp [serve, PairMap.serve, mem_pairs_iff]
  | size => simp [serve, PairMap.serve, card_pairs]
  | isEmpty => simp [serve, PairMap.serve, pairs_eq_empty_iff]

/-- What a cache does at one pair of a build target and a version, and what it leaves alone. -/
structure KeepsPairs (m : Type → Type) [Monad m] (cache : FirmwareCache) : Prop where
  /-- Keeping a record for a pair changes nothing for any other. -/
  apart : ∀ buildTarget version record otherTarget otherVersion,
    (otherTarget, otherVersion) ≠ (buildTarget, version) →
      (cache.insert buildTarget version record).get? otherTarget otherVersion =
        cache.get? otherTarget otherVersion
  /-- The size is the number of the pairs that have a record. -/
  counts : ∃ known : Finset (String × String), cache.size = known.card ∧
    ∀ buildTarget version,
      (buildTarget, version) ∈ known ↔ cache.contains buildTarget version = true
  /-- A record that is kept is the answer, and nothing is fetched. -/
  held : ∀ buildTarget version record (fetch : m (Except Error ModelFirmware)),
    cache.get? buildTarget version = some record →
      cache.getOrFetch buildTarget version fetch = pure (.ok record, cache)
  /-- Otherwise the record is fetched once, and kept if fetching it succeeds. -/
  absent : ∀ buildTarget version (fetch : m (Except Error ModelFirmware)),
    cache.get? buildTarget version = none →
      cache.getOrFetch buildTarget version fetch =
        fetch >>= fun answer => pure (answer,
          match answer with
          | .ok record => cache.insert buildTarget version record
          | .error _ => cache)
  /-- After a fetch that failed, every request is answered as if it had not been made. -/
  failed : ∀ buildTarget version (failure : m Error) (requests : List (Access m)),
    cache.get? buildTarget version = none →
      (do
        let (_, left) ← cache.getOrFetch buildTarget version (Except.error <$> failure)
        serveAll serve left requests) =
      failure >>= fun _ => serveAll serve cache requests

/-- A cache of records and one map of pairs answer any requests alike, with any effects of
the fetches among them. -/
theorem serves_as_oneMap :
    (∀ requests : List (Access m),
      Prod.fst <$> serveAll serve empty requests =
        Prod.fst <$> serveAll PairMap.serve ∅ requests) ∧
    ∀ cache : FirmwareCache, cache.KeepsPairs m := by
  constructor
  · intro requests
    rw [← pairs_empty, ← serveAll_map serve_pairs]
    simp
  · intro cache
    constructor
    case apart =>
      intro buildTarget version record otherTarget otherVersion apart
      rw [get?_insert, if_neg (by simpa using apart)]
    case counts =>
      exact ⟨cache.pairs.keys, cache.card_pairs.symm, fun _ _ =>
        Finmap.mem_keys.trans mem_pairs_iff⟩
    case held =>
      intro buildTarget version record fetch known
      rw [getOrFetch, known]
    case absent =>
      intro buildTarget version fetch unknown
      rw [getOrFetch, unknown]
      refine bind_congr fun answer => ?_
      cases answer <;> rfl
    case failed =>
      intro buildTarget version failure requests unknown
      simp only [getOrFetch, unknown, bind_map_left, bind_assoc, pure_bind]

end Serving

/-- A fetch that counts how often it is made. -/
def counted (answer : Except Error ModelFirmware) : StateM Nat (Except Error ModelFirmware) :=
  fun calls => (answer, calls + 1)

/-- The third time a record is fetched it is known, since the second fetch succeeded. -/
theorem serves_as_oneMap_threeFetches :
    LawfulMonad (StateM Nat) ∧
    (Prod.fst <$> serveAll PairMap.serve ∅
      [.getOrFetch "nami" "R77-12371.52.22" (counted (.error .cancelled)),
       .isEmpty,
       .getOrFetch "nami" "R77-12371.52.22" (counted (.ok (.ofList [("vayne", "Google_Nami.1")]))),
       .getOrFetch "nami" "R77-12371.52.22" (counted (.ok (.ofList [("vayne", "Google_Nami.9")]))),
       .firmware "nami" "R77-12371.52.22" "vayne",
       .insert "coral" "R77-12371.52.22" .empty,
       .size]) 0 =
      ([.fetched (.error .cancelled), .truth true,
        .fetched (.ok (.ofList [("vayne", "Google_Nami.1")])),
        .fetched (.ok (.ofList [("vayne", "Google_Nami.1")])),
        .firmware (some "Google_Nami.1"), .inserted, .number 2], 2) := by
  refine ⟨inferInstance, ?_⟩
  rw [← serves_as_oneMap.1]
  rfl

end StableFleet.FirmwareCache
