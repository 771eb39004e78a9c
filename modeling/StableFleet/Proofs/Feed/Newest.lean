import StableFleet.Feed
import StableFleet.Json.Layout
import StableFleet.Proofs.Version.Order

/-!
# The newest release of each board

The entries of a feed are gone through one after another, and each release takes the place
of a lesser one of its board. What is left for a board is the greatest of the versions that
its entries announce, so neither the order of the entries nor their repetition counts, nor
do entries that announce nothing.
-/

namespace StableFleet.Feed

open Json (Value)

/-- The bytes of a feed decode as some entries. -/
def Decodes (bytes : Bytes) (entries : List Entry) : Prop :=
  ∃ value, Value.parse? bytes = some value ∧ shape value = .ok entries

/-- An entry announces a version of a build target: it is on the beta channel, its board is
that of the build target, which has a name, and what it spells is a version. -/
structure Announces (entry : Entry) (buildTarget version : String) : Prop where
  beta : entry.channel.toLower = "beta"
  board : normalizeBoard entry.codename = buildTarget
  named : buildTarget ≠ ""
  spelled : "R" ++ Text.Decimal.ofWord entry.milestone ++ "-" ++ entry.version = version
  accepted : Version.Accepts Version.readOs version

/-- An entry counts that announces a version of some build target. -/
def Counts (entry : Entry) : Prop := ∃ buildTarget version, Announces entry buildTarget version

/-- A version is the newest of a build target: some entry announces it, and whatever else
is announced for the build target compares as less. -/
structure Newest (entries : List Entry) (buildTarget version : String) : Prop where
  announced : ∃ entry ∈ entries, Announces entry buildTarget version
  greatest : ∀ entry ∈ entries, ∀ other, Announces entry buildTarget other →
    other = version ∨ Version.compareOs other version = .ok .lt

/-- Bytes decode as the entries that are found in them. -/
theorem decodes_iff {bytes : Bytes} {entries : List Entry} :
    Decodes bytes entries ↔
      (Value.parse? bytes).bind (fun value => (shape value).toOption) = some entries := by
  rw [Option.bind_eq_some_iff]
  refine exists_congr fun value => and_congr_right fun _ => ?_
  cases shape value <;> simp [Except.toOption]

/-- A channel is the beta channel when its text in small letters is `beta`. -/
theorem isBeta_iff {channel : String} : isBeta channel = true ↔ channel.toLower = "beta" := by
  have lowered : channel.toLower.toList = channel.toList.map Char.toLower := String.toList_map
  rw [← String.toList_inj, lowered]
  simp [isBeta]

/-- An entry announces the text of a version exactly when the version counts as its
release. -/
theorem release?_eq_some_iff {entry : Entry} {buildTarget : String} {version : OsVersion} :
    entry.release? = some (buildTarget, version) ↔ Announces entry buildTarget version.text := by
  rw [Entry.release?]
  constructor
  · intro found
    split at found
    · next counted =>
      obtain ⟨beta, named⟩ := Bool.and_eq_true_iff.mp counted
      obtain ⟨read, parsed, same⟩ := Option.map_eq_some_iff.mp found
      cases same
      exact ⟨isBeta_iff.mp beta, rfl, by simpa using named, OsVersion.parse?_eq_some_iff.mp parsed,
        Version.accepts_readOs_iff.mpr ⟨_, rfl⟩⟩
    · cases found
  · rintro ⟨beta, rfl, named, spelled, _⟩
    have read : OsVersion.parse? entry.versionText = some version :=
      OsVersion.parse?_eq_some_iff.mpr spelled
    simp [isBeta_iff.mpr beta, named, read]

/-- An entry counts exactly when it has a release. -/
theorem counts_iff {entry : Entry} : Counts entry ↔ entry.release?.isSome = true := by
  rw [Option.isSome_iff_exists]
  constructor
  · rintro ⟨buildTarget, text, announces⟩
    obtain ⟨version, rfl⟩ := Version.accepts_readOs_iff.mp announces.accepted
    exact ⟨(buildTarget, version), release?_eq_some_iff.mpr announces⟩
  · rintro ⟨⟨buildTarget, version⟩, found⟩
    exact ⟨buildTarget, version.text, release?_eq_some_iff.mp found⟩

/-- The versions that some entries announce for a build target. -/
def announced (entries : List Entry) (buildTarget : String) : List OsVersion :=
  ((entries.filterMap Entry.release?).filter fun release => release.1 = buildTarget).map (·.2)

theorem mem_announced_iff {entries : List Entry} {buildTarget : String} {version : OsVersion} :
    version ∈ announced entries buildTarget ↔
      ∃ entry ∈ entries, Announces entry buildTarget version.text := by
  simp [announced, release?_eq_some_iff]

/-- Releases of a build target of which a version is known leave the latest of all. -/
theorem foldl_latest_known {change : String × OsVersion → Option OsVersion → OsVersion}
    (latest : ∀ release known, change release (some known) = OsVersion.latest known release.2)
    (known : OsVersion) (releases : List (String × OsVersion)) :
    releases.foldl (fun known release => some (change release known)) (some known) =
      some ((releases.map (·.2)).foldl OsVersion.latest known) := by
  induction releases generalizing known with
  | nil => rfl
  | cons release releases inductionHypothesis =>
    rw [List.foldl_cons, latest]
    exact inductionHypothesis _

/-- What is known of a build target after all entries is the greatest of the versions that
they announce for it. -/
theorem get?_newest (entries : List Entry) (buildTarget : String) :
    (newest entries).get? buildTarget = OsVersion.greatest? (announced entries buildTarget) := by
  rw [newest, announced]
  refine (Table.get?_foldl_update (·.1) _ (entries.filterMap Entry.release?) _ buildTarget).trans ?_
  cases (entries.filterMap Entry.release?).filter fun release => release.1 = buildTarget with
  | nil => rfl
  | cons release releases => exact foldl_latest_known (fun _ _ => rfl) release.2 releases

/-- A version is the newest of a build target exactly when it is the greatest that is
announced for it. -/
theorem newest_iff {entries : List Entry} {buildTarget : String} {version : OsVersion} :
    Newest entries buildTarget version.text ↔
      OsVersion.Greatest (announced entries buildTarget) version := by
  constructor
  · rintro ⟨held, greatest⟩
    refine ⟨mem_announced_iff.mpr held, fun other present => OsVersion.isLE_iff.mpr ?_⟩
    obtain ⟨entry, listed, announces⟩ := mem_announced_iff.mp present
    refine (greatest entry listed other.text announces).imp OsVersion.text_inj.mp fun below => ?_
    rw [Version.compareOs_text] at below
    exact Except.ok.inj below
  · rintro ⟨member, bound⟩
    refine ⟨mem_announced_iff.mp member, fun entry listed other announces => ?_⟩
    obtain ⟨found, rfl⟩ := Version.accepts_readOs_iff.mp announces.accepted
    have present := mem_announced_iff.mpr ⟨entry, listed, announces⟩
    refine (OsVersion.isLE_iff.mp (bound found present)).imp (congrArg _) fun below => ?_
    rw [Version.compareOs_text, below]

/-- The releases of a feed that decodes. -/
theorem parse_of_decodes [Json.Complaint] {bytes : Bytes} {entries : List Entry}
    (decodes : Decodes bytes entries) :
    parse bytes =
      .ok ((newest entries).toList.map fun release => ⟨release.1, release.2.text⟩) := by
  obtain ⟨value, parsed, shaped⟩ := decodes
  simp only [parse, parsed, shaped]

/-- Feeds in which the same entries count have the same newest releases. -/
theorem newest_eq_of_counts {entries others : List Entry}
    (same : ∀ entry, Counts entry → (entry ∈ others ↔ entry ∈ entries)) :
    newest others = newest entries := by
  apply Table.ext
  intro buildTarget
  apply Option.ext
  intro version
  have announces (found : OsVersion) :
      found ∈ announced others buildTarget ↔ found ∈ announced entries buildTarget := by
    rw [mem_announced_iff, mem_announced_iff]
    refine exists_congr fun entry => and_congr_left fun announces => ?_
    exact same entry ⟨buildTarget, found.text, announces⟩
  simp only [get?_newest, OsVersion.greatest?_eq_some_iff, OsVersion.Greatest, announces]

/-- A feed that decodes has one release for each build target that some entry announces a
version of, in ascending order of build targets: the newest. Another feed in which the same
entries count, in whatever order and however often, has the same releases. -/
theorem parse_newest [Json.Complaint] {bytes : Bytes} {entries : List Entry}
    (decodes : Decodes bytes entries) :
    ∃ releases, parse bytes = .ok releases ∧
      (releases.Pairwise fun left right => left.buildTarget < right.buildTarget) ∧
      (∀ buildTarget version,
        ⟨buildTarget, version⟩ ∈ releases ↔ Newest entries buildTarget version) ∧
      ∀ (bytes' : Bytes) (entries' : List Entry), Decodes bytes' entries' →
        (∀ entry, Counts entry → (entry ∈ entries' ↔ entry ∈ entries)) →
        parse bytes' = .ok releases := by
  refine ⟨_, parse_of_decodes decodes, ?_, ?_, ?_⟩
  · exact List.pairwise_map.mpr (newest entries).ascending
  · intro buildTarget version
    constructor
    · intro listed
      obtain ⟨⟨board, found⟩, member, same⟩ := List.mem_map.mp listed
      obtain ⟨rfl, rfl⟩ := BoardRelease.mk.inj same
      rw [newest_iff, ← OsVersion.greatest?_eq_some_iff, ← get?_newest]
      exact Table.mem_toList_iff.mp member
    · intro newestOne
      obtain ⟨entry, _, announces⟩ := newestOne.announced
      obtain ⟨found, rfl⟩ := Version.accepts_readOs_iff.mp announces.accepted
      rw [newest_iff, ← OsVersion.greatest?_eq_some_iff, ← get?_newest] at newestOne
      exact List.mem_map.mpr ⟨(buildTarget, found), Table.mem_toList_iff.mpr newestOne, rfl⟩
  · intro bytes' entries' decodes' same
    rw [parse_of_decodes decodes', newest_eq_of_counts same]

section TwoBoards

/-- A feed with some entries. -/
def document (entries : List Entry) : Bytes :=
  (Value.ofMembers [("omahaData", .array (entries.map fun entry => .ofMembers [
    ("board", .ofMembers [("publicCodename", .ofText entry.codename)]),
    ("channel", .ofText entry.channel),
    ("milestone", .ofNat entry.milestone.toNat),
    ("chromeOsVersion", .ofText entry.version)]))]).writeTabbed

/-- The entries of two boards; the greater version of one is the lesser text. -/
def twoBoards : List Entry := [
  ⟨"nami", "beta", 99, "14469.59.0"⟩,
  ⟨"nami", "Beta", 100, "14526.57.0"⟩,
  ⟨"grunt-next", "BETA", 99, "14469.59.0"⟩]

/-- The same entries turned round, one of them repeated, among entries that do not count:
of another channel, without a board, and with an unreadable version. -/
def twoBoardsMixed : List Entry := [
  ⟨"nami", "stable", 101, "14588.3.0"⟩,
  ⟨"grunt-next", "BETA", 99, "14469.59.0"⟩,
  ⟨"nami", "Beta", 100, "14526.57.0"⟩,
  ⟨"", "beta", 101, "14588.3.0"⟩,
  ⟨"nami", "beta", 99, "14469.59.0"⟩,
  ⟨"nami", "Beta", 100, "14526.57.0"⟩,
  ⟨"grunt_next", "beta", 100, "latest"⟩]

theorem parse_newest_twoBoards :
    Decodes (document twoBoards) twoBoards ∧
    parse (document twoBoards) =
      .ok [⟨"grunt_next", "R99-14469.59.0"⟩, ⟨"nami", "R100-14526.57.0"⟩] ∧
    parse (document twoBoardsMixed) = parse (document twoBoards) := by
  have decodes : Decodes (document twoBoards) twoBoards := decodes_iff.mpr (by decide +kernel)
  have mixed : Decodes (document twoBoardsMixed) twoBoardsMixed :=
    decodes_iff.mpr (by decide +kernel)
  have kept : ∀ entry ∈ twoBoards, entry ∈ twoBoardsMixed := by decide
  have counted : ∀ entry ∈ twoBoardsMixed, entry.release?.isSome = true → entry ∈ twoBoards := by
    decide +kernel
  obtain ⟨releases, found, _, _, same⟩ := parse_newest decodes
  refine ⟨decodes, ?_, ?_⟩
  · rw [parse_of_decodes decodes]
    exact congrArg _ (by decide +kernel)
  · rw [found]
    refine same _ _ mixed fun entry counts => ⟨fun listed => ?_, kept entry⟩
    exact counted entry listed (counts_iff.mp counts)

end TwoBoards

end StableFleet.Feed
