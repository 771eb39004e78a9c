import Mathlib.Data.List.Nodup
import StableFleet.Proofs.Manifest.Codec
import StableFleet.Proofs.Reconcile.Isolation

/-!
# The order of what is given to a reconciliation

Entries with different keys are noted under different boards, or as different versions of
one board. So as long as no key and no board of the feed occurs twice, the versions of the
boards do not depend on the order in which they are noted, and neither does the version on
record for a key. A reconciliation makes no other use of its manifest and its feed: when
these are rearranged it is the same reading, which asks the same and comes to the same in
any surroundings.

Where a key occurs twice the order matters: the later entry is noted, and the earlier one
is on record.
-/

namespace StableFleet

namespace Table

variable {α : Type}

/-- Values may be put under different keys in either order. -/
theorem insert_comm (table : Table α) {key other : String} (different : key ≠ other)
    (value value' : α) :
    (table.insert key value).insert other value' =
      (table.insert other value').insert key value := by
  apply Table.ext
  intro asked
  simp only [get?_insert]
  by_cases first : asked = key
  · have second : ¬ asked = other := fun same => different (first.symm.trans same)
    rw [if_neg second, if_pos first, if_pos first]
  · rw [if_neg first, if_neg first]

/-- Updates under different keys may be made in either order. -/
theorem update_comm (table : Table α) {key other : String} (different : key ≠ other)
    (change change' : Option α → α) :
    (table.update key change).update other change' =
      (table.update other change').update key change := by
  simp only [update, get?_insert, if_neg different, if_neg different.symm]
  exact insert_comm table different _ _

/-- An update under a key that has just been updated makes one update of both. -/
theorem update_update (table : Table α) (key : String) (change change' : Option α → α) :
    (table.update key change).update key change' =
      table.update key fun known => change' (some (change known)) := by
  apply Table.ext
  intro asked
  by_cases here : asked = key <;> simp [update, here]

end Table

namespace BoardVersions

/-- Entries with different keys for one board may be noted in either order. -/
theorem noteEntry_comm {first second : VersionEntry} (different : first.key ≠ second.key)
    (board : first.key.buildTarget = second.key.buildTarget) (versions : BoardVersions) :
    noteEntry second (noteEntry first versions) = noteEntry first (noteEntry second versions) := by
  obtain ⟨⟨place, model⟩, version⟩ := first
  obtain ⟨⟨_, model'⟩, version'⟩ := second
  cases board
  have models : model ≠ model' := fun same => different (congrArg (EntryKey.mk place) same)
  by_cases unnamed : model = ""
  · have named : ¬ model' = "" := fun same => models (unnamed.trans same.symm)
    simp [noteEntry, unnamed, named]
  · by_cases unnamed' : model' = ""
    · simp [noteEntry, unnamed, unnamed']
    · simp [noteEntry, unnamed, unnamed', Table.insert_comm _ models]

/-- Entries with different keys may be noted in either order, for one board or for two. -/
theorem update_noteEntry_comm {first second : VersionEntry} (different : first.key ≠ second.key)
    (boards : Table BoardVersions) :
    (boards.update first.key.buildTarget fun known => noteEntry first (known.getD {})).update
        second.key.buildTarget (fun known => noteEntry second (known.getD {})) =
      (boards.update second.key.buildTarget fun known => noteEntry second (known.getD {})).update
        first.key.buildTarget fun known => noteEntry first (known.getD {}) := by
  by_cases board : first.key.buildTarget = second.key.buildTarget
  · rw [board, Table.update_update, Table.update_update]
    congr 1
    funext known
    exact noteEntry_comm different board _
  · exact Table.update_comm _ board _ _

/-- The versions of the boards do not depend on the order of entries with distinct keys and
of releases of distinct boards. -/
theorem collect_of_perm {old new : Manifest} {releases releases' : List BoardRelease}
    (keys : (old.cros.map (·.key)).Nodup) (boards : (releases.map (·.buildTarget)).Nodup)
    (cros : old.cros.Perm new.cros) (feed : releases.Perm releases') :
    collect old releases = collect new releases' := by
  rw [collect, collect]
  -- Items that agree in what is to be distinct are one item, which follows itself either way.
  refine (feed.foldl_eq' ?_ _).trans (congrArg (releases'.foldl _ ·) (cros.foldl_eq' ?_ _))
  · intro first present second present' known
    by_cases same : first.buildTarget = second.buildTarget
    · rw [List.inj_on_of_nodup_map boards present present' same]
    · exact Table.update_comm _ same _ _
  · intro first present second present' known
    by_cases same : first.key = second.key
    · rw [VersionEntry.eq_of_key_eq keys present present' same]
    · exact update_noteEntry_comm same _

end BoardVersions

namespace Reconcile

/-- Two reconciliations are given the same in another order. The further section, which
neither looks at, is the same as it is. -/
structure Rearranged (old new : Manifest) (releases releases' : List BoardRelease) : Prop where
  cros : old.cros.Perm new.cros
  firmware : old.firmware.Perm new.firmware
  faft : old.faft = new.faft
  feed : releases.Perm releases'

section Order

variable {old new : Manifest} {releases releases' : List BoardRelease}

/-- A reconciliation is the same reading when what it is given is rearranged. -/
theorem reconcile_eq_of_rearranged (given : Rearranged old new releases releases')
    (crosKeys : (old.cros.map (·.key)).Nodup) (firmwareKeys : (old.firmware.map (·.key)).Nodup)
    (boards : (releases.map (·.buildTarget)).Nodup) :
    reconcile old releases = reconcile new releases' := by
  have decided : decisions old = decisions new := by
    funext scan
    exact decisions_eq fun model => Manifest.versionFor?_of_perm firmwareKeys given.firmware _
  have assembled : assemble old = assemble new := by
    funext scans
    simp only [assemble, decided, given.faft]
  rw [reconcile, reconcile, assembled,
    BoardVersions.collect_of_perm crosKeys boards given.cros given.feed]

/-- Where no key occurs twice in a section and no board twice in the feed, a reconciliation
that is given the same in another order comes to the same, and asks the same in the same
order, from any session in any surroundings. -/
theorem reconcile_rearranged {σ : Type} (host : Host σ) (session : Session σ)
    (given : Rearranged old new releases releases')
    (crosKeys : (old.cros.map (·.key)).Nodup) (firmwareKeys : (old.firmware.map (·.key)).Nodup)
    (boards : (releases.map (·.buildTarget)).Nodup) :
    (reconcile new releases').perform host session =
        (reconcile old releases).perform host session ∧
      (reconcile new releases').exchanges host session =
        (reconcile old releases).exchanges host session := by
  rw [reconcile_eq_of_rearranged given crosKeys firmwareKeys boards]
  exact ⟨rfl, rfl⟩

end Order

/-- The feed has a newer version of one board and the first one of another. -/
def twoReleases : List BoardRelease := [⟨"nami", "R80-12739.0.0"⟩, ⟨"coral", "R77-12371.52.22"⟩]

theorem reconcile_rearranged_reversed :
    ((reconcile boardAndModel twoReleases).perform boardRecord.host archiveSession).1 =
        .ok { manifest := boardKept } ∧
      ((reconcile boardAndModel.reverse twoReleases.reverse).perform boardRecord.host
        archiveSession).1 = .ok { manifest := boardKept } ∧
      (reconcile boardAndModel.reverse twoReleases.reverse).exchanges boardRecord.host
          archiveSession =
        (reconcile boardAndModel twoReleases).exchanges boardRecord.host archiveSession := by
  have reversed : Rearranged boardAndModel boardAndModel.reverse twoReleases twoReleases.reverse :=
    ⟨(List.reverse_perm _).symm, (List.reverse_perm _).symm, rfl, (List.reverse_perm _).symm⟩
  have kept : ((reconcile boardAndModel twoReleases).perform boardRecord.host archiveSession).1 =
      .ok { manifest := boardKept } := eq_ok_of_toOption (by decide +kernel)
  obtain ⟨performed, asked⟩ := reconcile_rearranged boardRecord.host archiveSession reversed
    (by decide) (by decide) (by decide)
  exact ⟨kept, by rw [performed]; exact kept, asked⟩

end Reconcile

end StableFleet
