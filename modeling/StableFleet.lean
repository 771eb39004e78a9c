import StableFleet.Machine.Files
import StableFleet.Main
import StableFleet.Manifest.Merge
import StableFleet.Proofs.Update.Acceptance
import StableFleet.Proofs.Update.Clearance
import StableFleet.Proofs.Update.Scratch
import StableFleet.Proofs.Validation.Rereading
import StableFleet.Proofs.Reconcile.Rerun
import StableFleet.Proofs.Reconcile.Isolation
import StableFleet.Proofs.Archive.Heeding
import StableFleet.Proofs.Archive.Transparency
import StableFleet.Proofs.Archive.Search
import StableFleet.Proofs.Dimensions.Reservation
import StableFleet.Proofs.Dimensions.MemberOrder
import StableFleet.Proofs.Dimensions.Repetition
import StableFleet.Proofs.Reconcile.Rearrangement
import StableFleet.Proofs.Reconcile.Partition
import StableFleet.Proofs.CommandLine.Reverting
import StableFleet.Proofs.Feed.Newest
import StableFleet.Proofs.Reconcile.Requests
import StableFleet.Proofs.Validation.Findings
import StableFleet.Proofs.Validation.FirstFault
import StableFleet.Proofs.Manifest.Merging
import StableFleet.Proofs.Config.AllowLists
import StableFleet.Proofs.Archive.Metadata
import StableFleet.Proofs.Version.Comparison
import StableFleet.Proofs.Version.Oversize
import StableFleet.Proofs.Manifest.Dumping
import StableFleet.Proofs.Dimensions.Cleanness
import StableFleet.Proofs.Dimensions.Trials
import StableFleet.Proofs.Reconcile.BestVersion
import StableFleet.Proofs.Archive.OneMap
