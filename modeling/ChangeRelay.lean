import ChangeRelay.Collaborator
import ChangeRelay.Journal
import ChangeRelay.Json.Parse
import ChangeRelay.Proofs.AfreshWalk
import ChangeRelay.Proofs.BatchRoundTrip
import ChangeRelay.Proofs.CachesInEffect
import ChangeRelay.Proofs.CallStages
import ChangeRelay.Proofs.CalmNotification
import ChangeRelay.Proofs.ChangeNodes
import ChangeRelay.Proofs.ChangeSets
import ChangeRelay.Proofs.ChangeTreeLaws
import ChangeRelay.Proofs.ChangeTreeShape
import ChangeRelay.Proofs.ConfigGroups
import ChangeRelay.Proofs.ConfigPattern
import ChangeRelay.Proofs.CycleBatch
import ChangeRelay.Proofs.DecimalDigits
import ChangeRelay.Proofs.DeliveryOrder
import ChangeRelay.Proofs.EmptyExclusions
import ChangeRelay.Proofs.EntryChanges
import ChangeRelay.Proofs.ExcludedFiles
import ChangeRelay.Proofs.FailedWalks
import ChangeRelay.Proofs.FailingCollaborators
import ChangeRelay.Proofs.FileListings
import ChangeRelay.Proofs.ForwardedPaths
import ChangeRelay.Proofs.FreshEntries
import ChangeRelay.Proofs.FullSweep
import ChangeRelay.Proofs.GivenCaches
import ChangeRelay.Proofs.GlobBrackets
import ChangeRelay.Proofs.GlobLanguage
import ChangeRelay.Proofs.KeptExclusions
import ChangeRelay.Proofs.ListingsInForce
import ChangeRelay.Proofs.LocalPlaces
import ChangeRelay.Proofs.MissingWays
import ChangeRelay.Proofs.NearestBinary
import ChangeRelay.Proofs.NestedCopies
import ChangeRelay.Proofs.NestedDuplicates
import ChangeRelay.Proofs.NodePlaces
import ChangeRelay.Proofs.NumberText
import ChangeRelay.Proofs.OwnExclusions
import ChangeRelay.Proofs.PathText
import ChangeRelay.Proofs.PercentRoundTrip
import ChangeRelay.Proofs.Pruning
import ChangeRelay.Proofs.PutsOvertaken
import ChangeRelay.Proofs.QuotedText
import ChangeRelay.Proofs.RemovalsApart
import ChangeRelay.Proofs.ReportedFiles
import ChangeRelay.Proofs.SendingAll
import ChangeRelay.Proofs.SentSnapshots
import ChangeRelay.Proofs.SharedStore
import ChangeRelay.Proofs.ShortestDecimal
import ChangeRelay.Proofs.SingleRuns
import ChangeRelay.Proofs.SnapshotMaking
import ChangeRelay.Proofs.StorePast
import ChangeRelay.Proofs.SubProjectCopies
import ChangeRelay.Proofs.UnexcludedWalk
import ChangeRelay.Proofs.UriRoundTrip
import ChangeRelay.Proofs.WalkAgreement
import ChangeRelay.Proofs.WalkOrder
import ChangeRelay.Proofs.WalkResult
import ChangeRelay.Proofs.WaysBetweenPaths
import ChangeRelay.Proofs.WorkspaceMembers
import ChangeRelay.Settings.File
import ChangeRelay.Workspace.Nested
import ChangeRelay.Workspace.Watch
import ChangeRelay.Proofs.LanguageOpinions
import ChangeRelay.Proofs.SentTestKinds
import ChangeRelay.Proofs.PathSpellings
import ChangeRelay.Proofs.ExcludedSpellings
import ChangeRelay.Proofs.StandardTestPatterns
