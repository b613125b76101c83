import ClusterLifecycle.Lifecycle.Script
import ClusterLifecycle.Main
import ClusterLifecycle.Shell.Machine
import ClusterLifecycle.Proofs.Interaction
import ClusterLifecycle.Proofs.PlanEvents
import ClusterLifecycle.Proofs.OperationOutcome
import ClusterLifecycle.Proofs.StatusPassEffects
import ClusterLifecycle.Proofs.JsonGrammar
import ClusterLifecycle.Proofs.NumberText
import ClusterLifecycle.Proofs.RecordRoundTrip
import ClusterLifecycle.Proofs.RecordPlaces
import ClusterLifecycle.Proofs.FileTexts
import ClusterLifecycle.Proofs.HostReactions
import ClusterLifecycle.Proofs.StateDirectorySteps
import ClusterLifecycle.Proofs.TaskEffects
import ClusterLifecycle.Proofs.StatusProvenance
import ClusterLifecycle.Proofs.StoredRecords
import ClusterLifecycle.Proofs.FollowedPaths
import ClusterLifecycle.Proofs.RecordMap
import ClusterLifecycle.Proofs.SavesInFlight
import ClusterLifecycle.Proofs.Interleaving
import ClusterLifecycle.Proofs.IndependentTasks
import ClusterLifecycle.Proofs.DocumentLines
import ClusterLifecycle.Proofs.BundleTexts
import ClusterLifecycle.Proofs.TemplateLines
import ClusterLifecycle.Proofs.BuiltInTemplates
import ClusterLifecycle.Proofs.RenderedDocuments
import ClusterLifecycle.Proofs.RecordDocuments
import ClusterLifecycle.Proofs.BundleDocuments
import ClusterLifecycle.Proofs.AppliedBundles
import ClusterLifecycle.Proofs.SecretRemoval
import ClusterLifecycle.Proofs.OperationEffects
import ClusterLifecycle.Proofs.ShownTexts
import ClusterLifecycle.Proofs.CredentialSecrecy
import ClusterLifecycle.Proofs.JsonBlanks
import ClusterLifecycle.Proofs.JsonSameness
import ClusterLifecycle.Proofs.ObservedResources
import ClusterLifecycle.Proofs.RepeatedPasses
import ClusterLifecycle.Proofs.RenderingOutcome
import ClusterLifecycle.Proofs.ScalingBounds
import ClusterLifecycle.Proofs.NearestDoubles
import ClusterLifecycle.Proofs.ShortestDecimals
import ClusterLifecycle.Proofs.PrintedValues
import ClusterLifecycle.Proofs.ShortNumerals
import ClusterLifecycle.Proofs.ReleaseResources
import ClusterLifecycle.Proofs.Utf8Pieces
import ClusterLifecycle.Proofs.CapturedBytes
import ClusterLifecycle.Proofs.ConsecutivePasses
import ClusterLifecycle.Proofs.RepeatedDeletions
import ClusterLifecycle.Proofs.Base64Texts
import ClusterLifecycle.Proofs.SecretContents
import ClusterLifecycle.Proofs.ConfigLayers
import ClusterLifecycle.Proofs.WorkerGroups
import ClusterLifecycle.Proofs.LooseRecords
import ClusterLifecycle.Proofs.GroupChecks
import ClusterLifecycle.Proofs.JoinedDocuments
import ClusterLifecycle.Proofs.TextPlaces
import ClusterLifecycle.Proofs.QuotedScalars
import ClusterLifecycle.Proofs.FoldedTexts
import ClusterLifecycle.Proofs.FlowSteps
import ClusterLifecycle.Proofs.FlowScalars
import ClusterLifecycle.Proofs.FlowDocuments
import ClusterLifecycle.Proofs.FlowNodes
import ClusterLifecycle.Proofs.NodeRecords
import ClusterLifecycle.Proofs.RecordFiles
