import TruePresenceESE.Adaptive.Weighting
import TruePresenceESE.Api.EvidenceRoutes
import TruePresenceESE.Api.Sessions
import TruePresenceESE.Api.SocketLoop
import TruePresenceESE.Api.UserAuth
import TruePresenceESE.Detectors.BrowserCadence
import TruePresenceESE.Engine.ArtifactStore
import TruePresenceESE.Engine.ChallengeOutcome
import TruePresenceESE.Engine.ResponseTimes
import TruePresenceESE.Ese.ArtifactReads
import TruePresenceESE.Ese.BoundedRetries
import TruePresenceESE.Ese.ComparisonBaseline
import TruePresenceESE.Ese.ConfigNormalization
import TruePresenceESE.Ese.Consensus
import TruePresenceESE.Ese.DashboardJobs
import TruePresenceESE.Ese.DerivedRuns
import TruePresenceESE.Ese.DiffExcerpt
import TruePresenceESE.Ese.FailedStarts
import TruePresenceESE.Ese.FeedbackRuns
import TruePresenceESE.Ese.ModelReferences
import TruePresenceESE.Ese.Publishing
import TruePresenceESE.Ese.ReportNormalization
import TruePresenceESE.Ese.ReportableRuns
import TruePresenceESE.Ese.RoleDrafting
import TruePresenceESE.Ese.RoleOrder
import TruePresenceESE.Ese.RunComparison
import TruePresenceESE.Ese.StarterProjects
import TruePresenceESE.Ese.SuggestionLoss
import TruePresenceESE.Memory.FeatureOrder
import TruePresenceESE.Memory.SimilarityEdges
import TruePresenceESE.Onedrive.ScanCompleteness
import TruePresenceESE.Scoring.CrossCategory
import TruePresenceESE.Scoring.FeatureMonotone
import TruePresenceESE.Scoring.ProbabilisticOr
import TruePresenceESE.Scoring.Recommendation
import TruePresenceESE.Sdk.ActionBursts
import TruePresenceESE.Sdk.PacketAcceptance
import TruePresenceESE.Sdk.ProtectForm
import TruePresenceESE.Sdk.Stripping
import TruePresenceESE.Sdk.TypingTimings
import TruePresenceESE.Telegram.Announcements
import TruePresenceESE.Telegram.BanCooldown
import TruePresenceESE.Telegram.ClusterWindows
import TruePresenceESE.Telegram.EscalationMonotone
import TruePresenceESE.Telegram.ExtraPatterns
import TruePresenceESE.Telegram.FailedUpdates
import TruePresenceESE.Telegram.JoinLatency
import TruePresenceESE.Telegram.MessageVelocity
import TruePresenceESE.Telegram.MetadataOnly
import TruePresenceESE.Telegram.ReviewInterleavings
import TruePresenceESE.Telegram.StatusFallback
import TruePresenceESE.Telegram.TenantEnvironment
import TruePresenceESE.Telegram.ThreatRouting
import TruePresenceESE.Testing.Scenarios
import TruePresenceESE.Dashboard.EvidenceCards
import TruePresenceESE.Ese.ScaffoldSoundness
import TruePresenceESE.Evidence.SqlArtifacts
import TruePresenceESE.Ese.DashboardRuns
