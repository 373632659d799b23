import JobGate.Admin
import JobGate.Main
import JobGate.Rehearsal.Cast
import JobGate.Proofs.ControllerCalls
import JobGate.Proofs.PipelineRuns
import JobGate.Proofs.BackendTarget
import JobGate.Proofs.Envelopes
import JobGate.Proofs.GzipMembers
import JobGate.Proofs.GzipStreams
import JobGate.Proofs.GateCalls
import JobGate.Proofs.SubmissionGate
import JobGate.Proofs.ReportFolding
import JobGate.Proofs.BackendReplies
import JobGate.Proofs.ForwardedRequests
import JobGate.Proofs.HeaderAgreement
import JobGate.Proofs.CompressedRuns
import JobGate.Proofs.CollaboratorFailures
import JobGate.Proofs.SteadyRuns
import JobGate.Proofs.DeterminedRuns
import JobGate.Proofs.RouteAgreement
import JobGate.Proofs.TokenLookups
import JobGate.Proofs.TokenDescriptions
import JobGate.Proofs.Contacts
import JobGate.Proofs.TokenSecrecy
import JobGate.Proofs.CountedRuns
import JobGate.Proofs.WireTypes
import JobGate.Proofs.PointerTexts
import JobGate.Proofs.PatchFrame
import JobGate.Proofs.ForwardingChains
import JobGate.Proofs.RouteLanguages
import JobGate.Proofs.BackendRoot
import JobGate.Proofs.DurationSums
import JobGate.Proofs.MutationFlags
import JobGate.Proofs.ImageQuestions
import JobGate.Proofs.MetadataEdits
import JobGate.Proofs.BulletLists
import JobGate.Proofs.PipelineBuilding
import JobGate.Proofs.Consultations
