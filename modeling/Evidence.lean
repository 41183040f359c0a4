import Evidence.Kubernetes.Routing
import Evidence.Main
import Evidence.Proofs.StampSearch
import Evidence.Proofs.Refiltering
import Evidence.Proofs.LogPieces
import Evidence.Proofs.StoredLogs
import Evidence.Proofs.TestDirectories
import Evidence.Proofs.Transcript
import Evidence.Proofs.AskedNamespaces
import Evidence.Proofs.AnswerIndependence
import Evidence.Proofs.CannedCluster
import Evidence.Proofs.ReportText
import Evidence.Proofs.ReportedEvidence
import Evidence.Proofs.ReportRuns
import Evidence.Proofs.StoringAgain
import Evidence.Proofs.PreparedDirectories
import Evidence.Proofs.IndependentStores
import Evidence.Proofs.CivilTime
import Evidence.Proofs.SpelledCommands
import Evidence.Proofs.WrittenNamespaces
import Evidence.Proofs.EnvironmentInfluence
import Evidence.Proofs.JobAddresses
import Evidence.Proofs.DirectoryNames
