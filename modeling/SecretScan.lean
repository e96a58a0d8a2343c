import SecretScan.Decimal.Read
import SecretScan.Main
import SecretScan.Proofs.IterationCap
import SecretScan.Proofs.LineLocality
import SecretScan.Proofs.ReportedFindings
import SecretScan.Proofs.GlobLanguage
import SecretScan.Proofs.PrunedDirectories
import SecretScan.Proofs.FileListing
import SecretScan.Proofs.UnprunedWalk
import SecretScan.Proofs.CanonicalConsolidation
import SecretScan.Proofs.RedactedReport
import SecretScan.Proofs.ProjectAccounting
import SecretScan.Proofs.OverriddenSettings
import SecretScan.Proofs.GlobTable
import SecretScan.Proofs.FindingPlaces
import SecretScan.Proofs.LowercaseText
import SecretScan.Proofs.SensibleSettings
import SecretScan.Proofs.ConservativeDetection
import SecretScan.Proofs.OutcomeOrder
import SecretScan.Proofs.ExitGate
import SecretScan.Proofs.TokenRuns
import SecretScan.Proofs.WildcardLanguage
import SecretScan.Proofs.PatternSearch
import SecretScan.Proofs.CaseVariants
import SecretScan.Proofs.SuppressedKeys
import SecretScan.Proofs.LeftmostRemark
import SecretScan.Proofs.AllowedTexts
import SecretScan.Proofs.CapturedSecrets
import SecretScan.Proofs.WordTokens
import SecretScan.Proofs.SignatureIndependence
import SecretScan.Proofs.AnchoredSelection
import SecretScan.Proofs.ExtensionPatterns
import SecretScan.Proofs.FaultyPatterns
import SecretScan.Proofs.NumberedPatterns
import SecretScan.Proofs.RedactedTable
import SecretScan.Proofs.LongestText
import SecretScan.Proofs.MergedSelection
import SecretScan.Proofs.NormalPaths
import SecretScan.Proofs.PathDescent
import SecretScan.Proofs.DisplayLabels
import SecretScan.Proofs.ParentPaths
import SecretScan.Proofs.CanonicalPaths
import SecretScan.Proofs.NearestConfig
