import ProgramDeploy.Bytes.Lemmas
import ProgramDeploy.Console
import ProgramDeploy.Main
import ProgramDeploy.Proofs.SessionGrammar
import ProgramDeploy.Proofs.SessionBodies
import ProgramDeploy.Proofs.SessionDiscipline
import ProgramDeploy.Proofs.DeploymentStages
import ProgramDeploy.Proofs.HexRoundTrip
import ProgramDeploy.Proofs.UploadSession
import ProgramDeploy.Proofs.DeploymentOutcome
import ProgramDeploy.Proofs.ProgramIdentity
import ProgramDeploy.Proofs.Documents
import ProgramDeploy.Proofs.ConfigPrecedence
import ProgramDeploy.Proofs.CallSequences
import ProgramDeploy.Proofs.ConfiguredSubmission
import ProgramDeploy.Proofs.SubmissionReport
import ProgramDeploy.Proofs.ConfigLoading
import ProgramDeploy.Proofs.AlikeRuns
import ProgramDeploy.Proofs.OtherFiles
import ProgramDeploy.Proofs.FileSecrets
import ProgramDeploy.Proofs.ConfigReference
import ProgramDeploy.Proofs.DocumentLimits
import ProgramDeploy.Proofs.LoadedConfigs
import ProgramDeploy.Proofs.PreflightChecks
import ProgramDeploy.Proofs.DeployableConfigs
import ProgramDeploy.Proofs.Readiness
import ProgramDeploy.Proofs.AddressRoundTrip
import ProgramDeploy.Proofs.LocalValidity
import ProgramDeploy.Proofs.PreflightAgreement
import ProgramDeploy.Proofs.ConfigEdits
import ProgramDeploy.Proofs.DeployerSettings
import ProgramDeploy.Proofs.StandingDeployers
import ProgramDeploy.Proofs.ActorIdFaults
import ProgramDeploy.Proofs.HexLanguage
import ProgramDeploy.Proofs.Utf8RoundTrip
import ProgramDeploy.Proofs.PayloadLanguage
import ProgramDeploy.Proofs.AccountRefusals
import ProgramDeploy.Proofs.SecretIsolation
import ProgramDeploy.Proofs.StageGates
import ProgramDeploy.Proofs.RouterPayload
import ProgramDeploy.Proofs.ByteConversion
import ProgramDeploy.Proofs.AccountReports
import ProgramDeploy.Proofs.ProgramDescriptors
import ProgramDeploy.Proofs.SeedLanguage
import ProgramDeploy.Proofs.SecretUriGrammar
import ProgramDeploy.Proofs.SecretUriFaults
import ProgramDeploy.Proofs.PhraseWords
import ProgramDeploy.Proofs.ReloadedConfigs
import ProgramDeploy.Proofs.SecretSelection
import ProgramDeploy.Proofs.KeylessFaults
import ProgramDeploy.Proofs.FaultTexts
import ProgramDeploy.Proofs.FaultOrigins
import ProgramDeploy.Proofs.ConfigLookups
import ProgramDeploy.Proofs.PreflightVerdict
import ProgramDeploy.Proofs.ProgramIds
