import CredentialResolution.Bindings
import CredentialResolution.Credentials
import CredentialResolution.Error
import CredentialResolution.Event
import CredentialResolution.Factory.Basic
import CredentialResolution.File.Tree
import CredentialResolution.LoadedSettings
import CredentialResolution.Provider.Calls
import CredentialResolution.Scenario.Run
import CredentialResolution.Surroundings.Registry
import CredentialResolution.Proofs.Agreement
import CredentialResolution.Proofs.Exchange
import CredentialResolution.Proofs.OrderedChoice
import CredentialResolution.Proofs.Pairing
import CredentialResolution.Proofs.PairedRuns
import CredentialResolution.Proofs.Release
import CredentialResolution.Proofs.Apart
import CredentialResolution.Proofs.Lifecycle
import CredentialResolution.Proofs.Attempt
import CredentialResolution.Proofs.Retry
import CredentialResolution.Proofs.Ledger
import CredentialResolution.Proofs.Threads
import CredentialResolution.Proofs.RegistryHistory
import CredentialResolution.Proofs.Precedence
import CredentialResolution.Proofs.Lives
import CredentialResolution.Proofs.Thorough
import CredentialResolution.Proofs.Custody
import CredentialResolution.Proofs.Journals
import CredentialResolution.Proofs.Disguise
import CredentialResolution.Proofs.Secrecy
import CredentialResolution.Proofs.ChainSteps
import CredentialResolution.Proofs.Flattening
import CredentialResolution.Proofs.ChainClosing
import CredentialResolution.Proofs.SourceKinds
import CredentialResolution.Proofs.WellFormed
import CredentialResolution.Proofs.Expiry
import CredentialResolution.Proofs.Trimming
import CredentialResolution.Proofs.KeyedCredentials
import CredentialResolution.Proofs.TokenReading
import CredentialResolution.Proofs.DecodedVariables
import CredentialResolution.Proofs.LastingFacts
import CredentialResolution.Proofs.SparedStores
import CredentialResolution.Proofs.PropertyHistory
import CredentialResolution.Proofs.CauseChains
import CredentialResolution.Proofs.Redaction
import CredentialResolution.Proofs.ShownPaths
import CredentialResolution.Proofs.SharedCalls
import CredentialResolution.Proofs.OwnRecords
