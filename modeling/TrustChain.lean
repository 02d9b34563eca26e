import TrustChain.Library.Machine
import TrustChain.Library.HashChain
import TrustChain.Library.CString
import TrustChain.Library.Region
import TrustChain.Tee.Api
import TrustChain.Ta.Utils
import TrustChain.Ta.KeyManager
import TrustChain.Ta.KeyList
import TrustChain.Ta.Block
import TrustChain.Ta.Commands
import TrustChain.Ta.Requests
import TrustChain.Ta.Effects
import TrustChain.Ta.Invariant
import TrustChain.Ta.Atomicity
import TrustChain.Ta.LatestHash
import TrustChain.Ta.History
import TrustChain.Ta.Serialization
import TrustChain.Ta.Commitment
import TrustChain.Ta.Founder
import TrustChain.Ta.Authority
import TrustChain.Spec.Membership
import TrustChain.Ta.Audit
import TrustChain.Ta.BlockMemory
import TrustChain.Ta.KeyIdentity
import TrustChain.Ta.RequestText
import TrustChain.Ta.KeySets
import TrustChain.Ta.Table
import TrustChain.Ta.Heights
import TrustChain.Ta.Isolation
import TrustChain.Ta.Resending
import TrustChain.Ta.Belonging
import TrustChain.Host.Client
import TrustChain.Host.Main
import TrustChain.Host.Translation
import TrustChain.Host.Transparency
import TrustChain.Ta.HexMemory
import TrustChain.Ta.KeyReturn
import TrustChain.Ta.OwnSignatures
import TrustChain.Ta.SignatureFields
import TrustChain.Ta.Metadata
import TrustChain.Ta.MetadataLayout
import TrustChain.Library.Base64
import TrustChain.Ta.PemExport
import TrustChain.Ta.PemImport
import TrustChain.Library.JsonText
import TrustChain.Host.InitRepoAnswer
import TrustChain.Ta.ReturnedBlock
import TrustChain.Library.CheckedMemory
import TrustChain.Ta.CheckedCommands
import TrustChain.Ta.CheckedInput
import TrustChain.Library.Format
import TrustChain.Ta.FormattedText
import TrustChain.Library.Heap
import TrustChain.Ta.KeyListMemory
import TrustChain.Spec.KeyBag
import TrustChain.Ta.KeyBag
import TrustChain.Library.Handles
import TrustChain.Tee.Handles
import TrustChain.Ta.HandleUse
import TrustChain.Host.HttpRequest
import TrustChain.Library.Ownership
import TrustChain.Ta.KeyListHeaps
import TrustChain.Ta.RepositoryMemory
import TrustChain.Ta.MemoryLayout
import TrustChain.Ta.MemoryRefinement
import TrustChain.Ta.MemoryCreation
import TrustChain.Ta.MemoryRuns
import TrustChain.Host.Service
import TrustChain.Host.Conversation
import TrustChain.Host.Parties
import TrustChain.Host.ServiceRuns
import TrustChain.Host.ServiceEffects
import TrustChain.Library.HandleRuns
import TrustChain.Ta.CommandHandles
import TrustChain.Library.Instances
import TrustChain.Ta.Sessions
import TrustChain.Ta.SessionKeys
import TrustChain.Ta.Auditor
import TrustChain.Library.Overwriting
import TrustChain.Ta.StackBytes
import TrustChain.Host.Determinacy
