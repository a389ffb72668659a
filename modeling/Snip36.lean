import Snip36.Artifacts.Bundle
import Snip36.Artifacts.Provers
import Snip36.Artifacts.Runner
import Snip36.Artifacts.Worker
import Snip36.CoinFlip.CommitReveal
import Snip36.CoinFlip.Deployment
import Snip36.CoinFlip.Flips
import Snip36.CoinFlip.HonestReveal
import Snip36.CoinFlip.Predictability
import Snip36.Nonces.Numbering
import Snip36.Npm.BrowserProofs
import Snip36.Npm.Building
import Snip36.Npm.CallTarget
import Snip36.Npm.Workers
import Snip36.Playground.BlockFiles
import Snip36.Playground.FactsFile
import Snip36.Playground.InvokeBlock
import Snip36.Playground.OneContract
import Snip36.Playground.ProofFiles
import Snip36.Playground.ReferenceBlock
import Snip36.Playground.SessionFiles
import Snip36.Playground.Signer
import Snip36.Playground.SncastOutput
import Snip36.Proving.BlockPinning
import Snip36.Proving.Fees
import Snip36.Proving.LegacyProof
import Snip36.Rpc.Answers
import Snip36.Rpc.Concurrency
import Snip36.Rpc.Responses
import Snip36.Rpc.ServiceConfig
import Snip36.Running.Classes
import Snip36.Running.CompleteHints
import Snip36.Running.OsHints
import Snip36.Running.Prefetch
import Snip36.Signing.Agreement
import Snip36.Signing.Packing
import Snip36.StorageProofs.Alignment
import Snip36.StorageProofs.Coverage
import Snip36.StorageProofs.FactsDbClosure
import Snip36.StorageProofs.Offline
import Snip36.StorageProofs.Query
import Snip36.StorageProofs.Records
import Snip36.StorageProofs.StateDiffs
import Snip36.StorageProofs.Strictness
import Snip36.StorageProofs.TrieReads
import Snip36.Streams.ChainIds
import Snip36.Streams.FlipVerdict
import Snip36.Streams.GamePage
import Snip36.Streams.Increments
import Snip36.Streams.Outcomes
import Snip36.Streams.Play
import Snip36.Streams.ProveBlock
import Snip36.Streams.ProverLines
import Snip36.Streams.Receipts
import Snip36.Streams.Results
import Snip36.Support.Base64
import Snip36.Support.Grouping
import Snip36.Support.IndexMap
import Snip36.Support.Joining
