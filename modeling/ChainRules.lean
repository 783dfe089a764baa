import ChainRules.Block.Hasher
import ChainRules.Config
import ChainRules.Json.Print
import ChainRules.Json.Resolve
import ChainRules.Proofs.Chain.Ratchet
import ChainRules.Proofs.Difficulty.Ancestors
import ChainRules.Proofs.Difficulty.Limit
import ChainRules.Proofs.Difficulty.Monotone
import ChainRules.Proofs.Difficulty.Swing
import ChainRules.Proofs.Json.DataModel
import ChainRules.Proofs.SoftFork.Activation
import ChainRules.Proofs.Work.Decoding
import ChainRules.Proofs.Work.NormalForm
import ChainRules.Simulation.Session
import ChainRules.SoftFork.Form
import ChainRules.Work.Reading
import ChainRules.Proofs.Difficulty.Arithmetic
import ChainRules.Proofs.Work.Spacing
import ChainRules.Proofs.Difficulty.Neutral
import ChainRules.Proofs.Difficulty.MedianTime
import ChainRules.Proofs.Difficulty.Minority
import ChainRules.Proofs.SoftFork.Refill
import ChainRules.Proofs.Block.Serialization
import ChainRules.Proofs.Parameters.Merging
import ChainRules.Proofs.Parameters.Genesis
import ChainRules.Proofs.Block.ProofOfWork
import ChainRules.Proofs.Difficulty.Footprint
import ChainRules.Proofs.Parameters.Configuration
import ChainRules.Proofs.SoftFork.Monotone
import ChainRules.Proofs.Json.Grammar
import ChainRules.Proofs.Parameters.ConfigurationGrammar
import ChainRules.Proofs.Block.PutHistory
import ChainRules.Proofs.Work.Conversions
import ChainRules.Proofs.Text.TargetText
