import PostfixCalculator.Main
import PostfixCalculator.Proofs.BalancedGroup
import PostfixCalculator.Proofs.Constants
import PostfixCalculator.Proofs.CursorOperations
import PostfixCalculator.Proofs.Diagnosis
import PostfixCalculator.Proofs.EvaluationOutcome
import PostfixCalculator.Proofs.Invocation
import PostfixCalculator.Proofs.ReleaseOrder
import PostfixCalculator.Proofs.Renaming
import PostfixCalculator.Proofs.RunningAccount
import PostfixCalculator.Proofs.TextCalculation
import PostfixCalculator.Proofs.TokenPlaces
import PostfixCalculator.Proofs.WaitingRanks
import PostfixCalculator.Proofs.Concatenation
import PostfixCalculator.Proofs.Benchmark
import PostfixCalculator.Proofs.LogProgress
import PostfixCalculator.Proofs.Listing
import PostfixCalculator.Proofs.LookAhead
import PostfixCalculator.Proofs.LastInFirstOut
