import PipelineAudit.Analysis.Metrics

/-!
# Costs

A linear model of the monthly cost of a pipeline: so much for each job and each step, and a fixed
amount for storage and network.
-/

namespace PipelineAudit

/-- The parts of the monthly cost. -/
structure CostBreakdown where
  compute : Nat := 0
  storage : Nat := 0
  network : Nat := 0
  other : Nat := 0
  deriving DecidableEq

/-- The monthly cost of a pipeline, and what optimizing it could save. -/
structure CostEstimation where
  current : Rat := 0
  optimized : Rat := 0
  savings : Rat := 0
  savingsPercentage : Int := 0
  recommendations : List String := []
  breakdown : CostBreakdown := {}
  deriving DecidableEq

namespace CostEstimation

open Decimal

/-- The cost of a job. -/
def perJob : Nat := 10

/-- The cost of a step. -/
def perStep : Nat := 2

/-- The cost of storage. -/
def storage : Nat := 5

/-- The cost of the network. -/
def network : Nat := 2

/-- The part of the cost that remains after optimizing. -/
def optimizedFactor : Rat := nearest (7 / 10)

/-- Advice on costs. -/
def advice : List String := [
  "Use caching to reduce build times",
  "Optimize matrix builds to avoid redundancy",
  "Use appropriate runner sizes for workloads",
  "Implement conditional job execution",
  "Use path-based triggers to reduce unnecessary builds"]

/-- The cost of the jobs and steps of a document. -/
def compute (document : Document) (platform : String) : Nat :=
  perJob * Measure.countJobs document platform + perStep * Measure.countSteps document

/-- The estimate for a document. -/
def of (document : Document) (platform : String) : CostEstimation :=
  let compute := compute document platform
  let current : Rat := (compute + storage + network : Nat)
  let optimized := nearest (current * optimizedFactor)
  let savings := nearest (current - optimized)
  { current := current
    optimized := optimized
    savings := savings
    savingsPercentage := roundHalfUp (nearest (nearest (savings / current) * 100))
    recommendations := advice
    breakdown := { compute := compute, storage := storage, network := network } }

end CostEstimation

end PipelineAudit
