import StatePort.Python.Basic

/-!
# The quota engine

`packages/quota-engine/src/quota_engine/engine.py`: the limits of a subject, what the subject has
used, and the decision whether one more operation is admitted.
-/

namespace StatePort.Quota

/-- The limits of a subject; `__post_init__` admits only finite, non-negative ones. -/
structure QuotaPolicy where
  (runsPerDay messagesPerDay : Option ℕ)
  monthlyEuroEstimate : Option ℚ≥0
deriving DecidableEq

structure UsageSnapshot where
  (runsToday messagesToday : ℕ)
  monthlyEuroEstimate : ℚ≥0

structure QuotaDecision where
  allowed : Bool
  (code reason : String)
  usage : UsageSnapshot
  limits : QuotaPolicy

/-- `limit is not None and current >= limit`. -/
def exhausted (limit : Option ℕ) (current : ℕ) : Prop := ∃ l ∈ limit, l ≤ current

instance (limit : Option ℕ) (current : ℕ) : Decidable (exhausted limit current) :=
  inferInstanceAs (Decidable (∃ l ∈ limit, l ≤ current))

/-- `limit is not None and current + cost > limit`. -/
def exceeded (limit : Option ℚ≥0) (current cost : ℚ≥0) : Prop := ∃ l ∈ limit, l < current + cost

instance (limit : Option ℚ≥0) (current cost : ℚ≥0) : Decidable (exceeded limit current cost) :=
  inferInstanceAs (Decidable (∃ l ∈ limit, l < current + cost))

/-- `QuotaEngine(policy).evaluate(usage, operation=…, estimated_cost=…)`. -/
def evaluate (policy : QuotaPolicy) (usage : UsageSnapshot) (operation : String)
    (estimatedCost : Number) : QuotaDecision :=
  if Str.strip operation = "" then
    ⟨false, "invalid_operation", "operation is required", usage, policy⟩
  else match estimatedCost.nonneg? with
  | none => ⟨false, "invalid_cost", "estimated cost must be non-negative", usage, policy⟩
  | some cost =>
    if exhausted policy.runsPerDay usage.runsToday then
      ⟨false, "quota_exceeded", "runs quota exhausted", usage, policy⟩
    else if exhausted policy.messagesPerDay usage.messagesToday then
      ⟨false, "quota_exceeded", "messages quota exhausted", usage, policy⟩
    else if exceeded policy.monthlyEuroEstimate usage.monthlyEuroEstimate cost then
      ⟨false, "quota_exceeded", "monthly cost quota would be exceeded", usage, policy⟩
    else
      ⟨true, "allowed", "quota available", usage, policy⟩

/-- What an admitting decision has checked. -/
lemma evaluate_allowed_iff {policy : QuotaPolicy} {usage : UsageSnapshot} {operation : String}
    {estimatedCost : Number} :
    (evaluate policy usage operation estimatedCost).allowed ↔
      Str.strip operation ≠ "" ∧ ¬ exhausted policy.runsPerDay usage.runsToday ∧
        ¬ exhausted policy.messagesPerDay usage.messagesToday ∧
        ∃ cost ∈ estimatedCost.nonneg?,
          ¬ exceeded policy.monthlyEuroEstimate usage.monthlyEuroEstimate cost := by
  unfold evaluate
  by_cases hop : Str.strip operation = ""
  · simp [hop]
  · cases hcost : estimatedCost.nonneg? with
    | none => simp [hop]
    | some cost =>
      simp only [if_neg hop]
      split_ifs <;> simp_all

end StatePort.Quota
