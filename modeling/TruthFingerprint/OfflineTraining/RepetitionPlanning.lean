import Mathlib
import TruthFingerprint.Lib.LeastSearch
import TruthFingerprint.Lib.Loops

/-!
# Planning of repetitions

How many trials make the half-width of an interval small enough, as the dispersion of pilot trials
projects it. The half-width of a number of trials and the sample deviation are parameters, and the
arithmetic is that of an ordered field.
-/

namespace TruthFingerprint.OfflineTraining

open LeastSearch

local instance atLeastTwo_planning : Nat.AtLeastTwo 10 := ⟨by decide⟩

variable {K : Type} [Field K] [LinearOrder K]

/-- What the planning uses beyond arithmetic -/
structure PrecisionModel (K : Type) where
  /-- `prospective_half_width`, at a level of confidence -/
  halfWidth : K → K → ℕ → K
  /-- `stdev` -/
  stdev : List K → K

inductive PlanningError where
  | value (message : String)
  | arithmetic (message : String)
deriving DecidableEq

structure RepetitionPlan (K : Type) where
  pilotTrials : ℕ
  pilotTrialsExpected : Option ℤ
  finitePilotTrials : ℕ
  allRequiredPilotOutcomesFinite : Bool
  planningDeterminate : Bool
  observedSd : Option K
  targetCiHalfWidth : K
  confidenceLevel : K
  minimum : ℤ
  maximum : ℤ
  uncappedRequiredTrials : Option ℕ
  recommendedTotalTrials : Option ℤ
  fixedExecutionTrials : Option ℤ
  scheduledExecutionTrials : Option ℤ
  scheduledCapReached : Option Bool
  projectedCiHalfWidthAtCap : Option K
  projectedCiHalfWidthAtRecommended : Option K
  precisionTargetProjectedMetAtCap : Option Bool
  precisionTargetProjectedMet : Option Bool
  maximumCapBinding : Option Bool
  reason : String

/-- The greatest number of trials that is supported -/
def trialCap : ℕ := 2147483647

/-- What the planning of valid arguments comes to: the trials that are needed without the cap, those
that are recommended, and why -/
structure Projection where
  uncappedRequired : Option ℕ
  recommended : Option ℤ
  reason : String

section Plan

variable (model : PrecisionModel K) (pilotValues : List (Option K))
  (targetHalfWidth confidenceLevel : K) (minimum maximum : ℤ)
  (requiredPilotTrials fixedExecutionTrials : Option ℤ)

/-- Whether so many trials have a half-width within the target -/
def withinTarget (sampleSd : K) (trials : ℕ) : Bool :=
  model.halfWidth confidenceLevel sampleSd trials ≤ targetHalfWidth

def prospectiveRequiredTrials (sampleSd : K) : Except PlanningError ℕ :=
  if sampleSd = 0 then .ok 2
  else
    match leastFrom (withinTarget model targetHalfWidth confidenceLevel sampleSd) trialCap 2
      two_pos with
    | some trials => .ok trials
    | none =>
      .error (.arithmetic "Prospective repetition need exceeds the supported integer range.")

/-- `clean`: the finite pilot values. A value is none when it is missing or not finite. -/
def cleanValues : List K := pilotValues.filterMap id

def requiredOutcomesFinite : Bool :=
  requiredPilotTrials.all fun required => (pilotValues.length : ℤ) = required &&
    ((cleanValues pilotValues).length : ℤ) = required

def indeterminateReason : String :=
  match requiredPilotTrials with
  | some required =>
    s!"precision planning is indeterminate: all {required} pilot primary outcomes must be " ++
      "present and finite"
  | none => "fewer than two valid pilot trials"

def determinateReason (observedSd : K) (uncappedRequired : ℕ) : String :=
  if observedSd = 0 ∧ fixedExecutionTrials.isSome then
    "pilot variance was zero; fixed confirmatory cap remains unchanged"
  else if observedSd = 0 then "pilot variance was zero; minimum repetition floor retained"
  else if maximum < uncappedRequired then
    "prospective Student-t precision calculation from pilot SD; frozen cap " ++
      "binds before the target width but does not adapt execution"
  else if fixedExecutionTrials.isSome then
    "prospective Student-t precision calculation from pilot SD; execution remains fixed"
  else "Student-t precision calculation from pilot SD"

def projection : Except PlanningError Projection :=
  let clean := cleanValues pilotValues
  if clean.length < 2 ∨ !requiredOutcomesFinite pilotValues requiredPilotTrials then
    .ok ⟨none, if requiredPilotTrials.isSome then none else some maximum,
      indeterminateReason requiredPilotTrials⟩
  else do
    let observedSd := model.stdev clean
    let uncappedRequired ←
      prospectiveRequiredTrials model targetHalfWidth confidenceLevel observedSd
    .ok ⟨some uncappedRequired, some (min (max uncappedRequired minimum) maximum),
      determinateReason maximum fixedExecutionTrials observedSd uncappedRequired⟩

/-- The checks of the arguments -/
def checkArguments : Except PlanningError Unit :=
  if minimum < 2 ∨ maximum < minimum then .error (.value "Require 2 <= minimum <= maximum.")
  else if targetHalfWidth ≤ 0 then .error (.value "target_half_width must be positive.")
  else if ¬(0 < confidenceLevel ∧ confidenceLevel < 1) then
    .error (.value "confidence_level must be strictly between zero and one.")
  else if requiredPilotTrials.any (· < 2) then
    .error (.value "required_pilot_trials must be at least two when supplied.")
  else if fixedExecutionTrials.any (· ≠ maximum) then
    .error (.value "fixed_execution_trials must equal the configured maximum cap.")
  else .ok ()

def deriveRepetitionCount : Except PlanningError (RepetitionPlan K) := do
  checkArguments targetHalfWidth confidenceLevel minimum maximum requiredPilotTrials
    fixedExecutionTrials
  let clean := cleanValues pilotValues
  let planned ← projection model pilotValues targetHalfWidth confidenceLevel minimum maximum
    requiredPilotTrials fixedExecutionTrials
  let observedSd := if clean.length < 2 then none else some (model.stdev clean)
  let projectedAt (trials : ℤ) : Option K := planned.uncappedRequired.map fun _ =>
    model.halfWidth confidenceLevel (model.stdev clean) trials.toNat
  let atRecommended := planned.recommended.bind projectedAt
  let met (width : K) : Bool := width ≤ targetHalfWidth + 1 / 10 ^ 15
  .ok
    { pilotTrials := pilotValues.length
      pilotTrialsExpected := requiredPilotTrials
      finitePilotTrials := clean.length
      allRequiredPilotOutcomesFinite := requiredOutcomesFinite pilotValues requiredPilotTrials
      planningDeterminate := planned.uncappedRequired.isSome
      observedSd
      targetCiHalfWidth := targetHalfWidth
      confidenceLevel, minimum, maximum
      uncappedRequiredTrials := planned.uncappedRequired
      recommendedTotalTrials := planned.recommended
      fixedExecutionTrials
      scheduledExecutionTrials := fixedExecutionTrials.or planned.recommended
      scheduledCapReached :=
        match fixedExecutionTrials with
        | some fixed => some (fixed = maximum)
        | none => planned.recommended.map (· = maximum)
      projectedCiHalfWidthAtCap := projectedAt maximum
      projectedCiHalfWidthAtRecommended := atRecommended
      precisionTargetProjectedMetAtCap := (projectedAt maximum).map met
      precisionTargetProjectedMet := atRecommended.map met
      maximumCapBinding := planned.uncappedRequired.map fun required => maximum < required
      reason := planned.reason }

end Plan

/-! ## The least sufficient number -/

section Least

variable {model : PrecisionModel K} {pilotValues : List (Option K)}
  {targetHalfWidth confidenceLevel : K} {minimum maximum : ℤ}
  {requiredPilotTrials fixedExecutionTrials : Option ℤ} {sampleSd : K} {n : ℕ}

/-- The half-width does not increase with the number of trials. -/
def Narrowing (model : PrecisionModel K) (confidenceLevel sampleSd : K) : Prop :=
  ∀ m n, 2 ≤ m → m ≤ n →
    model.halfWidth confidenceLevel sampleSd n ≤ model.halfWidth confidenceLevel sampleSd m

omit [Field K] in
theorem upwardFrom_withinTarget (h : Narrowing model confidenceLevel sampleSd) :
    UpwardFrom 2 (withinTarget model targetHalfWidth confidenceLevel sampleSd) := by
  intro m n hm hmn hwithin
  exact decide_eq_true ((h m n hm hmn).trans (of_decide_eq_true hwithin))

/-- Beyond the supported range a number is missing when that of the range is not enough. -/
theorem prospectiveRequiredTrials_error (hsd : sampleSd ≠ 0)
    (h : Narrowing model confidenceLevel sampleSd)
    (hcap : targetHalfWidth < model.halfWidth confidenceLevel sampleSd trialCap) :
    prospectiveRequiredTrials model targetHalfWidth confidenceLevel sampleSd =
      .error (.arithmetic "Prospective repetition need exceeds the supported integer range.") := by
  have hupward : UpwardFrom 2 (withinTarget model targetHalfWidth confidenceLevel sampleSd) :=
    upwardFrom_withinTarget h
  have hle : 2 ≤ trialCap := by decide
  have hnone : leastFrom (withinTarget model targetHalfWidth confidenceLevel sampleSd) trialCap 2
      two_pos = none :=
    (leastFrom_eq_none_iff hle hupward).mpr
      fun hwithin => (of_decide_eq_true hwithin).not_gt hcap
  rw [prospectiveRequiredTrials, if_neg hsd, hnone]

theorem prospectiveRequiredTrials_least (hsd : sampleSd ≠ 0)
    (h : Narrowing model confidenceLevel sampleSd)
    (hcap : model.halfWidth confidenceLevel sampleSd trialCap ≤ targetHalfWidth) :
    ∃ n, prospectiveRequiredTrials model targetHalfWidth confidenceLevel sampleSd = .ok n ∧
      2 ≤ n ∧ model.halfWidth confidenceLevel sampleSd n ≤ targetHalfWidth ∧
      ∀ m, 2 ≤ m → m < n → targetHalfWidth < model.halfWidth confidenceLevel sampleSd m := by
  have hupward : UpwardFrom 2 (withinTarget model targetHalfWidth confidenceLevel sampleSd) :=
    upwardFrom_withinTarget h
  have hle : 2 ≤ trialCap := by decide
  cases hleast : leastFrom (withinTarget model targetHalfWidth confidenceLevel sampleSd) trialCap 2
      two_pos with
  | none => exact absurd (decide_eq_true hcap) ((leastFrom_eq_none_iff hle hupward).mp hleast)
  | some n =>
    obtain ⟨hfrom, henough, hbelow⟩ := leastFrom_eq_some hle hupward hleast
    refine ⟨n, ?_, hfrom, of_decide_eq_true henough, fun m hm hlt => ?_⟩
    · rw [prospectiveRequiredTrials, if_neg hsd, hleast]
    · exact not_le.mp fun hwithin => hbelow m hm hlt (decide_eq_true hwithin)

/-- The recommendation is the least sufficient number of trials within the bounds. The planning
raises when the greatest supported number is not enough. -/
theorem deriveRepetitionCount_least (model : PrecisionModel K) (pilotValues : List (Option K))
    (targetHalfWidth confidenceLevel : K) (minimum maximum : ℤ)
    (requiredPilotTrials fixedExecutionTrials : Option ℤ)
    (hchecked : checkArguments targetHalfWidth confidenceLevel minimum maximum requiredPilotTrials
      fixedExecutionTrials = .ok ())
    (hclean : 2 ≤ (cleanValues pilotValues).length)
    (hrequired : requiredOutcomesFinite pilotValues requiredPilotTrials)
    (hsd : 0 < model.stdev (cleanValues pilotValues))
    (hnarrowing : Narrowing model confidenceLevel (model.stdev (cleanValues pilotValues))) :
    let width := model.halfWidth confidenceLevel (model.stdev (cleanValues pilotValues))
    let planned := deriveRepetitionCount model pilotValues targetHalfWidth confidenceLevel minimum
      maximum requiredPilotTrials fixedExecutionTrials
    (targetHalfWidth < width trialCap → planned = .error (.arithmetic
      "Prospective repetition need exceeds the supported integer range.")) ∧
    (width trialCap ≤ targetHalfWidth → ∃ plan n, planned = .ok plan ∧
      plan.uncappedRequiredTrials = some n ∧ 2 ≤ n ∧ width n ≤ targetHalfWidth ∧
      (∀ m, 2 ≤ m → m < n → targetHalfWidth < width m) ∧
      plan.recommendedTotalTrials = some (min (max (n : ℤ) minimum) maximum)) := by
  intro width planned
  have hdeterminate : ¬((cleanValues pilotValues).length < 2 ∨
      !requiredOutcomesFinite pilotValues requiredPilotTrials) := by
    rw [hrequired]
    rintro (hfew | hmissing)
    · exact hclean.not_gt hfew
    · cases hmissing
  refine ⟨fun hcap => ?_, fun hcap => ?_⟩
  · have herror := prospectiveRequiredTrials_error hsd.ne' hnarrowing hcap
    have hprojection : projection model pilotValues targetHalfWidth confidenceLevel minimum maximum
        requiredPilotTrials fixedExecutionTrials = .error (.arithmetic
          "Prospective repetition need exceeds the supported integer range.") := by
      rw [projection, if_neg hdeterminate]
      dsimp only
      rw [herror]
      rfl
    change deriveRepetitionCount _ _ _ _ _ _ _ _ = _
    rw [deriveRepetitionCount, hchecked, hprojection]
    rfl
  · obtain ⟨n, hn, hfrom, hwithin, hbelow⟩ :=
      prospectiveRequiredTrials_least hsd.ne' hnarrowing hcap
    have hprojection : projection model pilotValues targetHalfWidth confidenceLevel minimum maximum
        requiredPilotTrials fixedExecutionTrials = .ok ⟨some n,
          some (min (max (n : ℤ) minimum) maximum), determinateReason maximum fixedExecutionTrials
            (model.stdev (cleanValues pilotValues)) n⟩ := by
      rw [projection, if_neg hdeterminate]
      dsimp only
      rw [hn]
      rfl
    exact ⟨_, n, Except.bind_eq_ok.mpr ⟨(), hchecked, Except.bind_eq_ok.mpr
      ⟨_, hprojection, rfl⟩⟩, rfl, hfrom, hwithin, hbelow, rfl⟩

/-- A model where the half-width falls with the number of trials, and the deviation is that of the
trials below -/
def samplePrecision : PrecisionModel ℚ where
  halfWidth _ sampleSd trials := 4 * sampleSd / trials
  stdev _ := 1

def samplePilots : List (Option ℚ) := [some (-1), some 0, some 1]

theorem samplePrecision_narrowing : Narrowing samplePrecision (19 / 20) 1 := by
  intro m n hm hmn
  have hpos : (0 : ℚ) < m := by exact_mod_cast (by omega : 0 < m)
  have hle : (m : ℚ) ≤ n := by exact_mod_cast hmn
  change 4 * (1 : ℚ) / n ≤ 4 * 1 / m
  gcongr

theorem samplePilots_planned :
    let planned := deriveRepetitionCount samplePrecision samplePilots (1 / 2) (19 / 20) 5 30 none none
    ∃ plan n, planned = .ok plan ∧ plan.uncappedRequiredTrials = some n ∧ 2 ≤ n ∧
      samplePrecision.halfWidth (19 / 20) 1 n ≤ 1 / 2 ∧
      (∀ m, 2 ≤ m → m < n → 1 / 2 < samplePrecision.halfWidth (19 / 20) 1 m) ∧
      plan.recommendedTotalTrials = some (min (max (n : ℤ) 5) 30) := by
  intro planned
  refine (deriveRepetitionCount_least samplePrecision samplePilots (1 / 2) (19 / 20) 5 30 none none
    ?_ ?_ rfl ?_ samplePrecision_narrowing).2 ?_
  · decide +kernel
  · decide +kernel
  · exact one_pos
  · change 4 * (1 : ℚ) / trialCap ≤ 1 / 2
    norm_num [trialCap]

end Least

end TruthFingerprint.OfflineTraining
