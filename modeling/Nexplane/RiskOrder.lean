import Nexplane.RiskScore

set_option autoImplicit false

/-! The risk levels in their order: the safety score when the targets grow, and the approvals that a
higher and a lower level ask for. -/

namespace Nexplane
open PyValue

def RiskLevel.rank : RiskLevel → Nat
  | .low => 0
  | .medium => 1
  | .high => 2
  | .critical => 3

section Score

/-- The second review is at least as strict as the first one. -/
structure NoSafer (r r' : SafetyReviewResult) : Prop where
  score : r.riskScore ≤ r'.riskScore
  level : r.riskLevel.rank ≤ r'.riskLevel.rank
  issues : ∀ issue ∈ r.blockingIssues, issue ∈ r'.blockingIssues

/-- One more target. -/
def ChangeRequest.target (cr : ChangeRequest) (assetId : Uuid) : ChangeRequest :=
  { cr with targetAssetIds := cr.targetAssetIds ++ [assetId] }

/-- The factor of the first critical asset stands in for the one of all assets of high criticality,
and is smaller than theirs, the other factors of the new asset included. -/
def Outweighed (cr : ChangeRequest) (assets : List Asset) (asset : Asset) : Prop :=
  asset.criticality = "critical" ∧ assetsOf assets "critical" = [] ∧
    35 + (if asset.environment = "prod" then 30 else 0) +
        (if cr.changeType.value = "microsegmentation_policy" ∧ cr.targetAssetIds.length = 10 then 25
          else 0) < 20 * (assetsOf assets "high").length

instance (cr : ChangeRequest) (assets : List Asset) (asset : Asset) :
    Decidable (Outweighed cr assets asset) :=
  inferInstanceAs (Decidable (_ ∧ _ ∧ _))

variable {cr : ChangeRequest} {before after assets : List Asset} {asset : Asset}
  {r r' : SafetyReviewResult}

theorem scoreToLevel_mono {score score' : Nat} (h : score ≤ score') :
    (scoreToLevel score).rank ≤ (scoreToLevel score').rank := by
  unfold scoreToLevel
  split_ifs <;> simp only [RiskLevel.rank] <;> omega

def factorScore (factors : List RiskFactor) : Nat := (factors.map RiskFactor.score).sum

theorem factorScore_append (fs gs : List RiskFactor) :
    factorScore (fs ++ gs) = factorScore fs + factorScore gs := by
  simp [factorScore]

theorem factorScore_assetFactor (name : String) (describe : Nat → String) (weight : Nat)
    (found : List Asset) :
    factorScore (assetFactor name describe weight found) = weight * found.length := by
  cases found with
  | nil => rfl
  | cons asset found => simp [factorScore,assetFactor]

def criticalityScore (critical high : Nat) : Nat :=
  if critical = 0 then 20 * high else 35 * critical

theorem factorScore_assetFactors (assets : List Asset) : factorScore (assetFactors assets) =
    30 * (prodAssets assets).length +
      criticalityScore (assetsOf assets "critical").length (assetsOf assets "high").length := by
  rw [assetFactors,factorScore_append,factorScore_assetFactor,criticalityScore]
  cases hcritical : assetsOf assets "critical" with
  | nil => simp [factorScore_assetFactor]
  | cons asset critical => simp [factorScore_assetFactor]

theorem factorScore_segmentation (cr : ChangeRequest) : factorScore (segmentationFactors cr) =
    if cr.changeType.value = "microsegmentation_policy" then
      if cr.targetAssetIds.length > 10 then 45 else 20 else 0 := by
  unfold segmentationFactors
  split_ifs <;> rfl

/-- What the targets do not change. -/
def fixedScore (cr : ChangeRequest) (command : List RiskFactor) : Nat :=
  factorScore command + if lacksRollback cr then 30 else 0

theorem scoreChangeRequest_parts (h : scoreChangeRequest cr assets = .ok r) (hne : assets ≠ []) :
    ∃ command, commandReview cr = .ok command ∧
      r.riskScore = factorScore (assetFactors assets) + factorScore (segmentationFactors cr) +
        fixedScore cr command.1 ∧
      r.blockingIssues = command.2 ++ if lacksRollback cr ∧
          (prodAssets assets ≠ [] ∨ assetsOf assets "critical" ≠ []) then
        ["A rollback strategy is required for changes targeting production or critical assets."]
        else [] := by
  obtain ⟨command,hcommand,hr⟩ := Checks.bind_eq_ok.mp h
  obtain rfl := Checks.pure_eq_ok.mp hr
  refine ⟨command,hcommand,?_,rfl⟩
  have hempty : assets.isEmpty = false := by simp [hne]
  have hlacking : factorScore (if lacksRollback cr = true then
      [(⟨"no_rollback_strategy","No rollback strategy specified in desired outcome",30⟩ :
        RiskFactor)] else []) = if lacksRollback cr then 30 else 0 := by
    split <;> rfl
  simp only [hempty,Bool.false_eq_true,if_false,← factorScore.eq_def]
  rw [factorScore_append,factorScore_append,factorScore_append,hlacking,fixedScore]
  omega

theorem prodAssets_insert : (prodAssets (before ++ asset :: after)).length =
    (prodAssets (before ++ after)).length + if asset.environment = "prod" then 1 else 0 := by
  by_cases h : asset.environment = "prod" <;> simp [prodAssets,h]
  omega

theorem assetsOf_insert (criticality : String) :
    (assetsOf (before ++ asset :: after) criticality).length =
      (assetsOf (before ++ after) criticality).length +
        if asset.criticality = criticality then 1 else 0 := by
  by_cases h : asset.criticality = criticality <;> simp [assetsOf,h]
  omega

theorem ne_nil_of_length {xs ys : List Asset} (h : xs.length ≤ ys.length) (hne : xs ≠ []) :
    ys ≠ [] := by
  rw [← List.length_pos_iff] at hne ⊢
  omega

/-- The score falls only where the first critical asset stands in for too many others. -/
theorem score_le_iff {command command' : List RiskFactor} (hcommand : command = command') :
    factorScore (assetFactors (before ++ after)) + factorScore (segmentationFactors cr) +
        fixedScore cr command ≤
      factorScore (assetFactors (before ++ asset :: after)) +
        factorScore (segmentationFactors (cr.target asset.id)) +
        fixedScore (cr.target asset.id) command' ↔ ¬Outweighed cr (before ++ after) asset := by
  subst hcommand
  have hfixed : fixedScore (cr.target asset.id) command = fixedScore cr command := rfl
  have hcritical := @assetsOf_insert before after asset "critical"
  have hhigh := @assetsOf_insert before after asset "high"
  have hempty : assetsOf (before ++ after) "critical" = [] ↔
      (assetsOf (before ++ after) "critical").length = 0 := List.length_eq_zero_iff.symm
  have hdisjoint : ¬(asset.criticality = "critical" ∧ asset.criticality = "high") := by
    rintro ⟨hc,hh⟩
    rw [hc] at hh
    exact absurd hh (by decide)
  rw [factorScore_assetFactors,factorScore_assetFactors,factorScore_segmentation,
    factorScore_segmentation,hfixed,prodAssets_insert,hcritical,hhigh,Outweighed,hempty]
  simp only [ChangeRequest.target,List.length_append,List.length_singleton,criticalityScore]
  split_ifs <;> simp_all <;> omega

/-- A change is never reviewed as safer for one more target, unless that is the first critical one
and its factor falls short of those it stands in for. -/
theorem targets_monotone_iff (hne : before ++ after ≠ [])
    (h : scoreChangeRequest cr (before ++ after) = .ok r) :
    (∃ r', scoreChangeRequest (cr.target asset.id) (before ++ asset :: after) = .ok r' ∧
      NoSafer r r') ↔ ¬Outweighed cr (before ++ after) asset := by
  obtain ⟨command,hcommand,hscore,hissues⟩ := scoreChangeRequest_parts h hne
  obtain ⟨r',hr'⟩ : ∃ r', scoreChangeRequest (cr.target asset.id) (before ++ asset :: after) =
      .ok r' := by
    have hcommand' : commandReview (cr.target asset.id) = .ok command := hcommand
    exact ⟨_,by rw [scoreChangeRequest,hcommand']; rfl⟩
  obtain ⟨command',hcommand',hscore',hissues'⟩ := scoreChangeRequest_parts hr' (by simp)
  obtain rfl : command = command' := Except.ok.inj (hcommand.symm.trans hcommand')
  have hiff := @score_le_iff cr before after asset command.1 command.1 rfl
  rw [← hscore,← hscore'] at hiff
  rw [← hiff]
  constructor
  · rintro ⟨r'',hr'',hsafer⟩
    obtain rfl : r' = r'' := Except.ok.inj (hr'.symm.trans hr'')
    exact hsafer.score
  · intro hle
    refine ⟨r',hr',hle,?_,fun issue hissue => ?_⟩
    · rw [scoreChangeRequest_level h,scoreChangeRequest_level hr']
      exact scoreToLevel_mono hle
    · rw [hissues] at hissue
      rw [hissues']
      rcases List.mem_append.mp hissue with hissue | hissue
      · exact List.mem_append_left _ hissue
      · refine List.mem_append_right _ ?_
        split at hissue
        · next hblocked =>
          obtain ⟨hlacks,htargets⟩ := hblocked
          have hprod := @prodAssets_insert before after asset
          have hcritical := @assetsOf_insert before after asset "critical"
          rw [if_pos ⟨hlacks,htargets.imp (ne_nil_of_length (by omega))
            (ne_nil_of_length (by omega))⟩]
          exact hissue
        · cases hissue

def stagingAsset (id criticality : String) : Asset :=
  ⟨id,"org-1",none,id,"server","staging",criticality,.null,[]⟩

def resizeChange : ChangeRequest where
  id := "cr-1"
  organizationId := "org-1"
  requesterId := "u-1"
  changeType := .generic "resize_volume"
  targetAssetIds := ["a","b","c"]
  desiredOutcome := [("rollback_strategy",.str "restore")]
  status := .draft
  riskLevel := none
  changePlan := none
  applicationSequence := none

def highAssets : List Asset := ["a","b","c"].map (stagingAsset · "high")

/-- A fourth asset of high criticality. -/
theorem fourth_high_asset : ∃ r', scoreChangeRequest (resizeChange.target "d")
      (highAssets ++ [stagingAsset "d" "high"]) = .ok r' ∧
    NoSafer ⟨.high,60,[⟨"high_criticality_asset","3 high-criticality asset(s) targeted",60⟩],[],[]⟩
      r' :=
  (@targets_monotone_iff resizeChange highAssets [] (stagingAsset "d" "high") _ (by decide)
    rfl).mpr (by decide)

/-- With a critical asset the risk is medium. -/
theorem critical_asset_safer : ∃ r r', scoreChangeRequest resizeChange highAssets = .ok r ∧
    scoreChangeRequest (resizeChange.target "d") (highAssets ++ [stagingAsset "d" "critical"]) =
      .ok r' ∧
    r'.riskScore < r.riskScore ∧ r.riskLevel = .high ∧ r'.riskLevel = .medium :=
  ⟨_,_,rfl,rfl,by decide,rfl,rfl⟩

end Score

section Requirements

variable {roleOf : Uuid → UserRole} {xs ys : List Approval} {level lower : RiskLevel}

/-- A role that decides a level alone decides every lower one, but for the approver, who decides the
medium level and not the low one. -/
theorem decidesAlone_lower {role : UserRole} (hlower : lower.rank < level.rank)
    (hlevel : level ≠ .medium) (h : decidesAlone level role = true) :
    decidesAlone lower role = true := by
  cases level with
  | low => simp [RiskLevel.rank] at hlower
  | medium => exact absurd rfl hlevel
  | high =>
    obtain rfl := (decidesAlone_of_two .high rfl role).mp h
    exact decidesAlone_admin lower
  | critical =>
    obtain rfl := (decidesAlone_of_two .critical rfl role).mp h
    exact decidesAlone_admin lower

theorem satisfied_low_iff : Satisfied roleOf .low xs ↔
    ∃ a ∈ xs, a.decision = .approved ∧ roleOf a.approverId ∈ [.admin,.securityOperator] := by
  rw [Satisfied,satisfied_iff]
  refine exists_congr fun a => and_congr_right fun _ => and_congr_right fun _ => ?_
  cases roleOf a.approverId <;> decide

/-- What is enough for a level is enough for every lower one, but at the low level an approver
alone is not; and no further decision takes away from what is enough. -/
theorem requirements_ordered (roleOf : Uuid → UserRole) (xs : List Approval) :
    (∀ level lower : RiskLevel, lower.rank < level.rank → level ≠ .medium →
      Satisfied roleOf level xs → Satisfied roleOf lower xs) ∧
    (Satisfied roleOf .medium xs → (Satisfied roleOf .low xs ↔
      ∃ a ∈ xs, a.decision = .approved ∧ roleOf a.approverId ∈ [.admin,.securityOperator])) ∧
    ∀ (level : RiskLevel) (before after : List Approval) (a : Approval), xs = before ++ after →
      Satisfied roleOf level xs → Satisfied roleOf level (before ++ a :: after) := by
  refine ⟨fun level lower hlower hlevel h => ?_,fun _ => satisfied_low_iff,?_⟩
  · obtain ⟨a,ha,hdecision,halone⟩ := (satisfied_iff roleOf level xs).mp h
    exact (satisfied_iff roleOf lower xs).mpr
      ⟨a,ha,hdecision,decidesAlone_lower hlower hlevel halone⟩
  · rintro level before after a rfl h
    refine (satisfied_decisive roleOf level).mono (fun b hb => ?_) h
    rcases List.mem_append.mp hb with hb | hb
    · exact List.mem_append_left _ hb
    · exact List.mem_append_right _ (List.mem_cons_of_mem _ hb)

/-- An approver decides a change of medium risk alone, and not one of low risk. -/
theorem approver_not_low : ¬∀ (roleOf : Uuid → UserRole) (xs : List Approval)
    (level lower : RiskLevel), lower.rank < level.rank → Satisfied roleOf level xs →
    Satisfied roleOf lower xs := by
  intro h
  have hlow :=
    h (fun _ => .approver) [⟨"cr-1","u-1",.approved⟩] .medium .low (by decide) (by decide)
  exact absurd hlow (by decide)

end Requirements

end Nexplane
