import TradingPlatform.Lib.Json
import TradingPlatform.Engine.AccountWriter

/-!
# The handoff from validation to forward mode

`forward_validation.py` and `resolve_testnet_forward_authorization`: the validation side freezes a handoff, hashes it and
binds it to the configuration it is written for; the runtime reads the block back out of a configuration snapshot and
checks every hash again.

The models are pydantic's. What pydantic does to one field is a parameter: a text loses its outer whitespace, and a
number, a flag or a moment may be read from more than its own JSON form. Dictionaries of pydantic's `Any` hold JSON values.
-/

namespace TradingPlatform

/-- What the library of the models does to one field. -/
structure Pydantic (Instant : Type) where
  /-- `str_strip_whitespace`. -/
  trim : String → String
  readInt : Json → Option ℤ
  readFloat : Json → Option ℚ
  readBool : Json → Option Bool
  readInstant : Json → Option Instant
  /-- A moment in the JSON form of a model. -/
  isoformat : Instant → String
  trim_trim : ∀ s, trim (trim s) = trim s
  /-- Only whitespace at the ends is taken away. -/
  trim_ends : ∀ s, ∃ before after : List Char, s.toList = before ++ (trim s).toList ++ after ∧
    (∀ c ∈ before, isPythonSpace c = true) ∧ ∀ c ∈ after, isPythonSpace c = true
  readInt_int : ∀ n, readInt (.int n) = some n
  readFloat_float : ∀ q, readFloat (.float q) = some q
  readBool_bool : ∀ b, readBool (.bool b) = some b
  /-- A moment is read back from its JSON form, up to what that form keeps. -/
  readInstant_isoformat : ∀ t, ∃ t', readInstant (.str (isoformat t)) = some t' ∧ isoformat t' = isoformat t

/-- What the two sides of the handoff share. -/
structure ForwardRuntime (Instant : Type) extends Pydantic Instant where
  /-- `hashlib.sha256(json.dumps(value, sort_keys=True, …)).hexdigest()`, the flag for `ensure_ascii`: the text is that of the
  sorted value. -/
  hexdigest : Bool → Json → String
  hexdigest_hex : ∀ ascii v, ∀ c ∈ (hexdigest ascii v).toList, c.isAlphanum = true
  /-- `_strategy_code_hash`: none when a source file of the strategy is unavailable. -/
  strategyCodeHash : String → Option String
  /-- The version of a candidate of the registry. -/
  getCandidate : String → Option String
  /-- `AUTO_PAPER_EXECUTION_SYMBOLS`. -/
  executionSymbols : List String
  /-- `str` of a value read from a dictionary. -/
  str : Option Json → String

variable {Instant : Type}

/-! ## Hashes -/

mutual

/-- `_normalize` of a JSON value: lists are tagged. -/
def normalize : Json → Json
  | .null => .null
  | .bool b => .bool b
  | .int n => .int n
  | .float q => .float q
  | .str s => .str s
  | .list items => .dict [("__type__", .str "list"), ("items", .list (normalizeItems items))]
  | .dict entries => .dict (normalizeValues entries)

def normalizeItems : List Json → List Json
  | [] => []
  | v :: rest => normalize v :: normalizeItems rest

def normalizeValues : List (String × Json) → List (String × Json)
  | [] => []
  | (k, v) :: rest => (k, normalize v) :: normalizeValues rest

end

/-- `canonical_hash` of a dictionary. -/
def canonicalHash (rt : ForwardRuntime Instant) (content : List (String × Json)) : String :=
  rt.hexdigest true (normalize (.dict content)).sorted

/-- `canonical_config_hash`. -/
def canonicalConfigHash (rt : ForwardRuntime Instant) (config : List (String × Json)) : String :=
  "sha256:" ++ rt.hexdigest false (Json.dict config).sorted

/-- `forward_runtime_binding_hash`: the handoff itself is left out. -/
def forwardRuntimeBindingHash (rt : ForwardRuntime Instant) (config : List (String × Json)) : String :=
  canonicalConfigHash rt (Json.erase "forward_validation" config)

/-! ## Errors and reads -/

/-- A refused handoff: a check of the source with its message, or a field the model does not accept. -/
inductive HandoffError where
  | valueError (message : String)
  | fieldError (name : String)
  deriving DecidableEq

section Reads

variable (p : Pydantic Instant) (name : String) (entries : List (String × Json))

def readText : Except HandoffError String :=
  match Json.get name entries with
  | some (.str s) => .ok s
  | _ => .error (.fieldError name)

/-- A text field with a default. -/
def readTextOr (default : String) : Except HandoffError String :=
  match Json.get name entries with
  | none => .ok default
  | some (.str s) => .ok s
  | some _ => .error (.fieldError name)

/-- A field of one of the converted types, absent or present. -/
def readOptional {α : Type} (read : Json → Option α) : Except HandoffError (Option α) :=
  match Json.get name entries with
  | none => .ok none
  | some v =>
    match read v with
    | some a => .ok (some a)
    | none => .error (.fieldError name)

/-- A required field of one of the converted types. -/
def readField {α : Type} (read : Json → Option α) : Except HandoffError α :=
  match (Json.get name entries).bind read with
  | some a => .ok a
  | none => .error (.fieldError name)

/-- `dict[str, Any]`. -/
def asDict : Json → Option (List (String × Json))
  | .dict entries => some entries
  | _ => none

def asText : Json → Option String
  | .str s => some s
  | _ => none

/-- `tuple[str, ...]` of a list. -/
def asTexts : Json → Option (List String)
  | .list items => items.mapM asText
  | _ => none

/-- `dict[str, str]`. -/
def asTextDict : Json → Option (List (String × String))
  | .dict entries => entries.mapM fun e => (asText e.2).map fun s => (e.1, s)
  | _ => none

end Reads

/-! ## Strategy rules -/

structure StrategyRules where
  entryRules : List (String × Json)
  exitRules : List (String × Json)
  stoplossRules : List (String × Json)
  takeprofitRules : List (String × Json)
  positionRules : List (String × Json)

def StrategyRules.fields : List String :=
  ["entry_rules", "exit_rules", "stoploss_rules", "takeprofit_rules", "position_rules"]

/-- One rule block: absent it is empty. -/
def readRuleBlock (p : Pydantic Instant) (name : String) (entries : List (String × Json)) :
    Except HandoffError (List (String × Json)) := do
  let block ← readOptional name entries asDict
  return Json.rekey p.trim (block.getD [])

/-- `StrategyRules(**entries)`. -/
def readStrategyRules (p : Pydantic Instant) (entries : List (String × Json)) : Except HandoffError StrategyRules := do
  if ¬∀ e ∈ entries, e.1 ∈ StrategyRules.fields then throw (.fieldError "strategy_rules")
  let entryRules ← readRuleBlock p "entry_rules" entries
  let exitRules ← readRuleBlock p "exit_rules" entries
  let stoplossRules ← readRuleBlock p "stoploss_rules" entries
  let takeprofitRules ← readRuleBlock p "takeprofit_rules" entries
  let positionRules ← readRuleBlock p "position_rules" entries
  return { entryRules, exitRules, stoplossRules, takeprofitRules, positionRules }

/-- `strategy_rules_hash`. -/
def strategyRulesHash (rt : ForwardRuntime Instant) (rules : StrategyRules) : String :=
  rt.hexdigest true (Json.dict [("entry_rules", .dict rules.entryRules), ("exit_rules", .dict rules.exitRules),
    ("stoploss_rules", .dict rules.stoplossRules), ("takeprofit_rules", .dict rules.takeprofitRules),
    ("position_rules", .dict rules.positionRules)]).sorted

/-! ## The identity of a strategy package -/

structure StrategyPackageIdentity where
  strategyId : String
  strategyVersion : String
  rulesHash : String
  strategyCodeHash : String
  strategyPackageHash : String

def StrategyPackageIdentity.snapshotBinding (identity : StrategyPackageIdentity) : List (String × String) :=
  [("strategy_id", identity.strategyId), ("strategy_version", identity.strategyVersion), ("rules_hash", identity.rulesHash),
    ("strategy_code_hash", identity.strategyCodeHash), ("strategy_package_hash", identity.strategyPackageHash)]

def strategyPackageHash (rt : ForwardRuntime Instant) (strategyId strategyVersion rulesHash codeHash : String) : String :=
  rt.hexdigest true (Json.dict [("rules_hash", .str rulesHash), ("strategy_code_hash", .str codeHash),
    ("strategy_id", .str strategyId), ("strategy_version", .str strategyVersion)]).sorted

/-- `strategy_package_identity`. -/
def strategyPackageIdentity (rt : ForwardRuntime Instant) (strategyId strategyVersion rulesHash : String) :
    Except HandoffError StrategyPackageIdentity :=
  if strategyId = "" ∨ strategyVersion = "" then .error (.valueError "strategy_id and strategy_version are required")
  else if rulesHash.length ≠ 64 then .error (.valueError "rules_hash must be SHA-256")
  else
    match rt.strategyCodeHash strategyId with
    | none => .error (.valueError "strategy source is unavailable")
    | some codeHash =>
      .ok { strategyId, strategyVersion, rulesHash
            strategyCodeHash := codeHash
            strategyPackageHash := strategyPackageHash rt strategyId strategyVersion rulesHash codeHash }

/-! ## The handoff -/

/-- `ForwardDensityMetrics`, with its bounds and `validate_frozen_thresholds`. -/
structure ForwardDensityMetrics where
  eligibleClosedBars : ℤ
  candidateCount : ℤ
  closedTradeCount : ℤ
  closedTradesPerDay : ℚ
  medianInterTradeHours : ℚ
  p90InterTradeHours : ℚ
  estimatedDaysTo30ClosedTrades : ℚ
  targetForwardClosedTrades : ℤ
  maxEstimatedDays : ℚ
  passed : Bool
  counts_nonneg : 0 ≤ eligibleClosedBars ∧ 0 ≤ candidateCount ∧ 0 ≤ closedTradeCount
  rates_nonneg : 0 ≤ closedTradesPerDay ∧ 0 ≤ medianInterTradeHours ∧ 0 ≤ p90InterTradeHours ∧
    0 ≤ estimatedDaysTo30ClosedTrades
  target_frozen : targetForwardClosedTrades = 30
  horizon_frozen : maxEstimatedDays = 60
  passed_eq : passed = decide (estimatedDaysTo30ClosedTrades ≤ maxEstimatedDays)

/-- `model_dump(mode="json")` of the density metrics. -/
def ForwardDensityMetrics.dump (d : ForwardDensityMetrics) : List (String × Json) :=
  [("eligible_closed_bars", .int d.eligibleClosedBars), ("candidate_count", .int d.candidateCount),
    ("closed_trade_count", .int d.closedTradeCount), ("closed_trades_per_day", .float d.closedTradesPerDay),
    ("median_inter_trade_hours", .float d.medianInterTradeHours), ("p90_inter_trade_hours", .float d.p90InterTradeHours),
    ("estimated_days_to_30_closed_trades", .float d.estimatedDaysTo30ClosedTrades),
    ("target_forward_closed_trades", .int d.targetForwardClosedTrades), ("max_estimated_days", .float d.maxEstimatedDays),
    ("passed", .bool d.passed)]

def ForwardDensityMetrics.fields : List String :=
  ["eligible_closed_bars", "candidate_count", "closed_trade_count", "closed_trades_per_day", "median_inter_trade_hours",
    "p90_inter_trade_hours", "estimated_days_to_30_closed_trades", "target_forward_closed_trades", "max_estimated_days", "passed"]

/-- The density metrics of a dictionary. -/
def readDensity (p : Pydantic Instant) (entries : List (String × Json)) : Except HandoffError ForwardDensityMetrics := do
  if ¬∀ e ∈ entries, e.1 ∈ ForwardDensityMetrics.fields then throw (.fieldError "density")
  let eligibleClosedBars ← readField "eligible_closed_bars" entries p.readInt
  let candidateCount ← readField "candidate_count" entries p.readInt
  let closedTradeCount ← readField "closed_trade_count" entries p.readInt
  let closedTradesPerDay ← readField "closed_trades_per_day" entries p.readFloat
  let medianInterTradeHours ← readField "median_inter_trade_hours" entries p.readFloat
  let p90InterTradeHours ← readField "p90_inter_trade_hours" entries p.readFloat
  let estimatedDaysTo30ClosedTrades ← readField "estimated_days_to_30_closed_trades" entries p.readFloat
  let target ← readOptional "target_forward_closed_trades" entries p.readInt
  let horizon ← readOptional "max_estimated_days" entries p.readFloat
  let passed ← readField "passed" entries p.readBool
  if hcounts : 0 ≤ eligibleClosedBars ∧ 0 ≤ candidateCount ∧ 0 ≤ closedTradeCount then
    if hrates : 0 ≤ closedTradesPerDay ∧ 0 ≤ medianInterTradeHours ∧ 0 ≤ p90InterTradeHours ∧
        0 ≤ estimatedDaysTo30ClosedTrades then
      if htarget : target.getD 30 = 30 then
        if hhorizon : horizon.getD 60 = 60 then
          if hpassed : passed = decide (estimatedDaysTo30ClosedTrades ≤ horizon.getD 60) then
            return { eligibleClosedBars, candidateCount, closedTradeCount, closedTradesPerDay, medianInterTradeHours,
                     p90InterTradeHours, estimatedDaysTo30ClosedTrades, passed
                     targetForwardClosedTrades := target.getD 30
                     maxEstimatedDays := horizon.getD 60
                     counts_nonneg := hcounts
                     rates_nonneg := hrates
                     target_frozen := htarget
                     horizon_frozen := hhorizon
                     passed_eq := hpassed }
          else throw (.valueError "forward density pass does not match estimated collection horizon")
        else throw (.valueError "forward density horizon is frozen at 60 days")
      else throw (.valueError "forward target is frozen at 30 closed trades")
    else throw (.fieldError "density")
  else throw (.fieldError "density")

structure ForwardValidationHandoff (Instant : Type) where
  schemaVersion : String
  status : String
  candidateId : String
  candidateVersion : String
  strategyId : String
  strategyVersion : String
  rulesHash : String
  strategyCodeHash : String
  strategyPackageHash : String
  datasetHash : String
  validationEvidenceRef : String
  validationEvidenceHash : String
  eligibleExecutionSymbols : List String
  strategyRules : List (String × Json)
  runtimeConfigBindingHash : String
  packageIdentity : List (String × String)
  density : ForwardDensityMetrics
  profitabilityRecoveryPassed : Bool
  forwardDensityPassed : Bool
  frozenAt : Instant
  handoffHash : String

namespace ForwardValidationHandoff

/-- The declared fields. -/
def fields : List String :=
  ["schema_version", "status", "candidate_id", "candidate_version", "strategy_id", "strategy_version", "rules_hash",
    "strategy_code_hash", "strategy_package_hash", "dataset_hash", "validation_evidence_ref", "validation_evidence_hash",
    "eligible_execution_symbols", "strategy_rules", "runtime_config_binding_hash", "package_identity", "density",
    "profitability_recovery_passed", "forward_density_passed", "frozen_at", "handoff_hash"]

/-- `model_dump(mode="json")` without the field `handoff_hash`. -/
def content (p : Pydantic Instant) (h : ForwardValidationHandoff Instant) : List (String × Json) :=
  [("schema_version", .str h.schemaVersion), ("status", .str h.status), ("candidate_id", .str h.candidateId),
    ("candidate_version", .str h.candidateVersion), ("strategy_id", .str h.strategyId),
    ("strategy_version", .str h.strategyVersion), ("rules_hash", .str h.rulesHash),
    ("strategy_code_hash", .str h.strategyCodeHash), ("strategy_package_hash", .str h.strategyPackageHash),
    ("dataset_hash", .str h.datasetHash), ("validation_evidence_ref", .str h.validationEvidenceRef),
    ("validation_evidence_hash", .str h.validationEvidenceHash),
    ("eligible_execution_symbols", .list (h.eligibleExecutionSymbols.map .str)), ("strategy_rules", .dict h.strategyRules),
    ("runtime_config_binding_hash", .str h.runtimeConfigBindingHash),
    ("package_identity", .dict (Json.mapValues .str h.packageIdentity)), ("density", .dict h.density.dump),
    ("profitability_recovery_passed", .bool h.profitabilityRecoveryPassed),
    ("forward_density_passed", .bool h.forwardDensityPassed), ("frozen_at", .str (p.isoformat h.frozenAt))]

/-- `model_dump(mode="json")`. -/
def dump (p : Pydantic Instant) (h : ForwardValidationHandoff Instant) : List (String × Json) :=
  h.content p ++ [("handoff_hash", .str h.handoffHash)]

/-- The handoff with every text and every key of a dictionary stripped. -/
def stripped (p : Pydantic Instant) (h : ForwardValidationHandoff Instant) : ForwardValidationHandoff Instant :=
  { h with
    schemaVersion := p.trim h.schemaVersion
    status := p.trim h.status
    candidateId := p.trim h.candidateId
    candidateVersion := p.trim h.candidateVersion
    strategyId := p.trim h.strategyId
    strategyVersion := p.trim h.strategyVersion
    rulesHash := p.trim h.rulesHash
    strategyCodeHash := p.trim h.strategyCodeHash
    strategyPackageHash := p.trim h.strategyPackageHash
    datasetHash := p.trim h.datasetHash
    validationEvidenceRef := p.trim h.validationEvidenceRef
    validationEvidenceHash := p.trim h.validationEvidenceHash
    eligibleExecutionSymbols := h.eligibleExecutionSymbols.map p.trim
    strategyRules := Json.rekey p.trim h.strategyRules
    runtimeConfigBindingHash := p.trim h.runtimeConfigBindingHash
    packageIdentity := Json.rekey p.trim (Json.mapValues p.trim h.packageIdentity)
    handoffHash := p.trim h.handoffHash }

/-- `validate_integrity`. -/
def validateIntegrity (rt : ForwardRuntime Instant) (h : ForwardValidationHandoff Instant) : Except HandoffError Unit := do
  if h.schemaVersion ≠ "forward-validation-handoff-v2" then
    throw (.valueError "forward-validation-handoff-v1 is rejected due to circular snapshot binding")
  if h.status ≠ "FORWARD_CANDIDATE_READY" then
    throw (.valueError "forward handoff status must be FORWARD_CANDIDATE_READY")
  if h.candidateId ≠ h.strategyId ∨ h.candidateVersion ≠ h.strategyVersion then
    throw (.valueError "candidate and strategy identities must be exact")
  if h.rulesHash.length ≠ 64 ∨ h.strategyCodeHash.length ≠ 64 ∨ h.strategyPackageHash.length ≠ 64 then
    throw (.valueError "strategy identity hashes must be SHA-256")
  if h.datasetHash.length ≠ 64 ∨ h.validationEvidenceHash.length ≠ 64 then
    throw (.valueError "dataset and validation evidence hashes must be SHA-256")
  if h.eligibleExecutionSymbols = [] ∨ ¬h.eligibleExecutionSymbols.Nodup then
    throw (.valueError "eligible_execution_symbols must be a non-empty unique tuple")
  if h.profitabilityRecoveryPassed = false ∨ h.forwardDensityPassed = false ∨ h.density.passed = false then
    throw (.valueError "only passing profitability and density gates may create a forward handoff")
  let rules ← readStrategyRules rt.toPydantic h.strategyRules
  if strategyRulesHash rt rules ≠ h.rulesHash then
    throw (.valueError "forward handoff rules hash mismatch")
  if Json.sortEntries h.packageIdentity ≠ Json.sortEntries [("strategy_id", h.strategyId),
      ("strategy_version", h.strategyVersion), ("rules_hash", h.rulesHash), ("strategy_code_hash", h.strategyCodeHash),
      ("strategy_package_hash", h.strategyPackageHash)] then
    throw (.valueError "forward handoff package identity mismatch")
  if h.handoffHash ≠ canonicalHash rt (h.content rt.toPydantic) then
    throw (.valueError "FORWARD_VALIDATION_HANDOFF_HASH_MISMATCH")

/-- The validation of fields that have their types: texts are stripped, then the handoff is checked as a whole. -/
def validate (rt : ForwardRuntime Instant) (h : ForwardValidationHandoff Instant) :
    Except HandoffError (ForwardValidationHandoff Instant) := do
  validateIntegrity rt (h.stripped rt.toPydantic)
  return h.stripped rt.toPydantic

/-- The fields of a block as they are written there. -/
def readFields (p : Pydantic Instant) (block : List (String × Json)) :
    Except HandoffError (ForwardValidationHandoff Instant) := do
  if ¬∀ e ∈ block, e.1 ∈ fields then throw (.fieldError "forward_validation")
  let schemaVersion ← readTextOr "schema_version" block "forward-validation-handoff-v2"
  let status ← readTextOr "status" block "FORWARD_CANDIDATE_READY"
  let candidateId ← readText "candidate_id" block
  let candidateVersion ← readText "candidate_version" block
  let strategyId ← readText "strategy_id" block
  let strategyVersion ← readText "strategy_version" block
  let rulesHash ← readText "rules_hash" block
  let strategyCodeHash ← readText "strategy_code_hash" block
  let strategyPackageHash ← readText "strategy_package_hash" block
  let datasetHash ← readText "dataset_hash" block
  let validationEvidenceRef ← readText "validation_evidence_ref" block
  let validationEvidenceHash ← readText "validation_evidence_hash" block
  let eligibleExecutionSymbols ← readField "eligible_execution_symbols" block asTexts
  let strategyRules ← readField "strategy_rules" block asDict
  let runtimeConfigBindingHash ← readText "runtime_config_binding_hash" block
  let packageIdentity ← readField "package_identity" block asTextDict
  let densityEntries ← readField "density" block asDict
  let density ← readDensity p densityEntries
  let profitabilityRecoveryPassed ← readField "profitability_recovery_passed" block p.readBool
  let forwardDensityPassed ← readField "forward_density_passed" block p.readBool
  let frozenAt ← readField "frozen_at" block p.readInstant
  let handoffHash ← readText "handoff_hash" block
  return { schemaVersion, status, candidateId, candidateVersion, strategyId, strategyVersion, rulesHash, strategyCodeHash,
           strategyPackageHash, datasetHash, validationEvidenceRef, validationEvidenceHash, eligibleExecutionSymbols,
           strategyRules, runtimeConfigBindingHash, packageIdentity, density, profitabilityRecoveryPassed,
           forwardDensityPassed, frozenAt, handoffHash }

/-- `ForwardValidationHandoff.model_validate(block)`. -/
def modelValidate (rt : ForwardRuntime Instant) (block : List (String × Json)) :
    Except HandoffError (ForwardValidationHandoff Instant) := do
  let h ← readFields rt.toPydantic block
  validate rt h

end ForwardValidationHandoff

/-! ## The producer -/

structure HandoffInputs (Instant : Type) where
  candidateId : String
  candidateVersion : String
  strategyRules : List (String × Json)
  datasetHash : String
  validationEvidenceRef : String
  validationEvidenceHash : String
  eligibleExecutionSymbols : List String
  density : ForwardDensityMetrics
  /-- `profitability_recovery.eligible`. -/
  profitabilityRecoveryEligible : Bool
  runtimeConfig : List (String × Json)
  frozenAt : Instant

/-- The payload of the handoff, not yet hashed. -/
def HandoffInputs.payload (rt : ForwardRuntime Instant) (i : HandoffInputs Instant) (identity : StrategyPackageIdentity) :
    ForwardValidationHandoff Instant :=
  { schemaVersion := "forward-validation-handoff-v2"
    status := "FORWARD_CANDIDATE_READY"
    candidateId := i.candidateId
    candidateVersion := i.candidateVersion
    strategyId := i.candidateId
    strategyVersion := i.candidateVersion
    rulesHash := identity.rulesHash
    strategyCodeHash := identity.strategyCodeHash
    strategyPackageHash := identity.strategyPackageHash
    datasetHash := i.datasetHash
    validationEvidenceRef := i.validationEvidenceRef
    validationEvidenceHash := i.validationEvidenceHash
    eligibleExecutionSymbols := i.eligibleExecutionSymbols
    strategyRules := i.strategyRules
    runtimeConfigBindingHash := forwardRuntimeBindingHash rt i.runtimeConfig
    packageIdentity := identity.snapshotBinding
    density := i.density
    profitabilityRecoveryPassed := true
    forwardDensityPassed := true
    frozenAt := i.frozenAt
    handoffHash := "" }

/-- `build_forward_validation_handoff`. -/
def buildForwardValidationHandoff (rt : ForwardRuntime Instant) (i : HandoffInputs Instant) :
    Except HandoffError (ForwardValidationHandoff Instant) := do
  if i.profitabilityRecoveryEligible = false then throw (.valueError "PROFITABILITY_RECOVERY_NOT_PASS")
  if i.density.passed = false then throw (.valueError "FORWARD_DENSITY_NOT_PASS")
  if i.datasetHash.length ≠ 64 then throw (.valueError "dataset_hash must be SHA-256")
  if strip i.validationEvidenceRef = "" ∨ i.validationEvidenceHash.length ≠ 64 then
    throw (.valueError "validation evidence reference and SHA-256 are required")
  let rules ← readStrategyRules rt.toPydantic i.strategyRules
  let identity ← strategyPackageIdentity rt i.candidateId i.candidateVersion (strategyRulesHash rt rules)
  let payload := i.payload rt identity
  ForwardValidationHandoff.validate rt
    { payload with handoffHash := canonicalHash rt (payload.content rt.toPydantic) }

/-! ## The consumer -/

structure ProductionAuthorization where
  authorized : Bool
  reason : String
  candidateId : Option String := none
  candidateVersion : Option String := none
  rules : Option StrategyRules := none
  validationEvidenceRef : Option String := none
  approvalIdentity : Option String := none
  approvalTime : Option String := none
  validationEvidenceHash : Option String := none
  datasetHash : Option String := none
  strategyCodeHash : Option String := none
  strategyPackageHash : Option String := none
  configSnapshotHash : Option String := none
  eligibleExecutionSymbols : List String := []

def refused (reason : String) : ProductionAuthorization := { authorized := false, reason }

/-- A text of a dictionary, none where the value is absent or no text. -/
def textOf (name : String) (entries : List (String × Json)) : Option String := (Json.get name entries).bind asText

/-- `entries.get(name) is True`. -/
def isTrue (name : String) (entries : List (String × Json)) : Bool :=
  match Json.get name entries with
  | some (.bool b) => b
  | _ => false

/-- The number a value is compared as. -/
def numberOf (name : String) (entries : List (String × Json)) : Option ℚ :=
  match Json.get name entries with
  | some (.int n) => some n
  | some (.float q) => some q
  | some (.bool b) => some (if b then 1 else 0)
  | _ => none

/-- The strategy of a block whose hashes have been checked: the first refusal, or the rules and the package identity. -/
def authorizeStrategy (rt : ForwardRuntime Instant) (block : List (String × Json)) :
    Except String (StrategyRules × StrategyPackageIdentity) :=
  match textOf "candidate_id" block, textOf "strategy_id" block, textOf "candidate_version" block,
    textOf "strategy_version" block with
  | some candidateId, some strategyId, some candidateVersion, some strategyVersion =>
    if candidateId = "" ∨ strategyId = "" ∨ candidateVersion = "" ∨ strategyVersion = "" then
      .error "FORWARD_VALIDATION_IDENTITY_MISSING"
    else if candidateId ≠ strategyId ∨ candidateVersion ≠ strategyVersion then .error "FORWARD_VALIDATION_IDENTITY_MISMATCH"
    else
      match rt.getCandidate candidateId, (Json.get "strategy_rules" block).bind asDict with
      | some version, some rulesEntries =>
        match readStrategyRules rt.toPydantic rulesEntries with
        | .error _ => .error "FORWARD_VALIDATION_PAYLOAD_INVALID"
        | .ok rules =>
          if version ≠ candidateVersion ∨ rt.str (Json.get "candidate_id" rules.entryRules) ≠ candidateId then
            .error "FORWARD_VALIDATION_IDENTITY_MISMATCH"
          else if textOf "rules_hash" block ≠ some (strategyRulesHash rt rules) then
            .error "FORWARD_VALIDATION_RULES_HASH_MISMATCH"
          else
            match strategyPackageIdentity rt candidateId candidateVersion (strategyRulesHash rt rules) with
            | .error _ => .error "FORWARD_VALIDATION_PAYLOAD_INVALID"
            | .ok identity =>
              -- the declared identity holds the block's own texts, so it equals the computed one when both hashes are these
              if textOf "strategy_code_hash" block ≠ some identity.strategyCodeHash ∨
                  textOf "strategy_package_hash" block ≠ some identity.strategyPackageHash ∨
                  ((Json.get "package_identity" block).bind asTextDict).map Json.sortEntries ≠
                    some (Json.sortEntries identity.snapshotBinding) then
                .error "FORWARD_VALIDATION_PACKAGE_MISMATCH"
              else .ok (rules, identity)
      | _, _ => .error "FORWARD_VALIDATION_PAYLOAD_INVALID"
  | _, _, _, _ => .error "FORWARD_VALIDATION_IDENTITY_MISSING"

/-- The evidence and the gates of a block: the first refusal. -/
def authorizeGates (block : List (String × Json)) : Except String Unit :=
  if (textOf "validation_evidence_ref" block).all (fun s => decide (strip s = "")) = true ∨
      (textOf "validation_evidence_hash" block).map String.length ≠ some 64 ∨
      (textOf "dataset_hash" block).map String.length ≠ some 64 then
    .error "FORWARD_VALIDATION_EVIDENCE_INVALID"
  else if isTrue "profitability_recovery_passed" block = false ∨ isTrue "forward_density_passed" block = false then
    .error "FORWARD_VALIDATION_GATES_NOT_PASS"
  else
    match (Json.get "density" block).bind asDict with
    | none => .error "FORWARD_VALIDATION_DENSITY_NOT_PASS"
    | some density =>
      if isTrue "passed" density = false then .error "FORWARD_VALIDATION_DENSITY_NOT_PASS"
      else if numberOf "target_forward_closed_trades" density ≠ some 30 ∨ numberOf "max_estimated_days" density ≠ some 60 then
        .error "FORWARD_VALIDATION_DENSITY_CONTRACT_MISMATCH"
      else .ok ()

/-- `resolve_testnet_forward_authorization`. -/
def resolveTestnetForwardAuthorization (rt : ForwardRuntime Instant) (snapshotConfig : Option (List (String × Json)))
    (snapshotHash : Option String) (symbol : String) (executionMode : Option String) : ProductionAuthorization :=
  if executionMode ≠ none ∧ executionMode ≠ some "BINANCE_TESTNET" then refused "TESTNET_FORWARD_REQUIRES_BINANCE_TESTNET"
  else
    match snapshotConfig with
    | none => refused "NO_FORWARD_VALIDATION_CANDIDATE"
    | some config =>
      match (Json.get "forward_validation" config).bind asDict with
      | none => refused "NO_FORWARD_VALIDATION_CANDIDATE"
      | some block =>
        if textOf "status" block ≠ some "FORWARD_CANDIDATE_READY" then refused "NO_FORWARD_VALIDATION_CANDIDATE"
        else if textOf "schema_version" block ≠ some "forward-validation-handoff-v2" then
          refused "FORWARD_VALIDATION_V1_REJECTED"
        else
          match ForwardValidationHandoff.modelValidate rt block with
          | .error _ => refused "FORWARD_VALIDATION_PAYLOAD_INVALID"
          | .ok _ =>
            if snapshotHash.getD "" = "" ∨ snapshotHash ≠ some (canonicalConfigHash rt config) then
              refused "FORWARD_VALIDATION_SNAPSHOT_INTEGRITY_MISMATCH"
            else if textOf "runtime_config_binding_hash" block ≠ some (forwardRuntimeBindingHash rt config) then
              refused "FORWARD_VALIDATION_RUNTIME_CONFIG_BINDING_MISMATCH"
            else if isTrue "production_approval" block = true ∨ textOf "authorization_state" block = some "APPROVED" then
              refused "FORWARD_VALIDATION_PRODUCTION_APPROVAL_FORBIDDEN"
            else if (Json.get "eligible_execution_symbols" block).bind asTexts ≠ some rt.executionSymbols ∨
                symbol ∉ rt.executionSymbols then
              refused "FORWARD_VALIDATION_SYMBOL_NOT_ELIGIBLE"
            else
              match authorizeStrategy rt block with
              | .error reason => refused reason
              | .ok (rules, identity) =>
                match authorizeGates block with
                | .error reason => refused reason
                | .ok () =>
                  { authorized := true
                    reason := "TESTNET_FORWARD_AUTHORIZED"
                    candidateId := textOf "candidate_id" block
                    candidateVersion := textOf "candidate_version" block
                    rules := some rules
                    validationEvidenceRef := textOf "validation_evidence_ref" block
                    approvalIdentity := some "forward_validation"
                    approvalTime := some (rt.str (Json.get "frozen_at" block))
                    validationEvidenceHash := textOf "validation_evidence_hash" block
                    datasetHash := textOf "dataset_hash" block
                    strategyCodeHash := some identity.strategyCodeHash
                    strategyPackageHash := some identity.strategyPackageHash
                    configSnapshotHash := snapshotHash
                    eligibleExecutionSymbols := rt.executionSymbols }

end TradingPlatform
