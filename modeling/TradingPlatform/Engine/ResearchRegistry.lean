import Mathlib.Data.Finset.Card
import TradingPlatform.Lib.JsonText

/-!
# The registry of research trials

`ResearchTrialRegistry` of `strategy_promotion.py`: the definitions of hypotheses, one to a line of a text file that every call
reads again from its start.

The models are pydantic's. What it writes for a trial is JSON in which only control characters are escaped; what it makes
of a line is a parameter that gives back what was written, with the outer whitespace of each text stripped.
-/

namespace TradingPlatform

/-- `ResearchTrial`. -/
structure ResearchTrial where
  hypothesisId : String
  hypothesisFamily : String
  exactChange : String
  economicRationale : String
  developmentPeriod : String
  validationPeriod : String
  finalHoldoutAccessed : Bool := false
  createdBeforeResult : Bool := true
  numberOfPriorTrials : ℕ
  deriving DecidableEq

namespace ResearchTrial

/-- The text fields. -/
def texts (t : ResearchTrial) : List String :=
  [t.hypothesisId, t.hypothesisFamily, t.exactChange, t.economicRationale, t.developmentPeriod, t.validationPeriod]

/-- `model_dump(mode="json")`. -/
def modelDump (t : ResearchTrial) : JsonTree :=
  .obj [("hypothesis_id", .str t.hypothesisId), ("hypothesis_family", .str t.hypothesisFamily),
    ("exact_change", .str t.exactChange), ("economic_rationale", .str t.economicRationale),
    ("development_period", .str t.developmentPeriod), ("validation_period", .str t.validationPeriod),
    ("final_holdout_accessed", .bool t.finalHoldoutAccessed), ("created_before_result", .bool t.createdBeforeResult),
    ("number_of_prior_trials", .int t.numberOfPriorTrials)]

/-- `model_dump_json`. -/
def modelDumpJson (t : ResearchTrial) : List Char := t.modelDump.render false

/-- The trial with each text stripped. -/
def stripped (strip : String → String) (t : ResearchTrial) : ResearchTrial :=
  { t with
    hypothesisId := strip t.hypothesisId
    hypothesisFamily := strip t.hypothesisFamily
    exactChange := strip t.exactChange
    economicRationale := strip t.economicRationale
    developmentPeriod := strip t.developmentPeriod
    validationPeriod := strip t.validationPeriod }

end ResearchTrial

/-- What the library of the models does to a trial. -/
structure TrialModels where
  /-- `str_strip_whitespace`. -/
  strip : String → String
  /-- `model_validate_json`: none when the line is not a trial. -/
  validateJson : List Char → Option ResearchTrial
  strip_strip : ∀ s, strip (strip s) = strip s
  validateJson_dump : ∀ t : ResearchTrial, validateJson t.modelDumpJson = some (t.stripped strip)

/-- `ResearchTrial(...)`. -/
def TrialModels.construct (p : TrialModels) (t : ResearchTrial) : ResearchTrial := t.stripped p.strip

/-! ## Lines -/

/-- The characters `str.splitlines` splits at. -/
def isLineBoundary (c : Char) : Bool :=
  decide (c ∈ ['\n', '\r', '\x0b', '\x0c', '\x1c', '\x1d', '\x1e', '\u0085', '\u2028', '\u2029'])

/-- The text a file is read as: every end of a line is `\n`. -/
def universalNewlines : List Char → List Char
  | [] => []
  | '\r' :: '\n' :: rest => '\n' :: universalNewlines rest
  | c :: rest => (if c = '\r' then '\n' else c) :: universalNewlines rest

/-- `str.splitlines` of a text without `\r\n`. -/
def splitLines : List Char → List (List Char)
  | [] => []
  | c :: rest =>
    if isLineBoundary c then [] :: splitLines rest
    else
      match splitLines rest with
      | [] => [[c]]
      | line :: lines => (c :: line) :: lines

/-! ## The registry -/

/-- What stops a call: a check of the source with its message, or a line of the file that is not a trial. -/
inductive RegistryError where
  | valueError (message : String)
  | validationError
  deriving DecidableEq

/-- The file of a registry, absent before the first trial is written. -/
abbrev RegistryFile := Option (List Char)

namespace ResearchTrialRegistry

/-- `MAX_FAMILIES`. -/
def maxFamilies : ℕ := 4

/-- `MAX_VARIANTS_PER_FAMILY`. -/
def maxVariantsPerFamily : ℕ := 2

/-- `MAX_TOTAL_VARIANTS`. -/
def maxTotalVariants : ℕ := 8

/-- `ResearchTrial.model_validate_json(line)`. -/
def modelValidateJson (p : TrialModels) (line : List Char) : Except RegistryError ResearchTrial :=
  match p.validateJson line with
  | some t => .ok t
  | none => .error .validationError

/-- `read_all`. -/
def readAll (p : TrialModels) : RegistryFile → Except RegistryError (List ResearchTrial)
  | none => .ok []
  | some text => ((splitLines (universalNewlines text)).filter fun line => decide (line ≠ [])).mapM (modelValidateJson p)

/-- The families of some trials. -/
def families (trials : List ResearchTrial) : Finset String := (trials.map (·.hypothesisFamily)).toFinset

/-- The trials of one family. -/
def familyTrials (trials : List ResearchTrial) (family : String) : ℕ :=
  trials.countP fun item => decide (item.hypothesisFamily = family)

/-- `register`: what the call returns or raises, and the file after it. -/
def register (p : TrialModels) (trial : ResearchTrial) (file : RegistryFile) : Except RegistryError Unit × RegistryFile :=
  if trial.createdBeforeResult = false then
    (.error (.valueError "research trial must be registered before any result exists"), file)
  else if trial.finalHoldoutAccessed = true then
    (.error (.valueError "final holdout cannot be accessed when registering a hypothesis"), file)
  else
    match readAll p file with
    | .error e => (.error e, file)
    | .ok existing =>
      match existing.find? fun item => decide (item.hypothesisId = trial.hypothesisId) with
      | some sameId =>
        -- The fields are texts, flags and a number, so the dumps are equal when the trials are.
        if sameId ≠ trial then (.error (.valueError "research trial definition is immutable"), file)
        else (.ok (), file)
      | none =>
        if trial.hypothesisFamily ∉ families existing ∧ maxFamilies ≤ (families existing).card then
          (.error (.valueError "research family budget exhausted"), file)
        else if maxVariantsPerFamily ≤ familyTrials existing trial.hypothesisFamily then
          (.error (.valueError "research variant budget exhausted for family"), file)
        else if maxTotalVariants ≤ existing.length then
          (.error (.valueError "total research variant budget exhausted"), file)
        else (.ok (), some (file.getD [] ++ (trial.modelDumpJson ++ ['\n'])))

end ResearchTrialRegistry

/-! ## Runs -/

/-- A registry with the trials it has accepted, in order. -/
structure ResearchRun where
  file : RegistryFile := none
  accepted : List ResearchTrial := []

/-- One call with a newly constructed trial. A definition that is registered again is accepted already. -/
def ResearchRun.step (p : TrialModels) (s : ResearchRun) (t : ResearchTrial) : ResearchRun :=
  let trial := p.construct t
  match ResearchTrialRegistry.register p trial s.file with
  | (.error _, file) => { s with file := file }
  | (.ok (), file) =>
    { file := file
      accepted := if trial.hypothesisId ∈ s.accepted.map (·.hypothesisId) then s.accepted else s.accepted ++ [trial] }

end TradingPlatform
