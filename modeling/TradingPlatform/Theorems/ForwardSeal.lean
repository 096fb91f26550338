import TradingPlatform.Lemmas.ClientOrderId
import TradingPlatform.Lemmas.ForwardValidation

/-!
# The seal of a forward validation

A configuration with its handoff embedded is authorised under its own hash, and the hash in the handoff settles the rest of it.
-/

namespace TradingPlatform

open ForwardValidationHandoff

variable {Instant : Type}

/-! ## The values that are hashed -/

/-- What `handoff_hash` is a digest of. -/
def ForwardValidationHandoff.sealedForm (p : Pydantic Instant) (h : ForwardValidationHandoff Instant) : Json :=
  (normalize (.dict (h.content p))).sorted

/-- What `runtime_config_binding_hash` is a digest of. -/
def boundForm (config : List (String × Json)) : Json := (Json.dict (Json.erase "forward_validation" config)).sorted

/-- The handoff block of a configuration. -/
def forwardBlock (config : List (String × Json)) : Option (List (String × Json)) :=
  (Json.get "forward_validation" config).bind asDict

/-- The values of a configuration that its authorization hashes for the handoff and for the binding. -/
def sealedValues (rt : ForwardRuntime Instant) (config : List (String × Json)) : Set Json :=
  {v | v = boundForm config ∨ ∃ block h, forwardBlock config = some block ∧ modelValidate rt block = .ok h ∧
    v = h.sealedForm rt.toPydantic}

/-- The two contents the producer hashes: the payload as it was given, and as the model holds it. -/
def HandoffInputs.sealedValues (rt : ForwardRuntime Instant) (i : HandoffInputs Instant) : Set Json :=
  {v | ∃ rules identity, readStrategyRules rt.toPydantic i.strategyRules = .ok rules ∧
    strategyPackageIdentity rt i.candidateId i.candidateVersion (strategyRulesHash rt rules) = .ok identity ∧
    (v = (i.payload rt identity).sealedForm rt.toPydantic ∨
      v = ((i.payload rt identity).stripped rt.toPydantic).sealedForm rt.toPydantic)}

/-- A configuration with a handoff embedded in its JSON form. -/
def embedHandoff (rt : ForwardRuntime Instant) (config : List (String × Json)) (h : ForwardValidationHandoff Instant) :
    List (String × Json) :=
  Json.set "forward_validation" (.dict (h.dump rt.toPydantic)) config

/-- The configuration is authorised under its own hash. -/
def Authorised (rt : ForwardRuntime Instant) (config : List (String × Json)) (symbol : String) (mode : Option String) : Prop :=
  (resolveTestnetForwardAuthorization rt (some config) (some (canonicalConfigHash rt config)) symbol mode).authorized = true

namespace ForwardSealAux

/-! ## Texts without whitespace -/

theorem not_space_of_alphanum {c : Char} (h : c.isAlphanum = true) : isPythonSpace c = false := by
  have hrange : 65 ≤ c.toNat ∧ c.toNat ≤ 90 ∨ 97 ≤ c.toNat ∧ c.toNat ≤ 122 ∨ 48 ≤ c.toNat ∧ c.toNat ≤ 57 := by
    rcases Bool.or_eq_true_iff.mp h with halpha | hdigit
    · rcases Bool.or_eq_true_iff.mp halpha with hupper | hlower
      · have hrange := of_decide_eq_true hupper
        exact .inl hrange
      · have hrange := Bool.and_eq_true_iff.mp hlower
        exact .inr (.inl ⟨of_decide_eq_true hrange.1, of_decide_eq_true hrange.2⟩)
    · have hrange := Bool.and_eq_true_iff.mp hdigit
      exact .inr (.inr ⟨of_decide_eq_true hrange.1, of_decide_eq_true hrange.2⟩)
  unfold isPythonSpace
  rw [decide_eq_false_iff_not]
  omega

/-- A text without whitespace is not stripped. -/
theorem trim_eq_self (p : Pydantic Instant) {s : String} (h : ∀ c ∈ s.toList, isPythonSpace c = false) : p.trim s = s := by
  obtain ⟨before, after, hs, hbefore, hafter⟩ := p.trim_ends s
  have hnil : ∀ cs : List Char, (∀ c ∈ cs, isPythonSpace c = true) → (∀ c ∈ cs, c ∈ s.toList) → cs = [] := by
    intro cs hspace hmem
    refine List.eq_nil_iff_forall_not_mem.mpr fun c hc => ?_
    have hfalse := h c (hmem c hc)
    rw [hspace c hc] at hfalse
    nomatch hfalse
  have hb : before = [] := hnil before hbefore fun c hc => by
    rw [hs, List.mem_append, List.mem_append]
    exact .inl (.inl hc)
  have ha : after = [] := hnil after hafter fun c hc => by
    rw [hs, List.mem_append]
    exact .inr hc
  rw [hb, ha, List.nil_append, List.append_nil] at hs
  exact (String.toList_inj.mp hs).symm

variable {rt : ForwardRuntime Instant}

theorem trim_hexdigest (ascii : Bool) (v : Json) : rt.trim (rt.hexdigest ascii v) = rt.hexdigest ascii v :=
  trim_eq_self rt.toPydantic fun c hc => not_space_of_alphanum (rt.hexdigest_hex ascii v c hc)

theorem trim_canonicalConfigHash (config : List (String × Json)) :
    rt.trim (canonicalConfigHash rt config) = canonicalConfigHash rt config := by
  refine trim_eq_self rt.toPydantic fun c hc => ?_
  unfold canonicalConfigHash at hc
  rw [String.toList_append, List.mem_append] at hc
  rcases hc with hc | hc
  · have hchars : "sha256:".toList = ['s', 'h', 'a', '2', '5', '6', ':'] := rfl
    simp only [hchars, List.mem_cons, List.not_mem_nil, or_false] at hc
    rcases hc with rfl | rfl | rfl | rfl | rfl | rfl | rfl <;> rfl
  · exact not_space_of_alphanum (rt.hexdigest_hex _ _ c hc)

theorem canonicalConfigHash_ne_empty (config : List (String × Json)) : canonicalConfigHash rt config ≠ "" := by
  intro h
  have hlist := congrArg String.toList h
  unfold canonicalConfigHash at hlist
  rw [String.toList_append] at hlist
  nomatch hlist

theorem canonicalConfigHash_inj {c₁ c₂ : List (String × Json)} (h : canonicalConfigHash rt c₁ = canonicalConfigHash rt c₂) :
    rt.hexdigest false (Json.dict c₁).sorted = rt.hexdigest false (Json.dict c₂).sorted := by
  unfold canonicalConfigHash at h
  have hlist := congrArg String.toList h
  rw [String.toList_append, String.toList_append] at hlist
  exact String.toList_inj.mp (List.append_cancel_left hlist)

/-! ## Equal contents -/

/-- Equal digests of two contents, of values the digest tells apart, mean equal fields. -/
theorem content_same {h₁ h₂ : ForwardValidationHandoff Instant} {p : Pydantic Instant}
    (h : h₁.sealedForm p = h₂.sealedForm p) (name : String) :
    (Json.get name (h₁.content p)).map Json.sorted = (Json.get name (h₂.content p)).map Json.sorted :=
  Json.Same.get (NormalizeAux.sorted_of_form _ _ h) name

/-- A text field of equal contents. -/
theorem text_same {h₁ h₂ : ForwardValidationHandoff Instant} {p : Pydantic Instant} (h : h₁.sealedForm p = h₂.sealedForm p)
    (name : String) {s₁ s₂ : String} (hs₁ : Json.get name (h₁.content p) = some (.str s₁))
    (hs₂ : Json.get name (h₂.content p) = some (.str s₂)) : s₁ = s₂ := by
  have hsame := content_same h name
  rw [hs₁, hs₂, Option.map_some, Option.map_some, Json.sorted, Json.sorted] at hsame
  exact Json.str.inj (Option.some.inj hsame)

/-! ## Tampering -/

theorem refused_ne (reason : String) : (refused reason).authorized ≠ true := nofun

/-- One check of the authorization: it was passed, and the rest authorises. -/
theorem refused_step {c : Prop} [Decidable c] {reason : String} {rest : ProductionAuthorization}
    (h : (if c then refused reason else rest).authorized = true) : ¬c ∧ rest.authorized = true := by
  by_cases hc : c
  · rw [if_pos hc] at h
    exact absurd h (refused_ne _)
  · rw [if_neg hc] at h
    exact ⟨hc, h⟩

/-- What an authorised configuration passed: its block is read, and is bound to the rest of the configuration. -/
theorem authorised_reads {config : List (String × Json)} {symbol : String} {mode : Option String}
    (h : Authorised rt config symbol mode) :
    ∃ block handoff, forwardBlock config = some block ∧ modelValidate rt block = .ok handoff ∧
      textOf "runtime_config_binding_hash" block = some (forwardRuntimeBindingHash rt config) := by
  unfold Authorised resolveTestnetForwardAuthorization at h
  obtain ⟨-, h⟩ := refused_step h
  dsimp only at h
  cases hblock : (Json.get "forward_validation" config).bind asDict with
  | none =>
    rw [hblock] at h
    exact absurd h (refused_ne _)
  | some block =>
    rw [hblock] at h
    obtain ⟨-, h⟩ := refused_step h
    obtain ⟨-, h⟩ := refused_step h
    cases hvalid : modelValidate rt block with
    | error e =>
      rw [hvalid] at h
      exact absurd h (refused_ne _)
    | ok handoff =>
      rw [hvalid] at h
      obtain ⟨-, h⟩ := refused_step h
      obtain ⟨hbinding, -⟩ := refused_step h
      exact ⟨block, handoff, hblock, hvalid, not_not.mp hbinding⟩

/-- Two blocks that are read and carry the same handoff hash have the same content, when the digest tells the two
contents apart. -/
theorem sealedForm_eq {block₁ block₂ : List (String × Json)} {h₁ h₂ : ForwardValidationHandoff Instant} {S : Set Json}
    (hfree : Set.InjOn (rt.hexdigest true) S) (hmem₁ : h₁.sealedForm rt.toPydantic ∈ S) (hmem₂ : h₂.sealedForm rt.toPydantic ∈ S)
    (hread₁ : modelValidate rt block₁ = .ok h₁) (hread₂ : modelValidate rt block₂ = .ok h₂)
    (hsame : textOf "handoff_hash" block₁ = textOf "handoff_hash" block₂) :
    h₁.handoffHash = h₂.handoffHash ∧ h₁.sealedForm rt.toPydantic = h₂.sealedForm rt.toPydantic := by
  obtain ⟨hintegrity₁, -, raw₁, hraw₁, hhash₁⟩ := modelValidate_eq_ok hread₁
  obtain ⟨hintegrity₂, -, raw₂, hraw₂, hhash₂⟩ := modelValidate_eq_ok hread₂
  have hraw : raw₁ = raw₂ := Option.some.inj (hraw₁.symm.trans (hsame.trans hraw₂))
  have hhash : h₁.handoffHash = h₂.handoffHash := by rw [hhash₁, hhash₂, hraw]
  refine ⟨hhash, hfree hmem₁ hmem₂ ?_⟩
  have hdigest := hintegrity₁.sealed.symm.trans (hhash.trans hintegrity₂.sealed)
  exact hdigest

/-- The hash of the binding as the model holds it is the hash of the configuration. -/
theorem binding_of_reads {config block : List (String × Json)} {h : ForwardValidationHandoff Instant}
    (hread : modelValidate rt block = .ok h)
    (hbinding : textOf "runtime_config_binding_hash" block = some (forwardRuntimeBindingHash rt config)) :
    h.runtimeConfigBindingHash = forwardRuntimeBindingHash rt config := by
  obtain ⟨-, ⟨raw, hraw, hheld⟩, -⟩ := modelValidate_eq_ok hread
  obtain rfl : raw = forwardRuntimeBindingHash rt config := Option.some.inj (hraw.symm.trans hbinding)
  exact hheld.trans (trim_canonicalConfigHash _)

/-- Two configurations with the same form outside the handoff hold the same under every other key. -/
theorem get_of_boundForm {c₁ c₂ : List (String × Json)} (h : boundForm c₁ = boundForm c₂) {key : String}
    (hkey : key ≠ "forward_validation") :
    (Json.get key c₁).map Json.sorted = (Json.get key c₂).map Json.sorted := by
  have hget := Json.Same.get h key
  rw [Json.get_erase_ne hkey, Json.get_erase_ne hkey] at hget
  exact hget

/-! ## What the producer returns -/

/-- How a handoff was produced: from checked inputs and the identity of its package, stripped and checked as a whole. -/
structure Produced (rt : ForwardRuntime Instant) (i : HandoffInputs Instant) (identity : StrategyPackageIdentity)
    (h : ForwardValidationHandoff Instant) : Prop where
  evidence : strip i.validationEvidenceRef ≠ ""
  rules : ∃ rules, readStrategyRules rt.toPydantic i.strategyRules = .ok rules ∧ strategyRulesHash rt rules = identity.rulesHash
  package : strategyPackageIdentity rt i.candidateId i.candidateVersion identity.rulesHash = .ok identity
  valid : validateIntegrity rt h = .ok ()
  stripped : h = ({ i.payload rt identity with
    handoffHash := canonicalHash rt ((i.payload rt identity).content rt.toPydantic) } :
      ForwardValidationHandoff Instant).stripped rt.toPydantic

theorem strategyPackageIdentity_eq_ok {strategyId strategyVersion rulesHash : String} {identity : StrategyPackageIdentity}
    (h : strategyPackageIdentity rt strategyId strategyVersion rulesHash = .ok identity) :
    strategyId ≠ "" ∧ strategyVersion ≠ "" ∧ identity.strategyId = strategyId ∧ identity.strategyVersion = strategyVersion ∧
      identity.rulesHash = rulesHash := by
  unfold strategyPackageIdentity at h
  split_ifs at h with hnamed hlength
  cases hcode : rt.strategyCodeHash strategyId with
  | none =>
    rw [hcode] at h
    nomatch h
  | some codeHash =>
    rw [hcode] at h
    cases h
    push Not at hnamed
    exact ⟨hnamed.1, hnamed.2, rfl, rfl, rfl⟩

theorem produced_of_build {i : HandoffInputs Instant} {h : ForwardValidationHandoff Instant}
    (hbuild : buildForwardValidationHandoff rt i = .ok h) : ∃ identity, Produced rt i identity h := by
  unfold buildForwardValidationHandoff at hbuild
  obtain ⟨-, hbuild⟩ := Loops.guard_eq_ok.mp hbuild
  obtain ⟨-, hbuild⟩ := Loops.guard_eq_ok.mp hbuild
  obtain ⟨-, hbuild⟩ := Loops.guard_eq_ok.mp hbuild
  obtain ⟨hevidence, hbuild⟩ := Loops.guard_eq_ok.mp hbuild
  obtain ⟨rules, hrules, hbuild⟩ := Loops.bind_eq_ok.mp hbuild
  obtain ⟨identity, hidentity, hbuild⟩ := Loops.bind_eq_ok.mp hbuild
  obtain ⟨⟨⟩, hvalid, hstripped⟩ := Loops.bind_eq_ok.mp hbuild
  have hh := Except.ok.inj hstripped
  push Not at hevidence
  obtain ⟨-, -, -, -, hrulesHash⟩ := strategyPackageIdentity_eq_ok hidentity
  rw [← hrulesHash] at hidentity
  rw [hh] at hvalid
  exact ⟨identity, hevidence.1, ⟨rules, hrules, hrulesHash.symm⟩, hidentity, hvalid, hh.symm⟩

section Produced

variable {i : HandoffInputs Instant} {identity : StrategyPackageIdentity} {h : ForwardValidationHandoff Instant}

theorem Produced.stripped_self (hp : Produced rt i identity h) : h.stripped rt.toPydantic = h := by
  rw [hp.stripped]
  exact stripped_stripped rt.toPydantic _

/-- Nothing that matters was stripped: the digest of the handoff is that of the payload. -/
theorem Produced.sealedForm (hp : Produced rt i identity h) (hfree : Set.InjOn (rt.hexdigest true) (i.sealedValues rt)) :
    h.sealedForm rt.toPydantic = (i.payload rt identity).sealedForm rt.toPydantic := by
  have hheld : h.sealedForm rt.toPydantic = ((i.payload rt identity).stripped rt.toPydantic).sealedForm rt.toPydantic := by
    rw [hp.stripped]
    rfl
  have hhash : h.handoffHash = canonicalHash rt ((i.payload rt identity).content rt.toPydantic) := by
    rw [hp.stripped]
    exact trim_hexdigest true _
  have hdigest : rt.hexdigest true (h.sealedForm rt.toPydantic) =
      rt.hexdigest true ((i.payload rt identity).sealedForm rt.toPydantic) :=
    (integrity_of_validateIntegrity hp.valid).sealed.symm.trans hhash
  obtain ⟨rules, hrules, hrulesHash⟩ := hp.rules
  have hpackage : strategyPackageIdentity rt i.candidateId i.candidateVersion (strategyRulesHash rt rules) = .ok identity := by
    rw [hrulesHash]
    exact hp.package
  exact hfree ⟨rules, identity, hrules, hpackage, .inr hheld⟩ ⟨rules, identity, hrules, hpackage, .inl rfl⟩ hdigest

/-- The fields of a produced handoff are those of the payload. -/
theorem Produced.fields (hp : Produced rt i identity h) (hfree : Set.InjOn (rt.hexdigest true) (i.sealedValues rt)) :
    h.candidateId = i.candidateId ∧ h.candidateVersion = i.candidateVersion ∧ h.rulesHash = identity.rulesHash ∧
      h.strategyCodeHash = identity.strategyCodeHash ∧ h.strategyPackageHash = identity.strategyPackageHash ∧
      h.validationEvidenceRef = i.validationEvidenceRef ∧
      h.runtimeConfigBindingHash = forwardRuntimeBindingHash rt i.runtimeConfig := by
  have hsame := hp.sealedForm hfree
  exact ⟨text_same hsame "candidate_id" rfl rfl, text_same hsame "candidate_version" rfl rfl,
    text_same hsame "rules_hash" rfl rfl, text_same hsame "strategy_code_hash" rfl rfl,
    text_same hsame "strategy_package_hash" rfl rfl, text_same hsame "validation_evidence_ref" rfl rfl,
    text_same hsame "runtime_config_binding_hash" rfl rfl⟩

/-- The strategy of a produced handoff is authorised when its candidate is registered and its rules name it. -/
theorem Produced.authorizeStrategy (hp : Produced rt i identity h)
    (hfree : Set.InjOn (rt.hexdigest true) (i.sealedValues rt)) (hregistered : rt.getCandidate h.candidateId = some h.candidateVersion)
    {rules : StrategyRules} (hrules : readStrategyRules rt.toPydantic h.strategyRules = .ok rules)
    (hnamed : rt.str (Json.get "candidate_id" rules.entryRules) = h.candidateId) :
    authorizeStrategy rt (h.dump rt.toPydantic) = .ok (rules, identity) := by
  have hintegrity := integrity_of_validateIntegrity hp.valid
  obtain ⟨hid, hversion, hrulesHash, hcode, hpackage, -, -⟩ := hp.fields hfree
  obtain ⟨hidne, hversionne, hstrategyId, hstrategyVersion, -⟩ := strategyPackageIdentity_eq_ok hp.package
  obtain ⟨rules', hrules', hhash⟩ := hintegrity.rules
  obtain rfl : rules = rules' := Except.ok.inj (hrules.symm.trans hrules')
  have hidentity : strategyPackageIdentity rt h.candidateId h.candidateVersion (strategyRulesHash rt rules) = .ok identity := by
    rw [hhash, hid, hversion, hrulesHash]
    exact hp.package
  have hbinding : Json.sortEntries h.packageIdentity = Json.sortEntries identity.snapshotBinding := by
    rw [hintegrity.identity, ← hintegrity.candidate.1, ← hintegrity.candidate.2, hid, hversion, hrulesHash, hcode, hpackage]
    unfold StrategyPackageIdentity.snapshotBinding
    rw [hstrategyId, hstrategyVersion]
  have hdeclared : ((Json.get "package_identity" (h.dump rt.toPydantic)).bind asTextDict).map Json.sortEntries =
      some (Json.sortEntries identity.snapshotBinding) := by
    change (asTextDict (.dict (Json.mapValues .str h.packageIdentity))).map Json.sortEntries = _
    rw [asTextDict_mapValues, Option.map_some, hbinding]
  unfold TradingPlatform.authorizeStrategy
  change (if h.candidateId = "" ∨ h.strategyId = "" ∨ h.candidateVersion = "" ∨ h.strategyVersion = "" then _ else _) = _
  rw [if_neg (by
    rw [← hintegrity.candidate.1, ← hintegrity.candidate.2, hid, hversion]
    push Not
    exact ⟨hidne, hidne, hversionne, hversionne⟩)]
  rw [if_neg (by
    push Not
    exact hintegrity.candidate)]
  rw [hregistered]
  have hentries : (Json.get "strategy_rules" (h.dump rt.toPydantic)).bind asDict = some h.strategyRules := rfl
  rw [hentries]
  dsimp only
  rw [hrules]
  change (if h.candidateVersion ≠ h.candidateVersion ∨ _ then _ else _) = _
  rw [if_neg (by
    push Not
    exact ⟨rfl, hnamed⟩)]
  have hdeclaredRules : textOf "rules_hash" (h.dump rt.toPydantic) = some (strategyRulesHash rt rules) :=
    congrArg some hhash.symm
  rw [if_neg (not_not.mpr hdeclaredRules), hidentity]
  change (if _ then _ else _) = _
  rw [if_neg (by
    push Not
    exact ⟨congrArg some hcode, congrArg some hpackage, hdeclared⟩)]

theorem Produced.authorizeGates (hp : Produced rt i identity h)
    (hfree : Set.InjOn (rt.hexdigest true) (i.sealedValues rt)) : authorizeGates (h.dump rt.toPydantic) = .ok () := by
  have hintegrity := integrity_of_validateIntegrity hp.valid
  obtain ⟨-, -, -, -, -, href, -⟩ := hp.fields hfree
  unfold TradingPlatform.authorizeGates
  rw [if_neg]
  · rw [if_neg]
    · change (if isTrue "passed" h.density.dump = false then _ else _) = _
      have hpassed : isTrue "passed" h.density.dump = true := hintegrity.gates.2.2
      rw [if_neg (by rw [hpassed]; nofun), if_neg]
      push Not
      have htarget : numberOf "target_forward_closed_trades" h.density.dump = some (h.density.targetForwardClosedTrades : ℚ) := rfl
      have hhorizon : numberOf "max_estimated_days" h.density.dump = some h.density.maxEstimatedDays := rfl
      rw [htarget, hhorizon, h.density.target_frozen, h.density.horizon_frozen]
      exact ⟨rfl, rfl⟩
    · have hrecovery : isTrue "profitability_recovery_passed" (h.dump rt.toPydantic) = true := hintegrity.gates.1
      have hdensity : isTrue "forward_density_passed" (h.dump rt.toPydantic) = true := hintegrity.gates.2.1
      rw [hrecovery, hdensity]
      nofun
  · push Not
    refine ⟨?_, congrArg some hintegrity.evidence.2, congrArg some hintegrity.evidence.1⟩
    change decide (strip h.validationEvidenceRef = "") ≠ true
    rw [href]
    simpa using hp.evidence

end Produced

/-- A produced handoff, embedded in the configuration it was produced for, is authorised for its symbols. -/
theorem Produced.authorised {i : HandoffInputs Instant} {identity : StrategyPackageIdentity}
    {h : ForwardValidationHandoff Instant} (hp : Produced rt i identity h)
    (hfree : Set.InjOn (rt.hexdigest true) (i.sealedValues rt)) (hregistered : rt.getCandidate h.candidateId = some h.candidateVersion)
    (hnamed : ∃ rules, readStrategyRules rt.toPydantic h.strategyRules = .ok rules ∧
      rt.str (Json.get "candidate_id" rules.entryRules) = h.candidateId)
    (hsymbols : h.eligibleExecutionSymbols = rt.executionSymbols) {symbol : String} (hsymbol : symbol ∈ h.eligibleExecutionSymbols)
    {mode : Option String} (hmode : mode = none ∨ mode = some "BINANCE_TESTNET") :
    Authorised rt (embedHandoff rt i.runtimeConfig h) symbol mode := by
  have hintegrity := integrity_of_validateIntegrity hp.valid
  obtain ⟨rules, hrules, hname⟩ := hnamed
  obtain ⟨-, -, -, -, -, -, hbinding⟩ := hp.fields hfree
  obtain ⟨t, -, hread⟩ := modelValidate_dump hp.valid hp.stripped_self
  have hblock : (Json.get "forward_validation" (embedHandoff rt i.runtimeConfig h)).bind asDict = some (h.dump rt.toPydantic) := by
    unfold embedHandoff
    rw [Json.get_set_self]
    rfl
  have hbound : textOf "runtime_config_binding_hash" (h.dump rt.toPydantic) =
      some (forwardRuntimeBindingHash rt (embedHandoff rt i.runtimeConfig h)) := by
    unfold forwardRuntimeBindingHash embedHandoff
    rw [Json.erase_set]
    exact congrArg some hbinding
  have heligible : (Json.get "eligible_execution_symbols" (h.dump rt.toPydantic)).bind asTexts = some rt.executionSymbols := by
    rw [← hsymbols]
    exact asTexts_map _
  have hstatus : textOf "status" (h.dump rt.toPydantic) = some "FORWARD_CANDIDATE_READY" := congrArg some hintegrity.status
  have hschema : textOf "schema_version" (h.dump rt.toPydantic) = some "forward-validation-handoff-v2" :=
    congrArg some hintegrity.schema
  unfold Authorised resolveTestnetForwardAuthorization
  rw [if_neg (by
    rintro ⟨hnone, htestnet⟩
    rcases hmode with rfl | rfl
    · exact hnone rfl
    · exact htestnet rfl)]
  dsimp only
  rw [hblock]
  dsimp only
  rw [if_neg (not_not.mpr hstatus), if_neg (not_not.mpr hschema), hread]
  dsimp only
  rw [if_neg (by
    push Not
    exact ⟨canonicalConfigHash_ne_empty _, rfl⟩)]
  rw [if_neg (not_not.mpr hbound)]
  rw [if_neg (by
    rintro (happroved | hstate)
    · nomatch happroved
    · nomatch hstate)]
  rw [if_neg (by
    push Not
    exact ⟨heligible, hsymbols ▸ hsymbol⟩)]
  rw [hp.authorizeStrategy hfree hregistered hrules hname]
  dsimp only
  rw [hp.authorizeGates hfree]

end ForwardSealAux

open ForwardSealAux

/-- The handoff is a seal. Complete: a handoff the producer returns for a registered candidate, embedded in the
configuration it was produced for, is authorised for every one of its symbols. Tamper evident: two authorised
configurations with the same handoff hash hold the same handoff, field by field as the model holds them, and the same
value under every other key. The digests tell apart the values that are hashed here. -/
theorem handoff_seals (rt : ForwardRuntime Instant) :
    (∀ (i : HandoffInputs Instant) (h : ForwardValidationHandoff Instant), Set.InjOn (rt.hexdigest true) (i.sealedValues rt) →
      buildForwardValidationHandoff rt i = .ok h → rt.getCandidate h.candidateId = some h.candidateVersion →
      (∃ rules, readStrategyRules rt.toPydantic h.strategyRules = .ok rules ∧
        rt.str (Json.get "candidate_id" rules.entryRules) = h.candidateId) →
      h.eligibleExecutionSymbols = rt.executionSymbols →
      ∀ symbol ∈ h.eligibleExecutionSymbols, ∀ mode, mode = none ∨ mode = some "BINANCE_TESTNET" →
        Authorised rt (embedHandoff rt i.runtimeConfig h) symbol mode) ∧
    (∀ (c₁ c₂ : List (String × Json)) (symbol₁ symbol₂ : String) (mode₁ mode₂ : Option String),
      (∀ ascii, Set.InjOn (rt.hexdigest ascii) (sealedValues rt c₁ ∪ sealedValues rt c₂)) →
      Authorised rt c₁ symbol₁ mode₁ → Authorised rt c₂ symbol₂ mode₂ →
      (forwardBlock c₁).bind (textOf "handoff_hash") = (forwardBlock c₂).bind (textOf "handoff_hash") →
      ∃ block₁ block₂ h₁ h₂, forwardBlock c₁ = some block₁ ∧ forwardBlock c₂ = some block₂ ∧
        modelValidate rt block₁ = .ok h₁ ∧ modelValidate rt block₂ = .ok h₂ ∧
        (∀ name ∈ ForwardValidationHandoff.fields, (Json.get name (h₁.dump rt.toPydantic)).map Json.sorted =
          (Json.get name (h₂.dump rt.toPydantic)).map Json.sorted) ∧
        ∀ key, key ≠ "forward_validation" → (Json.get key c₁).map Json.sorted = (Json.get key c₂).map Json.sorted) := by
  constructor
  · intro i h hfree hbuild hregistered hnamed hsymbols symbol hsymbol mode hmode
    obtain ⟨identity, hp⟩ := produced_of_build hbuild
    exact hp.authorised hfree hregistered hnamed hsymbols hsymbol hmode
  · intro c₁ c₂ symbol₁ symbol₂ mode₁ mode₂ hfree hauth₁ hauth₂ hsame
    obtain ⟨block₁, h₁, hblock₁, hread₁, hbound₁⟩ := authorised_reads hauth₁
    obtain ⟨block₂, h₂, hblock₂, hread₂, hbound₂⟩ := authorised_reads hauth₂
    rw [hblock₁, hblock₂, Option.bind_some, Option.bind_some] at hsame
    have hmem₁ : h₁.sealedForm rt.toPydantic ∈ sealedValues rt c₁ ∪ sealedValues rt c₂ :=
      .inl (.inr ⟨block₁, h₁, hblock₁, hread₁, rfl⟩)
    have hmem₂ : h₂.sealedForm rt.toPydantic ∈ sealedValues rt c₁ ∪ sealedValues rt c₂ :=
      .inr (.inr ⟨block₂, h₂, hblock₂, hread₂, rfl⟩)
    obtain ⟨hhash, hform⟩ := sealedForm_eq (hfree true) hmem₁ hmem₂ hread₁ hread₂ hsame
    have hcontent := content_same hform
    have hbinding : h₁.runtimeConfigBindingHash = h₂.runtimeConfigBindingHash :=
      text_same hform "runtime_config_binding_hash" rfl rfl
    rw [binding_of_reads hread₁ hbound₁, binding_of_reads hread₂ hbound₂] at hbinding
    have hconfig : boundForm c₁ = boundForm c₂ :=
      hfree false (.inl (.inl rfl)) (.inr (.inl rfl)) (canonicalConfigHash_inj hbinding)
    refine ⟨block₁, block₂, h₁, h₂, hblock₁, hblock₂, hread₁, hread₂, fun name _ => ?_, fun key hkey =>
      get_of_boundForm hconfig hkey⟩
    unfold ForwardValidationHandoff.dump
    rw [Json.get_append, Json.get_append, Option.map_or, Option.map_or, hcontent name, hhash]

/-! ## A handoff that is produced and accepted -/

namespace ForwardSealAux

mutual

/-- The text of a value whose texts need no escape and whose floats are whole. -/
def jsonText : Json → String
  | .null => "null"
  | .bool b => if b then "true" else "false"
  | .int n => toString n
  | .float q => toString q.num ++ ".0"
  | .str s => "\"" ++ s ++ "\""
  | .list items => "[" ++ ",".intercalate (jsonTexts items) ++ "]"
  | .dict entries => "\x7b" ++ ",".intercalate (jsonEntries entries) ++ "\x7d"

def jsonTexts : List Json → List String
  | [] => []
  | v :: rest => jsonText v :: jsonTexts rest

def jsonEntries : List (String × Json) → List String
  | [] => []
  | (k, v) :: rest => ("\"" ++ k ++ "\":" ++ jsonText v) :: jsonEntries rest

end

theorem sha256Hex_spec (text : String) :
    (Digest.sha256Hex text).length = 64 ∧ ∀ c ∈ (Digest.sha256Hex text).toList, c.isAlphanum = true := by
  unfold Digest.sha256Hex Digest.sha256Digits
  rw [String.length_ofList, String.toList_ofList]
  constructor
  · unfold Digest.Sha256.digest
    simp [Digest.hexWord]
  · intro c hc
    obtain ⟨word, -, hdigit⟩ := List.mem_flatMap.mp hc
    unfold Digest.hexWord at hdigit
    obtain ⟨i, -, rfl⟩ := List.mem_map.mp hdigit
    exact hexDigit_isAlphanum _

section Sample

variable (digest : Json → String) (hdigest : ∀ v, (digest v).length = 64 ∧ ∀ c ∈ (digest v).toList, c.isAlphanum = true)

/-- A runtime whose models strip nothing, which is what they do to texts without outer whitespace. -/
def sampleRuntime : ForwardRuntime String :=
  { trim := id
    readInt := fun v => match v with | .int n => some n | _ => none
    readFloat := fun v => match v with | .float q => some q | _ => none
    readBool := fun v => match v with | .bool b => some b | _ => none
    readInstant := asText
    isoformat := id
    trim_trim := fun _ => rfl
    trim_ends := fun _ => ⟨[], [], (List.append_nil _).symm, nofun, nofun⟩
    readInt_int := fun _ => rfl
    readFloat_float := fun _ => rfl
    readBool_bool := fun _ => rfl
    readInstant_isoformat := fun t => ⟨t, rfl, rfl⟩
    hexdigest := fun _ => digest
    hexdigest_hex := fun _ v => (hdigest v).2
    strategyCodeHash := fun strategyId => some (digest (.str strategyId))
    getCandidate := fun candidateId => if candidateId = "aggressive_multi_regime_v1" then some "1.0.0" else none
    executionSymbols := ["BTC/USDT", "ETH/USDT"]
    str := fun v => match v with | some (.str s) => s | _ => "None" }

def sampleRules : StrategyRules :=
  { entryRules := [("candidate_id", .str "aggressive_multi_regime_v1"), ("levels", .list [.int 1])]
    exitRules := []
    stoplossRules := []
    takeprofitRules := []
    positionRules := [] }

def sampleInputs : HandoffInputs String :=
  { candidateId := "aggressive_multi_regime_v1"
    candidateVersion := "1.0.0"
    strategyRules := [("entry_rules", .dict sampleRules.entryRules)]
    datasetHash := digest (.str "dataset")
    validationEvidenceRef := "evidence"
    validationEvidenceHash := digest (.str "evidence")
    eligibleExecutionSymbols := ["BTC/USDT", "ETH/USDT"]
    density :=
      { eligibleClosedBars := 100
        candidateCount := 10
        closedTradeCount := 8
        closedTradesPerDay := 1
        medianInterTradeHours := 20
        p90InterTradeHours := 40
        estimatedDaysTo30ClosedTrades := 30
        targetForwardClosedTrades := 30
        maxEstimatedDays := 60
        passed := true
        counts_nonneg := by decide
        rates_nonneg := by decide +kernel
        target_frozen := rfl
        horizon_frozen := rfl
        passed_eq := by decide +kernel }
    profitabilityRecoveryEligible := true
    runtimeConfig := [("risk", .dict [("b", .int 2), ("a", .float 1)]), ("mode", .str "PAPER")]
    frozenAt := "2026-01-01T00:00:00Z" }

def sampleIdentity : StrategyPackageIdentity :=
  let rulesHash := strategyRulesHash (sampleRuntime digest hdigest) sampleRules
  let codeHash := digest (.str "aggressive_multi_regime_v1")
  { strategyId := "aggressive_multi_regime_v1"
    strategyVersion := "1.0.0"
    rulesHash := rulesHash
    strategyCodeHash := codeHash
    strategyPackageHash :=
      strategyPackageHash (sampleRuntime digest hdigest) "aggressive_multi_regime_v1" "1.0.0" rulesHash codeHash }

def samplePayload : ForwardValidationHandoff String :=
  (sampleInputs digest).payload (sampleRuntime digest hdigest) (sampleIdentity digest hdigest)

def sampleHandoff : ForwardValidationHandoff String :=
  { samplePayload digest hdigest with
    handoffHash := canonicalHash (sampleRuntime digest hdigest) ((samplePayload digest hdigest).content
      (sampleRuntime digest hdigest).toPydantic) }

theorem sample_rules :
    readStrategyRules (sampleRuntime digest hdigest).toPydantic (sampleInputs digest).strategyRules = .ok sampleRules := rfl

theorem sample_identity : strategyPackageIdentity (sampleRuntime digest hdigest) "aggressive_multi_regime_v1" "1.0.0"
    (strategyRulesHash (sampleRuntime digest hdigest) sampleRules) = .ok (sampleIdentity digest hdigest) := by
  have hlength : (strategyRulesHash (sampleRuntime digest hdigest) sampleRules).length = 64 := (hdigest _).1
  unfold strategyPackageIdentity
  rw [if_neg (by decide), if_neg (not_not.mpr hlength)]
  rfl

theorem sample_valid : validateIntegrity (sampleRuntime digest hdigest) (sampleHandoff digest hdigest) = .ok () := by
  unfold validateIntegrity
  refine Loops.guard_eq_ok.mpr ⟨not_not.mpr rfl, Loops.guard_eq_ok.mpr ⟨not_not.mpr rfl, Loops.guard_eq_ok.mpr ⟨?_, ?_⟩⟩⟩
  · push Not
    exact ⟨rfl, rfl⟩
  refine Loops.guard_eq_ok.mpr ⟨?_, Loops.guard_eq_ok.mpr ⟨?_, Loops.guard_eq_ok.mpr ⟨?_, Loops.guard_eq_ok.mpr ⟨?_, ?_⟩⟩⟩⟩
  · push Not
    exact ⟨(hdigest _).1, (hdigest _).1, (hdigest _).1⟩
  · push Not
    exact ⟨(hdigest _).1, (hdigest _).1⟩
  · change ¬(["BTC/USDT", "ETH/USDT"] = [] ∨ ¬["BTC/USDT", "ETH/USDT"].Nodup)
    decide
  · change ¬(true = false ∨ true = false ∨ true = false)
    decide
  refine Loops.bind_eq_ok.mpr ⟨sampleRules, sample_rules digest hdigest, Loops.guard_eq_ok.mpr ⟨not_not.mpr rfl, ?_⟩⟩
  exact Loops.guard_eq_ok.mpr ⟨not_not.mpr rfl, if_neg (not_not.mpr rfl)⟩

theorem sample_build : buildForwardValidationHandoff (sampleRuntime digest hdigest) (sampleInputs digest) =
    .ok (sampleHandoff digest hdigest) := by
  unfold buildForwardValidationHandoff
  have hgate : ¬true = false := Bool.noConfusion
  refine Loops.guard_eq_ok.mpr ⟨hgate, Loops.guard_eq_ok.mpr ⟨hgate, ?_⟩⟩
  refine Loops.guard_eq_ok.mpr ⟨not_not.mpr (hdigest _).1, ?_⟩
  refine Loops.guard_eq_ok.mpr ⟨?_, Loops.bind_eq_ok.mpr ⟨_, sample_rules digest hdigest,
    Loops.bind_eq_ok.mpr ⟨_, sample_identity digest hdigest, ?_⟩⟩⟩
  · push Not
    have hevidence : strip "evidence" ≠ "" := by decide +kernel
    exact ⟨hevidence, (hdigest _).1⟩
  · exact Loops.bind_eq_ok.mpr ⟨(), sample_valid digest hdigest, rfl⟩

/-- The payload has no outer whitespace, so the producer hashes one value. -/
theorem sample_free : Set.InjOn ((sampleRuntime digest hdigest).hexdigest true)
    ((sampleInputs digest).sealedValues (sampleRuntime digest hdigest)) := by
  have hone : ∀ v ∈ (sampleInputs digest).sealedValues (sampleRuntime digest hdigest),
      v = (samplePayload digest hdigest).sealedForm (sampleRuntime digest hdigest).toPydantic := by
    rintro v ⟨rules, identity, hrules, hidentity, hv⟩
    cases hrules.symm.trans (sample_rules digest hdigest)
    cases hidentity.symm.trans (sample_identity digest hdigest)
    rcases hv with rfl | rfl
    · rfl
    · rfl
  intro v hv w hw _
  rw [hone v hv, hone w hw]

end Sample

/-- The digest of the text of a value. -/
def textDigest (v : Json) : String := Digest.sha256Hex (jsonText v)

end ForwardSealAux

theorem handoff_seals_aggressive :
    Authorised (sampleRuntime textDigest fun _ => sha256Hex_spec _)
      (embedHandoff (sampleRuntime textDigest fun _ => sha256Hex_spec _) (sampleInputs textDigest).runtimeConfig
        (sampleHandoff textDigest fun _ => sha256Hex_spec _)) "BTC/USDT" none :=
  (handoff_seals (sampleRuntime textDigest fun _ => sha256Hex_spec _)).1 (sampleInputs textDigest) _ (sample_free _ _)
    (sample_build _ _) rfl ⟨sampleRules, sample_rules _ _, rfl⟩ rfl "BTC/USDT" List.mem_cons_self none (.inl rfl)

end TradingPlatform
