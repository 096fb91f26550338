import TradingPlatform.Lib.Loops
import TradingPlatform.Engine.ForwardValidation

/-!
# What the hashes of a handoff determine, and what the models read back

A digest of the normalised content determines the content, since the tag of a list is never mistaken for a dictionary. A
model reads back what it dumps, up to what the JSON form of a moment keeps.
-/

namespace TradingPlatform

/-! ## The normalised form -/

namespace NormalizeAux

theorem normalizeItems_eq (items : List Json) : normalizeItems items = items.map normalize := by
  induction items with
  | nil => rfl
  | cons v rest ih => exact congrArg (normalize v :: ·) ih

theorem normalizeValues_eq (entries : List (String × Json)) : normalizeValues entries = Json.mapValues normalize entries := by
  induction entries with
  | nil => rfl
  | cons e rest ih =>
    obtain ⟨k, v⟩ := e
    exact congrArg ((k, normalize v) :: ·) ih

theorem normalize_list (items : List Json) :
    normalize (.list items) = .dict [("__type__", .str "list"), ("items", .list (items.map normalize))] :=
  congrArg (fun items => Json.dict [("__type__", .str "list"), ("items", .list items)]) (normalizeItems_eq items)

theorem normalize_dict (entries : List (String × Json)) :
    normalize (.dict entries) = .dict (Json.mapValues normalize entries) :=
  congrArg Json.dict (normalizeValues_eq entries)

/-- The sorted normalised form. -/
def form (v : Json) : Json := (normalize v).sorted

theorem form_list (items : List Json) :
    form (.list items) = .dict [("__type__", .str "list"), ("items", .list (items.map form))] := by
  unfold form
  rw [normalize_list, Json.sorted_dict, Json.sortEntries_mapValues]
  have hsort : Json.sortEntries [("__type__", Json.str "list"), ("items", .list (items.map normalize))] =
      [("__type__", .str "list"), ("items", .list (items.map normalize))] := by
    change Json.insertSorted "__type__" _ [_] = _
    rw [Json.insertSorted, if_pos (by decide)]
  rw [hsort]
  have hitems := Json.sorted_list (items.map normalize)
  rw [List.map_map] at hitems
  exact congrArg (fun items => Json.dict [("__type__", .str "list"), ("items", items)]) hitems

theorem form_dict (entries : List (String × Json)) :
    form (.dict entries) = .dict (Json.mapValues form (Json.sortEntries entries)) := by
  unfold form
  rw [normalize_dict, Json.sorted_dict, Json.sortEntries_mapValues, Json.sortEntries_mapValues]
  unfold Json.mapValues
  rw [List.map_map]
  rfl

/-- A value that is no list and no dictionary. -/
def Atom (v : Json) : Prop := (∀ items, v ≠ .list items) ∧ ∀ entries, v ≠ .dict entries

theorem Atom.form_eq {v : Json} (h : Atom v) : form v = v ∧ v.sorted = v := by
  unfold form
  cases v with
  | list items => exact absurd rfl (h.1 items)
  | dict entries => exact absurd rfl (h.2 entries)
  | _ => exact ⟨rfl, rfl⟩

/-- The form of a list is tagged: no form is a bare list. -/
theorem form_shape (v : Json) : (Atom v ∧ form v = v) ∨ ∃ entries, form v = .dict entries := by
  cases v with
  | list items => exact .inr ⟨_, form_list items⟩
  | dict entries => exact .inr ⟨_, form_dict entries⟩
  | _ => exact .inl ⟨⟨nofun, nofun⟩, rfl⟩

theorem form_ne_list (v : Json) (items : List Json) : form v ≠ .list items := by
  rcases form_shape v with ⟨hatom, h⟩ | ⟨entries, h⟩
  · rw [h]
    exact hatom.1 items
  · rw [h]
    nofun

theorem Atom.eq_of_form {a b : Json} (ha : Atom a) (h : form a = form b) : a = b := by
  rw [ha.form_eq.1] at h
  rcases form_shape b with ⟨-, hb⟩ | ⟨entries, hb⟩
  · exact h.trans hb
  · exact absurd (h.trans hb) (ha.2 entries)

theorem form_list_ne_dict (items : List Json) (entries : List (String × Json)) : form (.list items) ≠ form (.dict entries) := by
  intro h
  rw [form_list, form_dict] at h
  have hitems : Json.get "items" (Json.mapValues form (Json.sortEntries entries)) = some (.list (items.map form)) := by
    rw [← Json.dict.inj h]
    rfl
  rw [Json.get_mapValues] at hitems
  obtain ⟨v, -, hv⟩ := Option.map_eq_some_iff.mp hitems
  exact form_ne_list v _ hv

/-- Two lists with the same images under `f` have the same under `g`, when `f` tells apart what `g` does. -/
theorem map_eq_map {α β γ : Type*} {f : α → β} {g : α → γ} {xs ys : List α} (h : xs.map f = ys.map f)
    (hfg : ∀ x ∈ xs, ∀ y, f x = f y → g x = g y) : xs.map g = ys.map g := by
  induction xs generalizing ys with
  | nil =>
    rw [List.map_nil, eq_comm, List.map_eq_nil_iff] at h
    rw [h]
  | cons x rest ih =>
    cases ys with
    | nil => nomatch h
    | cons y ys =>
      obtain ⟨hx, hrest⟩ := List.cons.inj h
      rw [List.map_cons, List.map_cons, hfg x List.mem_cons_self y hx,
        ih hrest fun x' hx' => hfg x' (List.mem_cons_of_mem _ hx')]

/-- The sorted normalised form determines the sorted value. -/
theorem sorted_of_form (a : Json) : ∀ b, form a = form b → a.sorted = b.sorted := by
  have hatom : ∀ a, Atom a → ∀ b, form a = form b → a.sorted = b.sorted :=
    fun a ha b h => congrArg Json.sorted (ha.eq_of_form h)
  refine Json.Closed.all (motive := fun a => ∀ b, form a = form b → a.sorted = b.sorted)
    ⟨hatom _ ⟨nofun, nofun⟩, fun _ => hatom _ ⟨nofun, nofun⟩, fun _ => hatom _ ⟨nofun, nofun⟩,
      fun _ => hatom _ ⟨nofun, nofun⟩, fun _ => hatom _ ⟨nofun, nofun⟩, ?items, ?entries⟩ a
  case items =>
    intro items ih b h
    cases b with
    | list items' =>
      rw [form_list, form_list] at h
      have hitems : items.map form = items'.map form := by
        have h' := Json.dict.inj h
        simpa using h'
      rw [Json.sorted_list, Json.sorted_list, map_eq_map hitems ih]
    | dict entries => exact absurd h (form_list_ne_dict items entries)
    | _ =>
      refine absurd (Atom.eq_of_form ?_ h.symm) (by nofun)
      exact ⟨nofun, nofun⟩
  case entries =>
    intro entries ih b h
    cases b with
    | list items => exact absurd h.symm (form_list_ne_dict items entries)
    | dict entries' =>
      rw [form_dict, form_dict] at h
      have hentries := Json.dict.inj h
      rw [Json.sorted_dict, Json.sorted_dict, Json.sortEntries_mapValues,
        Json.sortEntries_mapValues]
      refine congrArg Json.dict (map_eq_map hentries fun e he e' hee' => ?_)
      obtain ⟨hkey, hvalue⟩ := Prod.mk.inj hee'
      exact Prod.ext hkey (ih e (Json.mem_of_mem_sortEntries he) e'.2 hvalue)
    | _ =>
      refine absurd (Atom.eq_of_form ?_ h.symm) (by nofun)
      exact ⟨nofun, nofun⟩

end NormalizeAux

/-! ## What a model reads back -/

section ReadBack

variable {Instant : Type} (p : Pydantic Instant)

theorem asTexts_map (texts : List String) : asTexts (.list (texts.map .str)) = some texts := by
  change (texts.map Json.str).mapM asText = some texts
  induction texts with
  | nil => rfl
  | cons s rest ih =>
    rw [List.map_cons, List.mapM_cons, ih]
    rfl

theorem asTextDict_mapValues (entries : List (String × String)) :
    asTextDict (.dict (Json.mapValues .str entries)) = some entries := by
  change (entries.map fun e => (e.1, Json.str e.2)).mapM (fun e => (asText e.2).map fun s => (e.1, s)) = some entries
  induction entries with
  | nil => rfl
  | cons e rest ih =>
    rw [List.map_cons, List.mapM_cons, ih]
    rfl

theorem readField_eq_ok {α : Type} {name : String} {entries : List (String × Json)} {read : Json → Option α} {a : α}
    (h : (Json.get name entries).bind read = some a) : readField name entries read = .ok a := by
  unfold readField
  rw [h]

theorem readOptional_eq_ok {α : Type} {name : String} {entries : List (String × Json)} {read : Json → Option α} {v : Json}
    {a : α} (hget : Json.get name entries = some v) (hread : read v = some a) :
    readOptional name entries read = .ok (some a) := by
  unfold readOptional
  rw [hget]
  dsimp only
  rw [hread]

theorem readDensity_dump (d : ForwardDensityMetrics) : readDensity p d.dump = .ok d := by
  have hfields : ∀ e ∈ d.dump, e.1 ∈ ForwardDensityMetrics.fields := by
    intro e he
    have hkeys : e.1 ∈ Json.keys d.dump := List.mem_map_of_mem he
    exact hkeys
  have hcount : ∀ name n, Json.get name d.dump = some (.int n) → readField name d.dump p.readInt = .ok n := by
    intro name n hget
    exact readField_eq_ok (by rw [hget]; exact p.readInt_int n)
  have hrate : ∀ name q, Json.get name d.dump = some (.float q) → readField name d.dump p.readFloat = .ok q := by
    intro name q hget
    exact readField_eq_ok (by rw [hget]; exact p.readFloat_float q)
  have htarget : readOptional "target_forward_closed_trades" d.dump p.readInt = .ok (some d.targetForwardClosedTrades) :=
    readOptional_eq_ok rfl (p.readInt_int _)
  have hhorizon : readOptional "max_estimated_days" d.dump p.readFloat = .ok (some d.maxEstimatedDays) :=
    readOptional_eq_ok rfl (p.readFloat_float _)
  have hpassed : readField "passed" d.dump p.readBool = .ok d.passed := readField_eq_ok (p.readBool_bool _)
  unfold readDensity
  rw [if_neg (not_not.mpr hfields)]
  refine Loops.bind_eq_ok.mpr ⟨_, hcount _ _ rfl, Loops.bind_eq_ok.mpr ⟨_, hcount _ _ rfl, Loops.bind_eq_ok.mpr ⟨_, hcount _ _ rfl, ?_⟩⟩⟩
  refine Loops.bind_eq_ok.mpr ⟨_, hrate _ _ rfl, Loops.bind_eq_ok.mpr ⟨_, hrate _ _ rfl, Loops.bind_eq_ok.mpr ⟨_, hrate _ _ rfl, ?_⟩⟩⟩
  refine Loops.bind_eq_ok.mpr ⟨_, hrate _ _ rfl, Loops.bind_eq_ok.mpr ⟨_, htarget, Loops.bind_eq_ok.mpr ⟨_, hhorizon, ?_⟩⟩⟩
  refine Loops.bind_eq_ok.mpr ⟨_, hpassed, ?_⟩
  rw [dif_pos d.counts_nonneg, dif_pos d.rates_nonneg]
  exact (dif_pos d.target_frozen).trans ((dif_pos d.horizon_frozen).trans (dif_pos d.passed_eq))

namespace ForwardValidationHandoff

variable (h : ForwardValidationHandoff Instant)

/-- A handoff is read back from its JSON form, up to what that form keeps of its moment. -/
theorem readFields_dump : ∃ t, p.isoformat t = p.isoformat h.frozenAt ∧
    readFields p (h.dump p) = .ok { h with frozenAt := t } := by
  obtain ⟨t, hread, hiso⟩ := p.readInstant_isoformat h.frozenAt
  refine ⟨t, hiso, ?_⟩
  have hfields : ∀ e ∈ h.dump p, e.1 ∈ fields := by
    intro e he
    have hkeys : e.1 ∈ Json.keys (h.dump p) := List.mem_map_of_mem he
    exact hkeys
  have htext : ∀ name s, Json.get name (h.dump p) = some (.str s) → readText name (h.dump p) = .ok s := by
    intro name s hget
    unfold readText
    rw [hget]
  have htextOr : ∀ name default s, Json.get name (h.dump p) = some (.str s) → readTextOr name (h.dump p) default = .ok s := by
    intro name default s hget
    unfold readTextOr
    rw [hget]
  have hflag : ∀ name b, Json.get name (h.dump p) = some (.bool b) → readField name (h.dump p) p.readBool = .ok b := by
    intro name b hget
    exact readField_eq_ok (by rw [hget]; exact p.readBool_bool b)
  have hsymbols : readField "eligible_execution_symbols" (h.dump p) asTexts = .ok h.eligibleExecutionSymbols :=
    readField_eq_ok (asTexts_map _)
  have hidentity : readField "package_identity" (h.dump p) asTextDict = .ok h.packageIdentity :=
    readField_eq_ok (asTextDict_mapValues _)
  have hfrozen : readField "frozen_at" (h.dump p) p.readInstant = .ok t := readField_eq_ok hread
  unfold readFields
  rw [if_neg (not_not.mpr hfields)]
  refine Loops.bind_eq_ok.mpr ⟨_, htextOr _ _ _ rfl, Loops.bind_eq_ok.mpr ⟨_, htextOr _ _ _ rfl, ?_⟩⟩
  refine Loops.bind_eq_ok.mpr ⟨_, htext _ _ rfl, Loops.bind_eq_ok.mpr ⟨_, htext _ _ rfl, ?_⟩⟩
  refine Loops.bind_eq_ok.mpr ⟨_, htext _ _ rfl, Loops.bind_eq_ok.mpr ⟨_, htext _ _ rfl, ?_⟩⟩
  refine Loops.bind_eq_ok.mpr ⟨_, htext _ _ rfl, Loops.bind_eq_ok.mpr ⟨_, htext _ _ rfl, ?_⟩⟩
  refine Loops.bind_eq_ok.mpr ⟨_, htext _ _ rfl, Loops.bind_eq_ok.mpr ⟨_, htext _ _ rfl, ?_⟩⟩
  refine Loops.bind_eq_ok.mpr ⟨_, htext _ _ rfl, Loops.bind_eq_ok.mpr ⟨_, htext _ _ rfl, ?_⟩⟩
  refine Loops.bind_eq_ok.mpr ⟨_, hsymbols, Loops.bind_eq_ok.mpr ⟨_, rfl, Loops.bind_eq_ok.mpr ⟨_, htext _ _ rfl, ?_⟩⟩⟩
  refine Loops.bind_eq_ok.mpr ⟨_, hidentity, Loops.bind_eq_ok.mpr ⟨_, rfl, Loops.bind_eq_ok.mpr ⟨_, readDensity_dump p _, ?_⟩⟩⟩
  refine Loops.bind_eq_ok.mpr ⟨_, hflag _ _ rfl, Loops.bind_eq_ok.mpr ⟨_, hflag _ _ rfl, ?_⟩⟩
  exact Loops.bind_eq_ok.mpr ⟨_, hfrozen, Loops.bind_eq_ok.mpr ⟨_, htext _ _ rfl, rfl⟩⟩

/-- Stripping a second time changes nothing. -/
theorem stripped_stripped : (h.stripped p).stripped p = h.stripped p := by
  have hsymbols : (h.eligibleExecutionSymbols.map p.trim).map p.trim = h.eligibleExecutionSymbols.map p.trim := by
    rw [List.map_map]
    exact List.map_congr_left fun s _ => p.trim_trim s
  have hrules : Json.rekey p.trim (Json.rekey p.trim h.strategyRules) = Json.rekey p.trim h.strategyRules :=
    Json.rekey_rekey p.trim_trim _
  have hvalues : ∀ e ∈ Json.mapValues p.trim h.packageIdentity, p.trim e.2 = e.2 := by
    intro e he
    obtain ⟨e', -, rfl⟩ := List.mem_map.mp he
    exact p.trim_trim e'.2
  have hidentity : Json.rekey p.trim (Json.mapValues p.trim (Json.rekey p.trim (Json.mapValues p.trim h.packageIdentity))) =
      Json.rekey p.trim (Json.mapValues p.trim h.packageIdentity) := by
    have hfixed := Json.value_of_mem_rekey (P := fun s => p.trim s = s) (f := p.trim) hvalues
    have hmap : Json.mapValues p.trim (Json.rekey p.trim (Json.mapValues p.trim h.packageIdentity)) =
        Json.rekey p.trim (Json.mapValues p.trim h.packageIdentity) := Json.mapValues_of_fixed hfixed
    rw [hmap, Json.rekey_rekey p.trim_trim]
  unfold stripped
  dsimp only
  rw [hsymbols, hrules, hidentity]
  simp only [p.trim_trim]

end ForwardValidationHandoff

end ReadBack

/-! ## What the checks of a handoff ensure -/

namespace ForwardValidationHandoff

variable {Instant : Type} {rt : ForwardRuntime Instant} {h : ForwardValidationHandoff Instant}

/-- What `validate_integrity` ensures. -/
structure Integrity (rt : ForwardRuntime Instant) (h : ForwardValidationHandoff Instant) : Prop where
  schema : h.schemaVersion = "forward-validation-handoff-v2"
  status : h.status = "FORWARD_CANDIDATE_READY"
  candidate : h.candidateId = h.strategyId ∧ h.candidateVersion = h.strategyVersion
  evidence : h.datasetHash.length = 64 ∧ h.validationEvidenceHash.length = 64
  gates : h.profitabilityRecoveryPassed = true ∧ h.forwardDensityPassed = true ∧ h.density.passed = true
  rules : ∃ rules, readStrategyRules rt.toPydantic h.strategyRules = .ok rules ∧ strategyRulesHash rt rules = h.rulesHash
  identity : Json.sortEntries h.packageIdentity = Json.sortEntries [("strategy_id", h.strategyId),
    ("strategy_version", h.strategyVersion), ("rules_hash", h.rulesHash), ("strategy_code_hash", h.strategyCodeHash),
    ("strategy_package_hash", h.strategyPackageHash)]
  sealed : h.handoffHash = canonicalHash rt (h.content rt.toPydantic)

theorem integrity_of_validateIntegrity (hok : validateIntegrity rt h = .ok ()) : h.Integrity rt := by
  unfold validateIntegrity at hok
  obtain ⟨hschema, hok⟩ := Loops.guard_eq_ok.mp hok
  obtain ⟨hstatus, hok⟩ := Loops.guard_eq_ok.mp hok
  obtain ⟨hcandidate, hok⟩ := Loops.guard_eq_ok.mp hok
  obtain ⟨-, hok⟩ := Loops.guard_eq_ok.mp hok
  obtain ⟨hevidence, hok⟩ := Loops.guard_eq_ok.mp hok
  obtain ⟨-, hok⟩ := Loops.guard_eq_ok.mp hok
  obtain ⟨hgates, hok⟩ := Loops.guard_eq_ok.mp hok
  obtain ⟨rules, hrules, hok⟩ := Loops.bind_eq_ok.mp hok
  obtain ⟨hhash, hok⟩ := Loops.guard_eq_ok.mp hok
  obtain ⟨hidentity, hok⟩ := Loops.guard_eq_ok.mp hok
  have hsealed : h.handoffHash = canonicalHash rt (h.content rt.toPydantic) := by
    by_contra hne
    rw [if_pos hne] at hok
    nomatch hok
  push Not at hcandidate hevidence
  exact
    { schema := not_not.mp hschema
      status := not_not.mp hstatus
      candidate := hcandidate
      evidence := hevidence
      gates := by simpa using hgates
      rules := ⟨rules, hrules, not_not.mp hhash⟩
      identity := not_not.mp hidentity
      sealed := hsealed }

/-- A handoff that passed its checks is read back whole, up to what the JSON form of its moment keeps. -/
theorem modelValidate_dump (hok : validateIntegrity rt h = .ok ()) (hstripped : h.stripped rt.toPydantic = h) :
    ∃ t, rt.isoformat t = rt.isoformat h.frozenAt ∧ modelValidate rt (h.dump rt.toPydantic) = .ok { h with frozenAt := t } := by
  obtain ⟨t, hiso, hread⟩ := readFields_dump rt.toPydantic h
  refine ⟨t, hiso, ?_⟩
  have hsame : ({ h with frozenAt := t } : ForwardValidationHandoff Instant).stripped rt.toPydantic = { h with frozenAt := t } := by
    have hfrozen : ({ h with frozenAt := t } : ForwardValidationHandoff Instant).stripped rt.toPydantic =
        { h.stripped rt.toPydantic with frozenAt := t } := rfl
    rw [hfrozen, hstripped]
  have hcontent : ({ h with frozenAt := t } : ForwardValidationHandoff Instant).content rt.toPydantic = h.content rt.toPydantic := by
    unfold content
    rw [hiso]
  have hvalid : validateIntegrity rt { h with frozenAt := t } = .ok () := by
    rw [← hok]
    unfold validateIntegrity
    rw [hcontent]
  unfold modelValidate validate
  rw [hread]
  change (validateIntegrity rt (({ h with frozenAt := t } : ForwardValidationHandoff Instant).stripped rt.toPydantic) >>= fun _ =>
    pure (({ h with frozenAt := t } : ForwardValidationHandoff Instant).stripped rt.toPydantic)) = _
  rw [hsame, hvalid]
  rfl

theorem textOf_of_readText {name s : String} {entries : List (String × Json)} (hread : readText name entries = .ok s) :
    textOf name entries = some s := by
  unfold readText at hread
  split at hread
  · rename_i s' hget
    cases hread
    unfold textOf
    rw [hget]
    rfl
  · nomatch hread

/-- What a block that is read holds: the two hashes that bind it, as they are written there. -/
theorem modelValidate_eq_ok {block : List (String × Json)} (hok : modelValidate rt block = .ok h) :
    h.Integrity rt ∧ (∃ raw, textOf "runtime_config_binding_hash" block = some raw ∧ h.runtimeConfigBindingHash = rt.trim raw) ∧
      ∃ raw, textOf "handoff_hash" block = some raw ∧ h.handoffHash = rt.trim raw := by
  obtain ⟨written, hread, hvalidate⟩ := Loops.bind_eq_ok.mp hok
  obtain ⟨⟨⟩, hintegrity, hstripped⟩ := Loops.bind_eq_ok.mp hvalidate
  obtain rfl : written.stripped rt.toPydantic = h := Except.ok.inj hstripped
  have hraw : textOf "runtime_config_binding_hash" block = some written.runtimeConfigBindingHash ∧
      textOf "handoff_hash" block = some written.handoffHash := by
    unfold readFields at hread
    obtain ⟨-, hread⟩ := Loops.guard_eq_ok.mp hread
    -- the fourteen fields before the binding hash
    iterate 14 obtain ⟨_, -, hread⟩ := Loops.bind_eq_ok.mp hread
    obtain ⟨binding, hbinding, hread⟩ := Loops.bind_eq_ok.mp hread
    iterate 6 obtain ⟨_, -, hread⟩ := Loops.bind_eq_ok.mp hread
    obtain ⟨handoffHash, hhandoff, hread⟩ := Loops.bind_eq_ok.mp hread
    cases hread
    exact ⟨textOf_of_readText hbinding, textOf_of_readText hhandoff⟩
  exact ⟨integrity_of_validateIntegrity hintegrity, ⟨_, hraw.1, rfl⟩, _, hraw.2, rfl⟩

end ForwardValidationHandoff

end TradingPlatform
