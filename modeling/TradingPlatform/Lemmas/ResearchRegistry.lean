import TradingPlatform.Engine.ResearchRegistry
import TradingPlatform.Engine.AccountWriter
import TradingPlatform.Lib.Loops

/-!
# What a registry file holds

A trial is written on one line unless one of its texts holds a line boundary that JSON leaves as it is. A file of such lines is
read back as the trials written to it, and a call on it does one of three things.
-/

namespace TradingPlatform

/-! ## Lines -/

theorem universalNewlines_eq_self {text : List Char} (h : '\r' ∉ text) : universalNewlines text = text := by
  induction text with
  | nil => rfl
  | cons c rest ih =>
    rw [List.mem_cons, not_or] at h
    have hc : c ≠ '\r' := fun hc => h.1 hc.symm
    rw [universalNewlines, if_neg hc, ih h.2]
    intro rest' hr
    exact absurd hr hc

/-- A line without a boundary of its own is split off at the end that follows it. -/
theorem splitLines_append {line : List Char} (h : ∀ c ∈ line, isLineBoundary c = false) (rest : List Char) :
    splitLines (line ++ '\n' :: rest) = line :: splitLines rest := by
  induction line with
  | nil => rfl
  | cons c line ih =>
    rw [List.forall_mem_cons] at h
    rw [List.cons_append, splitLines, h.1, ih h.2]
    rfl

/-! ## The lines of trials -/

/-- The line boundaries that JSON leaves as they are. -/
def bareBoundaries : List Char := ['\u0085', '\u2028', '\u2029']

/-- No text of the trial holds one of them. -/
def ResearchTrial.Unbroken (t : ResearchTrial) : Prop := ∀ s ∈ t.texts, ∀ c ∈ s.toList, c ∉ bareBoundaries

instance (t : ResearchTrial) : Decidable t.Unbroken := inferInstanceAs (Decidable (∀ s ∈ t.texts, ∀ c ∈ s.toList, _))

/-- A boundary that is not a control character is one of the three. -/
theorem mem_bareBoundaries {c : Char} (h : isLineBoundary c = true) (hc : ' ' ≤ c) : c ∈ bareBoundaries := by
  simp only [isLineBoundary, List.mem_cons, List.not_mem_nil, or_false, decide_eq_true_eq] at h
  rcases h with rfl | rfl | rfl | rfl | rfl | rfl | rfl | rfl | rfl | rfl
  all_goals first
    | exact absurd hc (by decide)
    | decide

theorem not_boundary_of_printable {c : Char} (h : JsonText.Printable c) : isLineBoundary c = false := by
  rw [Bool.eq_false_iff]
  intro hb
  have hmem := mem_bareBoundaries hb h.1
  simp only [bareBoundaries, List.mem_cons, List.not_mem_nil, or_false] at hmem
  rcases hmem with rfl | rfl | rfl <;> exact absurd h (by decide)

namespace ResearchTrial

variable {t : ResearchTrial} {c : Char}

/-- The keys of a dump. -/
def fieldNames : List String :=
  ["hypothesis_id", "hypothesis_family", "exact_change", "economic_rationale", "development_period", "validation_period",
    "final_holdout_accessed", "created_before_result", "number_of_prior_trials"]

theorem printable_of_mem_fieldNames : ∀ name ∈ fieldNames, ∀ c ∈ name.toList, JsonText.Printable c := by
  simp [fieldNames, JsonText.Printable]

theorem mem_texts_modelDump {s : String} (h : s ∈ t.modelDump.texts) : s ∈ fieldNames ∨ s ∈ t.texts := by
  simp only [modelDump, JsonTree.texts, JsonTree.entryTexts, List.cons_append, List.nil_append, List.append_nil,
    List.mem_cons, List.not_mem_nil, or_false] at h
  simp only [fieldNames, texts, List.mem_cons, List.not_mem_nil, or_false]
  tauto

/-- What is written for a trial is printable ASCII and characters of its texts, none of them a control character. -/
theorem mem_modelDumpJson (h : c ∈ t.modelDumpJson) : JsonText.Printable c ∨ ' ' ≤ c ∧ ∃ s ∈ t.texts, c ∈ s.toList := by
  rcases JsonTree.mem_render t.modelDump h with h | ⟨hbare, s, hs, hc⟩
  · exact .inl h
  · rcases mem_texts_modelDump hs with hname | htext
    · exact .inl (printable_of_mem_fieldNames s hname c hc)
    · exact .inr ⟨hbare.1, s, htext, hc⟩

theorem not_boundary_of_mem_dump (ht : t.Unbroken) (h : c ∈ t.modelDumpJson) : isLineBoundary c = false := by
  rcases mem_modelDumpJson h with h | ⟨hc, s, hs, hmem⟩
  · exact not_boundary_of_printable h
  · rw [Bool.eq_false_iff]
    exact fun hb => ht s hs c hmem (mem_bareBoundaries hb hc)

theorem modelDumpJson_ne_nil (t : ResearchTrial) : t.modelDumpJson ≠ [] :=
  List.ne_nil_of_length_pos (JsonTree.length_render_pos false t.modelDump)

/-- The lines of some trials. -/
def lines (trials : List ResearchTrial) : List Char := trials.flatMap fun t => t.modelDumpJson ++ ['\n']

theorem lines_append (trials : List ResearchTrial) (t : ResearchTrial) :
    lines (trials ++ [t]) = lines trials ++ (t.modelDumpJson ++ ['\n']) := by
  simp [lines]

theorem splitLines_lines {trials : List ResearchTrial} (h : ∀ t ∈ trials, t.Unbroken) :
    splitLines (lines trials) = trials.map modelDumpJson := by
  induction trials with
  | nil => rfl
  | cons t trials ih =>
    rw [List.forall_mem_cons] at h
    have hline := splitLines_append (fun c hc => not_boundary_of_mem_dump h.1 hc) (lines trials)
    rw [lines, List.flatMap_cons, List.append_assoc, List.singleton_append, ← lines, hline, ih h.2, List.map_cons]

/-- No trial writes a carriage return: it is a control character. -/
theorem cr_notMem_lines (trials : List ResearchTrial) : '\r' ∉ lines trials := by
  intro h
  obtain ⟨t, -, h⟩ := List.mem_flatMap.mp h
  rcases List.mem_append.mp h with h | h
  · rcases mem_modelDumpJson h with h | ⟨h, -⟩
    · exact absurd h (by decide)
    · exact absurd h (by decide)
  · exact absurd h (by decide)

end ResearchTrial

namespace ResearchTrialRegistry

open ResearchTrial

variable {p : TrialModels}

/-- A trial that construction stripped is read back from its line. -/
theorem modelValidateJson_dump {t : ResearchTrial} (h : p.construct t = t) : modelValidateJson p t.modelDumpJson = .ok t := by
  have hread := p.validateJson_dump t
  rw [show t.stripped p.strip = t from h] at hread
  rw [modelValidateJson, hread]

/-- The file of unbroken trials is read back as these trials. -/
theorem readAll_lines {trials : List ResearchTrial} (h : ∀ t ∈ trials, t.Unbroken ∧ p.construct t = t) :
    readAll p (some (lines trials)) = .ok trials := by
  have hkept : (trials.map modelDumpJson).filter (fun line => decide (line ≠ [])) = trials.map modelDumpJson := by
    rw [List.filter_eq_self]
    intro line hline
    obtain ⟨t, -, rfl⟩ := List.mem_map.mp hline
    exact decide_eq_true (modelDumpJson_ne_nil t)
  rw [readAll, universalNewlines_eq_self (cr_notMem_lines trials), splitLines_lines fun t ht => (h t ht).1, hkept,
    Loops.mapM_eq_ok, List.forall₂_map_left_iff, List.forall₂_same]
  exact fun t ht => modelValidateJson_dump (h t ht).2

/-! ## Budgets -/

/-- The caps on what a registry holds. -/
structure WithinBudget (trials : List ResearchTrial) : Prop where
  families : (families trials).card ≤ 4
  variants : ∀ family, familyTrials trials family ≤ 2
  total : trials.length ≤ 8

variable {existing : List ResearchTrial} {t : ResearchTrial} {file : RegistryFile}

theorem families_append (existing : List ResearchTrial) (t : ResearchTrial) :
    ResearchTrialRegistry.families (existing ++ [t]) =
      insert t.hypothesisFamily (ResearchTrialRegistry.families existing) := by
  ext family
  simp [ResearchTrialRegistry.families, eq_comm]

theorem familyTrials_append (existing : List ResearchTrial) (t : ResearchTrial) (family : String) :
    familyTrials (existing ++ [t]) family =
      familyTrials existing family + if t.hypothesisFamily = family then 1 else 0 := by
  simp [familyTrials, List.countP_append, List.countP_cons]

/-- One more trial stays within the budgets exactly if it passes the three checks. -/
theorem withinBudget_append_iff (h : WithinBudget existing) :
    WithinBudget (existing ++ [t]) ↔
      ¬(t.hypothesisFamily ∉ ResearchTrialRegistry.families existing ∧
          maxFamilies ≤ (ResearchTrialRegistry.families existing).card) ∧
        ¬maxVariantsPerFamily ≤ familyTrials existing t.hypothesisFamily ∧ ¬maxTotalVariants ≤ existing.length := by
  have hfamilies := h.families
  unfold maxFamilies maxVariantsPerFamily maxTotalVariants
  constructor
  · rintro ⟨hf, hv, ht⟩
    refine ⟨?_, ?_, ?_⟩
    · rintro ⟨hnew, hfull⟩
      rw [families_append, Finset.card_insert_of_notMem hnew] at hf
      omega
    · have hown := hv t.hypothesisFamily
      rw [familyTrials_append, if_pos rfl] at hown
      omega
    · rw [List.length_append, List.length_singleton] at ht
      omega
  · rintro ⟨hf, hv, ht⟩
    refine ⟨?_, ?_, ?_⟩
    · rw [families_append]
      by_cases hmem : t.hypothesisFamily ∈ ResearchTrialRegistry.families existing
      · rwa [Finset.insert_eq_of_mem hmem]
      · rw [Finset.card_insert_of_notMem hmem]
        have hroom : ¬4 ≤ (ResearchTrialRegistry.families existing).card := fun hfull => hf ⟨hmem, hfull⟩
        omega
    · intro family
      have hothers := h.variants family
      rw [familyTrials_append]
      split_ifs with hown
      · subst hown
        omega
      · omega
    · rw [List.length_append, List.length_singleton]
      omega

/-! ## A call -/

/-- What a call may be rejected for: its flags, another definition under its id, or a budget. -/
def Refused (existing : List ResearchTrial) (t : ResearchTrial) : Prop :=
  t.createdBeforeResult = false ∨ t.finalHoldoutAccessed = true ∨
    (∃ item ∈ existing, item.hypothesisId = t.hypothesisId ∧ item ≠ t) ∨
    (t.hypothesisId ∉ existing.map (·.hypothesisId) ∧ ¬WithinBudget (existing ++ [t]))

/-- A trial that a call writes: its flags hold, its id is new and the budgets have room for it. -/
structure Admitted (existing : List ResearchTrial) (t : ResearchTrial) : Prop where
  created : t.createdBeforeResult = true
  sealed : t.finalHoldoutAccessed = false
  newId : t.hypothesisId ∉ existing.map (·.hypothesisId)
  room : WithinBudget (existing ++ [t])

/-- The ways a call ends on a file that holds some trials. -/
inductive Ends (p : TrialModels) (existing : List ResearchTrial) (t : ResearchTrial) (file : RegistryFile) : Prop where
  | refused (message : String) (hresult : register p t file = (.error (.valueError message), file))
      (hwhy : Refused existing t)
  | known (hresult : register p t file = (.ok (), file)) (hmem : t ∈ existing)
  | written (hresult : register p t file = (.ok (), some (file.getD [] ++ (t.modelDumpJson ++ ['\n']))))
      (hadmitted : Admitted existing t)

theorem register_ends (hread : readAll p file = .ok existing) (hbudget : WithinBudget existing) :
    Ends p existing t file := by
  by_cases hcreated : t.createdBeforeResult = false
  · exact .refused _ (by rw [register, if_pos hcreated]) (.inl hcreated)
  by_cases hsealed : t.finalHoldoutAccessed = true
  · exact .refused _ (by rw [register, if_neg hcreated, if_pos hsealed]) (.inr (.inl hsealed))
  cases hfind : existing.find? fun item => decide (item.hypothesisId = t.hypothesisId) with
  | some sameId =>
    have hmem := List.mem_of_find?_eq_some hfind
    have hid : sameId.hypothesisId = t.hypothesisId := by simpa using List.find?_some hfind
    by_cases hsame : sameId = t
    · subst hsame
      exact .known (by simp [register, hcreated, hsealed, hread, hfind]) hmem
    · exact .refused "research trial definition is immutable" (by simp [register, hcreated, hsealed, hread, hfind, hsame])
        (.inr (.inr (.inl ⟨sameId, hmem, hid, hsame⟩)))
  | none =>
    have hnew : t.hypothesisId ∉ existing.map (·.hypothesisId) := by
      intro hmem
      obtain ⟨item, hitem, hid⟩ := List.mem_map.mp hmem
      have := List.find?_eq_none.mp hfind item hitem
      exact this (decide_eq_true hid)
    have hroom := withinBudget_append_iff (t := t) hbudget
    have hover : ¬WithinBudget (existing ++ [t]) → Refused existing t := fun h => .inr (.inr (.inr ⟨hnew, h⟩))
    by_cases hfamilies : t.hypothesisFamily ∉ ResearchTrialRegistry.families existing ∧
        maxFamilies ≤ (ResearchTrialRegistry.families existing).card
    · refine .refused "research family budget exhausted" ?_ (hover fun h => (hroom.mp h).1 hfamilies)
      simp only [register, if_neg hcreated, if_neg hsealed, hread, hfind, if_pos hfamilies]
    by_cases hvariants : maxVariantsPerFamily ≤ familyTrials existing t.hypothesisFamily
    · refine .refused "research variant budget exhausted for family" ?_ (hover fun h => (hroom.mp h).2.1 hvariants)
      simp only [register, if_neg hcreated, if_neg hsealed, hread, hfind, if_neg hfamilies, if_pos hvariants]
    by_cases htotal : maxTotalVariants ≤ existing.length
    · refine .refused "total research variant budget exhausted" ?_ (hover fun h => (hroom.mp h).2.2 htotal)
      simp only [register, if_neg hcreated, if_neg hsealed, hread, hfind, if_neg hfamilies, if_neg hvariants, if_pos htotal]
    refine .written ?_ ⟨by simpa using hcreated, by simpa using hsealed, hnew, hroom.mpr ⟨hfamilies, hvariants, htotal⟩⟩
    simp only [register, if_neg hcreated, if_neg hsealed, hread, hfind, if_neg hfamilies, if_neg hvariants, if_neg htotal]

end ResearchTrialRegistry

end TradingPlatform
