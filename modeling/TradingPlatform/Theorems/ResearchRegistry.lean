import TradingPlatform.Lemmas.ResearchRegistry

/-!
# The trials a registry gives back

In every run from an absent file in which no trial that is written holds one of the three line boundaries JSON leaves unescaped,
the registry reads back exactly what it accepted, within its budgets. A trial that holds one is accepted, and from then on
every read fails.
-/

namespace TradingPlatform

open ResearchTrialRegistry

/-- What a registry promises in a state of a run. -/
structure RegistrySound (p : TrialModels) (s : ResearchRun) : Prop where
  readAll : readAll p s.file = .ok s.accepted
  distinct : (s.accepted.map (·.hypothesisId)).Nodup
  budget : WithinBudget s.accepted
  /-- A call that returns has its trial among the accepted ones. -/
  returned : ∀ t file, register p (p.construct t) s.file = (.ok (), file) →
    p.construct t ∈ (ResearchRun.step p s t).accepted
  /-- A call that raises leaves the file and has one of the named reasons. -/
  raised : ∀ t e file, register p (p.construct t) s.file = (.error e, file) →
    file = s.file ∧ Refused s.accepted (p.construct t)

namespace ResearchRegistryAux

/-- The file is the lines of the accepted trials, each of which its line gives back. -/
structure Written (p : TrialModels) (s : ResearchRun) : Prop where
  file : s.file = none ∧ s.accepted = [] ∨ s.file = some (ResearchTrial.lines s.accepted)
  lines : ∀ t ∈ s.accepted, t.Unbroken ∧ p.construct t = t
  distinct : (s.accepted.map (·.hypothesisId)).Nodup
  budget : WithinBudget s.accepted

variable {p : TrialModels} {s : ResearchRun} {t : ResearchTrial}

theorem Written.start (p : TrialModels) : Written p {} where
  file := .inl ⟨rfl, rfl⟩
  lines := by simp
  distinct := by simp
  budget := ⟨by simp [ResearchTrialRegistry.families], by simp [familyTrials], by simp⟩

theorem Written.readAll (h : Written p s) : readAll p s.file = .ok s.accepted := by
  rcases h.file with ⟨hfile, hnone⟩ | hfile
  · rw [hfile, hnone]
    rfl
  · rw [hfile]
    exact readAll_lines h.lines

/-- One more line after those of the accepted trials. -/
theorem Written.file_append (h : Written p s) (t : ResearchTrial) :
    s.file.getD [] ++ (t.modelDumpJson ++ ['\n']) = ResearchTrial.lines (s.accepted ++ [t]) := by
  rw [ResearchTrial.lines_append]
  rcases h.file with ⟨hfile, hnone⟩ | hfile
  · rw [hfile, hnone]
    rfl
  · rw [hfile]
    rfl

theorem construct_construct (p : TrialModels) (t : ResearchTrial) : p.construct (p.construct t) = p.construct t := by
  simp only [TrialModels.construct, ResearchTrial.stripped, p.strip_strip]

theorem step_refused {message : String} (h : register p (p.construct t) s.file = (.error (.valueError message), s.file)) :
    ResearchRun.step p s t = s := by
  rw [ResearchRun.step, h]

theorem step_known (h : register p (p.construct t) s.file = (.ok (), s.file)) (hmem : p.construct t ∈ s.accepted) :
    ResearchRun.step p s t = s := by
  rw [ResearchRun.step, h]
  dsimp only
  rw [if_pos (List.mem_map_of_mem hmem)]

theorem step_written {file : RegistryFile} (h : register p (p.construct t) s.file = (.ok (), file))
    (hnew : (p.construct t).hypothesisId ∉ s.accepted.map (·.hypothesisId)) :
    ResearchRun.step p s t = ⟨file, s.accepted ++ [p.construct t]⟩ := by
  rw [ResearchRun.step, h]
  dsimp only
  rw [if_neg hnew]

/-- A call keeps the file written when a trial it admits is unbroken. -/
theorem Written.step (h : Written p s) (hunbroken : Admitted s.accepted (p.construct t) → (p.construct t).Unbroken) :
    Written p (ResearchRun.step p s t) := by
  cases register_ends (t := p.construct t) h.readAll h.budget with
  | refused message hresult _ => rwa [step_refused hresult]
  | known hresult hmem => rwa [step_known hresult hmem]
  | written hresult hadmitted =>
    rw [h.file_append] at hresult
    rw [step_written hresult hadmitted.newId]
    refine ⟨.inr rfl, ?_, ?_, hadmitted.room⟩
    · intro item hitem
      rcases List.mem_append.mp hitem with hitem | hitem
      · exact h.lines item hitem
      · obtain rfl := List.mem_singleton.mp hitem
        exact ⟨hunbroken hadmitted, construct_construct p t⟩
    · rw [List.map_append, List.nodup_append]
      refine ⟨h.distinct, List.nodup_singleton _, ?_⟩
      rintro a ha b hb rfl
      obtain rfl : a = (p.construct t).hypothesisId := by simpa using hb
      exact hadmitted.newId ha

/-- What the invariant says of the next call, whatever its trial. -/
theorem Written.sound (h : Written p s) : RegistrySound p s where
  readAll := h.readAll
  distinct := h.distinct
  budget := h.budget
  returned := by
    intro t file hreturn
    cases register_ends (t := p.construct t) h.readAll h.budget with
    | refused message hresult _ =>
      rw [hresult] at hreturn
      nomatch hreturn
    | known hresult hmem =>
      rw [step_known hresult hmem]
      exact hmem
    | written hresult hadmitted =>
      rw [step_written hresult hadmitted.newId]
      simp
  raised := by
    intro t e file hraise
    cases register_ends (t := p.construct t) h.readAll h.budget with
    | refused message hresult hwhy =>
      rw [hresult, Prod.mk.injEq] at hraise
      exact ⟨hraise.2.symm, hwhy⟩
    | known hresult _ =>
      rw [hresult] at hraise
      nomatch hraise
    | written hresult _ =>
      rw [hresult] at hraise
      nomatch hraise

end ResearchRegistryAux

open ResearchRegistryAux

/-- In a run whose written trials are unbroken, every state reached is sound. -/
theorem registry_sound (p : TrialModels) (calls : List ResearchTrial)
    (h : Loops.Meets (ResearchRun.step p) (fun s t => Admitted s.accepted (p.construct t) → (p.construct t).Unbroken) {}
      calls) : RegistrySound p (calls.foldl (ResearchRun.step p) {}) :=
  (Loops.run_keeps (fun _ _ hs ht => Written.step hs ht) (Written.start p) h).sound

/-! ## A library of models -/

namespace ResearchRegistryAux

theorem strip_strip (s : String) : strip (strip s) = strip s := by
  have hstrip : ∀ s, strip s = String.ofList (List.rdropWhile isPythonSpace (s.toList.dropWhile isPythonSpace)) := fun _ => rfl
  -- The stripped text is the beginning of one whose first character is kept.
  have hfirst : ∀ l : List Char, ((l.dropWhile isPythonSpace).rdropWhile isPythonSpace).dropWhile isPythonSpace =
      (l.dropWhile isPythonSpace).rdropWhile isPythonSpace := by
    intro l
    rw [List.dropWhile_eq_self_iff]
    intro hpos
    have hstart := List.rdropWhile_prefix isPythonSpace (l := l.dropWhile isPythonSpace)
    have hlength : 0 < (l.dropWhile isPythonSpace).length := lt_of_lt_of_le hpos hstart.length_le
    rw [hstart.getElem hpos]
    exact List.dropWhile_get_zero_not isPythonSpace l hlength
  rw [hstrip, hstrip, String.toList_ofList, hfirst, List.rdropWhile_idempotent]

/-- A trial of the tree of a line. -/
def trialOfTree : JsonTree → Option ResearchTrial
  | .obj entries =>
    match entries.map Prod.snd with
    | [.str id, .str family, .str change, .str rationale, .str development, .str validation, .bool holdout, .bool created,
        .int trials] =>
      if entries.map Prod.fst = ResearchTrial.fieldNames ∧ 0 ≤ trials then
        some ⟨id, family, change, rationale, development, validation, holdout, created, trials.toNat⟩
      else none
    | _ => none
  | _ => none

theorem trialOfTree_modelDump (t : ResearchTrial) : trialOfTree t.modelDump = some t := by
  simp [trialOfTree, ResearchTrial.modelDump, ResearchTrial.fieldNames]

/-- Models that read a line as compact JSON with the fields in their order. -/
def compactModels : TrialModels where
  strip := strip
  validateJson line := ((JsonTree.parse line).bind trialOfTree).map (ResearchTrial.stripped strip)
  strip_strip := strip_strip
  validateJson_dump t := by
    rw [ResearchTrial.modelDumpJson, JsonTree.parse_render, Option.bind_some, trialOfTree_modelDump, Option.map_some]

theorem mem_toList_strip {s : String} {c : Char} (h : c ∈ (strip s).toList) : c ∈ s.toList := by
  unfold strip at h
  rw [String.toList_ofList] at h
  have hfirst := (List.rdropWhile_prefix isPythonSpace _).subset h
  exact (List.dropWhile_sublist _).subset hfirst

/-- Stripping leaves no boundary that was not there. -/
theorem unbroken_construct {t : ResearchTrial} (h : t.Unbroken) : (compactModels.construct t).Unbroken := by
  intro s hs c hc
  have htexts : (compactModels.construct t).texts = t.texts.map strip := rfl
  rw [htexts] at hs
  obtain ⟨text, htext, rfl⟩ := List.mem_map.mp hs
  exact h text htext c (mem_toList_strip hc)

/-- A hypothesis whose change is told in one text. -/
def sampleTrial (id change : String) : ResearchTrial where
  hypothesisId := id
  hypothesisFamily := "REGIME_SELECTION"
  exactChange := change
  economicRationale := "trend entries pay in trending regimes"
  developmentPeriod := "2023-01/2024-06"
  validationPeriod := "2024-07/2025-03"
  numberOfPriorTrials := 0

theorem sampleTrial_unbroken (id change : String) (h : ∀ s ∈ [id, change], ∀ c ∈ s.toList, c ∉ bareBoundaries) :
    (sampleTrial id change).Unbroken := by
  have hid := h id (by simp)
  have hchange := h change (by simp)
  simp [ResearchTrial.Unbroken, ResearchTrial.texts, sampleTrial, bareBoundaries] at hid hchange ⊢
  exact ⟨hid, hchange⟩

end ResearchRegistryAux

/-- Two definitions, the first of them registered twice. -/
theorem registry_sound_twice :
    RegistrySound compactModels ([sampleTrial "g5-h1" "filter by regime", sampleTrial "g5-h1" "filter by regime",
      sampleTrial "g5-h2" "filter by ADX é"].foldl (ResearchRun.step compactModels) {}) :=
  registry_sound compactModels _
    ⟨fun _ => unbroken_construct (sampleTrial_unbroken _ _ (by simp [bareBoundaries])),
      fun _ => unbroken_construct (sampleTrial_unbroken _ _ (by simp [bareBoundaries])),
      fun _ => unbroken_construct (sampleTrial_unbroken _ _ (by simp [bareBoundaries])), trivial⟩

/-- A change told over two lines that a line separator divides is accepted, and the file is not read again. -/
theorem registry_broken :
    ∃ t, (register compactModels (compactModels.construct t) none).1 = .ok () ∧
      readAll compactModels (ResearchRun.step compactModels {} t).file = .error .validationError ∧
      ¬RegistrySound compactModels (ResearchRun.step compactModels {} t) := by
  have hread : readAll compactModels
      (ResearchRun.step compactModels {} (sampleTrial "g5-h1" "filter by regime\u2028keep the stop")).file =
      .error .validationError := by decide +kernel
  refine ⟨sampleTrial "g5-h1" "filter by regime\u2028keep the stop", by decide +kernel, hread, ?_⟩
  intro h
  rw [h.readAll] at hread
  nomatch hread

end TradingPlatform
