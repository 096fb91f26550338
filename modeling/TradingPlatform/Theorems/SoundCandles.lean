import TradingPlatform.Engine.CandleValidation
import TradingPlatform.Lib.Loops

/-!
# Sound candles

The validator accepts the sound series. It raises another error than its own where open times with and without a zone meet in the sort,
and where a closed candle of a sound series has a price that the validated candle does not take.
-/

namespace TradingPlatform

namespace CandleValidator

variable {e : CandleError}

/-! ## The statement -/

section Statement

variable (timeframe : String) (candles : List CandleInput) (exchangeServerTime : Datetime) (maxAge : ℤ)

/-- The closed candles, by their open times. -/
def closedInOrder : List CandleInput :=
  (candles.filter (confirmed exchangeServerTime)).insertionSort earlier

/-- A sound series, for the duration of its timeframe. -/
structure SoundFor (duration : ℤ) : Prop where
  serverUtc : exchangeServerTime.isUtc = true
  utc : ∀ c ∈ candles, c.openTime.isUtc = true ∧ c.closeTime.isUtc = true
  distinct : (candles.map fun c => c.openTime.key).Nodup
  spans : ∀ c ∈ candles, c.closeTime.key - c.openTime.key = duration
  someClosed : ∃ c ∈ candles, confirmed exchangeServerTime c = true
  contiguous : (closedInOrder candles exchangeServerTime).IsChain fun a b => b.openTime.key - a.openTime.key = duration
  fresh : ∀ c ∈ (closedInOrder candles exchangeServerTime).getLast?, exchangeServerTime.key - c.closeTime.key ≤ maxAge

/-- A sound series of a supported timeframe. -/
def Sound : Prop := ∃ duration, candleDuration timeframe = some duration ∧ SoundFor candles exchangeServerTime maxAge duration

/-- A validated candle of a closed one. -/
structure Validates (c : CandleInput) (v : ValidatedCandle) : Prop where
  times : v.openTime = c.openTime ∧ v.closeTime = c.closeTime ∧ v.receivedAt = c.receivedAt ∧ v.sourceEventTime = c.sourceEventTime
  prices : v.openPrice = c.openPrice ∧ v.highPrice = c.highPrice ∧ v.lowPrice = c.lowPrice ∧ v.closePrice = c.closePrice
  volume : v.volume = c.volume
  closed : v.closed = true

/-- The validator accepts exactly the sound series: it returns the closed candles by their open times, whatever the order they came in, and
fails with its own error only. -/
structure AcceptsSound (symbol : String) (now : Datetime) : Prop where
  accepts : (∃ set, validate symbol timeframe candles exchangeServerTime maxAge now = .ok set) ↔ Sound timeframe candles exchangeServerTime maxAge
  returns : ∀ set, validate symbol timeframe candles exchangeServerTime maxAge now = .ok set →
    List.Forall₂ Validates (closedInOrder candles exchangeServerTime) set.candles
  perm : ∀ set, validate symbol timeframe candles exchangeServerTime maxAge now = .ok set → ∀ candles', candles.Perm candles' →
    validate symbol timeframe candles' exchangeServerTime maxAge now = .ok set
  fails : ∀ e, validate symbol timeframe candles exchangeServerTime maxAge now = .error e →
    ∃ blockCode message, e = .marketDataValidation blockCode message

/-- The prices and the volume that a validated candle takes. -/
def Priced (c : CandleInput) : Prop := (0 < c.openPrice ∧ 0 < c.highPrice ∧ 0 < c.lowPrice ∧ 0 < c.closePrice) ∧ 0 ≤ c.volume

/-- The condition: no open times that do not compare, and no closed candle of a sound series without a price. -/
def Comparable : Prop :=
  mixed candles = false ∧
    (Sound timeframe candles exchangeServerTime maxAge → ∀ c ∈ candles, confirmed exchangeServerTime c = true → Priced c)

end Statement

/-! ## The order of the candles -/

variable {candles candles' : List CandleInput} {exchangeServerTime : Datetime} {duration maxAge : ℤ}

instance : Std.Total earlier := ⟨fun a b => Int.le_total a.openTime.key b.openTime.key⟩

instance : IsTrans CandleInput earlier := ⟨fun _ _ _ h h' => Int.le_trans h h'⟩

/-- Candles of distinct open times have one order. -/
theorem eq_of_ordered {ordered ordered' : List CandleInput} (hdistinct : (candles.map fun c => c.openTime.key).Nodup)
    (h : ordered.Pairwise earlier) (h' : ordered'.Pairwise earlier) (hperm : ordered.Perm ordered') (hsub : ordered ⊆ candles) :
    ordered = ordered' := by
  refine List.Perm.eq_of_pairwise (fun a b ha hb hab hba => ?_) h h' hperm
  exact List.inj_on_of_nodup_map hdistinct (hsub ha) (hsub (hperm.mem_iff.mpr hb)) (Int.le_antisymm hab hba)

theorem insertionSort_perm (hdistinct : (candles.map fun c => c.openTime.key).Nodup) (h : candles.Perm candles') :
    candles.insertionSort earlier = candles'.insertionSort earlier :=
  eq_of_ordered hdistinct (List.pairwise_insertionSort earlier candles) (List.pairwise_insertionSort earlier candles')
    ((List.perm_insertionSort earlier candles).trans (h.trans (List.perm_insertionSort earlier candles').symm))
    (List.perm_insertionSort earlier candles).subset

/-- The closed ones of the sorted candles are the sorted closed ones. -/
theorem filter_insertionSort (hdistinct : (candles.map fun c => c.openTime.key).Nodup) :
    (candles.insertionSort earlier).filter (confirmed exchangeServerTime) = closedInOrder candles exchangeServerTime := by
  have hperm := List.perm_insertionSort earlier candles
  have hclosed := List.perm_insertionSort earlier (candles.filter (confirmed exchangeServerTime))
  refine eq_of_ordered hdistinct ((List.pairwise_insertionSort earlier candles).filter _) (List.pairwise_insertionSort earlier _)
    ((hperm.filter _).trans hclosed.symm) fun c hc => hperm.subset (List.mem_of_mem_filter hc)

theorem mem_closedInOrder {c : CandleInput} :
    c ∈ closedInOrder candles exchangeServerTime ↔ c ∈ candles ∧ confirmed exchangeServerTime c = true :=
  (List.perm_insertionSort earlier _).mem_iff.trans List.mem_filter

/-! ## The loop -/

theorem requireUtc_ok {value : Datetime} {fieldName : String} {u : Unit} : requireUtc value fieldName = .ok u ↔ value.isUtc = true := by
  unfold requireUtc
  split_ifs with h
  · exact ⟨fun _ => h, fun _ => rfl⟩
  · exact ⟨fun h' => (nomatch h'), fun h' => absurd h' h⟩

/-- An error of the validator's own. -/
def IsOwn (e : CandleError) : Prop := ∃ blockCode message, e = .marketDataValidation blockCode message

theorem requireUtc_error {value : Datetime} {fieldName : String} (h : requireUtc value fieldName = .error e) : IsOwn e := by
  unfold requireUtc at h
  split_ifs at h
  exact ⟨_, _, (Except.error.inj h).symm⟩

theorem checkCandle_ok {state state' : List ℤ × List CandleInput} {c : CandleInput} :
    checkCandle duration exchangeServerTime state c = .ok state' ↔ c.openTime.isUtc = true ∧ c.closeTime.isUtc = true ∧
      c.openTime.key ∉ state.1 ∧ c.closeTime.key - c.openTime.key = duration ∧
      (state.1 ++ [c.openTime.key], if confirmed exchangeServerTime c then state.2 ++ [c] else state.2) = state' := by
  unfold checkCandle
  rw [Loops.bind_eq_ok]
  simp only [Loops.bind_eq_ok, requireUtc_ok, exists_and_left, exists_const]
  rw [Loops.guard_eq_ok, Loops.guard_eq_ok]
  simp only [not_not, pure, Except.pure, Except.ok.injEq]

theorem checkCandle_error {state : List ℤ × List CandleInput} {c : CandleInput}
    (h : checkCandle duration exchangeServerTime state c = .error e) : IsOwn e := by
  unfold checkCandle at h
  cases hopen : requireUtc c.openTime "open_time" with
  | error e' =>
    rw [hopen] at h
    obtain rfl : e' = e := Except.error.inj h
    exact requireUtc_error hopen
  | ok u =>
    cases hclose : requireUtc c.closeTime "close_time" with
    | error e' =>
      rw [hopen, hclose] at h
      obtain rfl : e' = e := Except.error.inj h
      exact requireUtc_error hclose
    | ok u' =>
      rw [hopen, hclose] at h
      by_cases hseen : c.openTime.key ∈ state.1
      · simp only [bind, Except.bind, if_pos hseen] at h
        exact ⟨_, _, (Except.error.inj h).symm⟩
      · by_cases hspan : c.closeTime.key - c.openTime.key ≠ duration
        · simp only [bind, Except.bind, if_neg hseen, if_pos hspan] at h
          exact ⟨_, _, (Except.error.inj h).symm⟩
        · simp only [bind, Except.bind, if_neg hseen, if_neg hspan] at h
          nomatch h

theorem checkCandles_ok {ordered : List CandleInput} {state state' : List ℤ × List CandleInput} :
    ordered.foldlM (checkCandle duration exchangeServerTime) state = .ok state' ↔
      (∀ c ∈ ordered, c.openTime.isUtc = true ∧ c.closeTime.isUtc = true) ∧ (∀ c ∈ ordered, c.openTime.key ∉ state.1) ∧
        (ordered.map fun c => c.openTime.key).Nodup ∧ (∀ c ∈ ordered, c.closeTime.key - c.openTime.key = duration) ∧
        (state.1 ++ ordered.map fun c => c.openTime.key, state.2 ++ ordered.filter (confirmed exchangeServerTime)) = state' := by
  induction ordered generalizing state with
  | nil => simp [pure, Except.pure]
  | cons c ordered ih =>
    rw [List.foldlM_cons, Loops.bind_eq_ok]
    constructor
    · rintro ⟨state₁, hfirst, hrest⟩
      obtain ⟨hopen, hclose, hnew, hspan, rfl⟩ := checkCandle_ok.mp hfirst
      obtain ⟨hutc, hfresh, hdistinct, hspans, rfl⟩ := ih.mp hrest
      have hhead : c.openTime.key ∉ ordered.map fun c => c.openTime.key := by
        intro hmem
        obtain ⟨c', hc', hkey⟩ := List.mem_map.mp hmem
        exact hfresh c' hc' (List.mem_append_right _ (by rw [hkey]; exact List.mem_singleton_self _))
      refine ⟨?_, ?_, List.nodup_cons.mpr ⟨hhead, hdistinct⟩, ?_, ?_⟩
      · exact List.forall_mem_cons.mpr ⟨⟨hopen, hclose⟩, hutc⟩
      · exact List.forall_mem_cons.mpr ⟨hnew, fun c' hc' hmem => hfresh c' hc' (List.mem_append_left _ hmem)⟩
      · exact List.forall_mem_cons.mpr ⟨hspan, hspans⟩
      · by_cases hconfirmed : confirmed exchangeServerTime c = true
        · simp [hconfirmed]
        · simp [hconfirmed]
    · rintro ⟨hutc, hfresh, hdistinct, hspans, rfl⟩
      obtain ⟨⟨hopen, hclose⟩, hutc'⟩ := List.forall_mem_cons.mp hutc
      obtain ⟨hnew, hfresh'⟩ := List.forall_mem_cons.mp hfresh
      obtain ⟨hspan, hspans'⟩ := List.forall_mem_cons.mp hspans
      obtain ⟨hhead, hdistinct'⟩ := List.nodup_cons.mp hdistinct
      refine ⟨_, checkCandle_ok.mpr ⟨hopen, hclose, hnew, hspan, rfl⟩, ih.mpr ⟨hutc', fun c' hc' hmem => ?_, hdistinct', hspans', ?_⟩⟩
      · rcases List.mem_append.mp hmem with hmem | hmem
        · exact hfresh' c' hc' hmem
        · exact hhead (List.mem_map.mpr ⟨c', hc', List.mem_singleton.mp hmem⟩)
      · by_cases hconfirmed : confirmed exchangeServerTime c = true
        · simp [hconfirmed]
        · simp [hconfirmed]

theorem checkCandles_error {ordered : List CandleInput} {state : List ℤ × List CandleInput}
    (h : ordered.foldlM (checkCandle duration exchangeServerTime) state = .error e) : IsOwn e := by
  induction ordered generalizing state with
  | nil => nomatch h
  | cons c ordered ih =>
    rw [List.foldlM_cons] at h
    cases hfirst : checkCandle duration exchangeServerTime state c with
    | error e' =>
      rw [hfirst] at h
      obtain rfl : e' = e := Except.error.inj h
      exact checkCandle_error hfirst
    | ok state₁ =>
      rw [hfirst] at h
      exact ih h

/-! ## The closed candles -/

theorem hasGap_eq_false {closed : List CandleInput} :
    hasGap duration closed = false ↔ closed.IsChain fun a b => b.openTime.key - a.openTime.key = duration := by
  induction closed with
  | nil => simp [hasGap]
  | cons a closed ih =>
    cases closed with
    | nil => simp [hasGap]
    | cons b closed =>
      rw [List.isChain_cons_cons, ← ih]
      unfold hasGap
      simp

theorem sortCandles_ok {ordered : List CandleInput} :
    sortCandles candles = .ok ordered ↔ mixed candles = false ∧ candles.insertionSort earlier = ordered := by
  unfold sortCandles
  cases hmixed : mixed candles with
  | true => exact ⟨fun h => (nomatch h), fun h => (nomatch h.1)⟩
  | false => exact ⟨fun h => ⟨rfl, Except.ok.inj h⟩, fun h => congrArg Except.ok h.2⟩

/-- A series in UTC has no open times that do not compare. -/
theorem SoundFor.not_mixed (h : SoundFor candles exchangeServerTime maxAge duration) : mixed candles = false := by
  have hzone : ∀ c ∈ candles, c.openTime.hasZone = true := by
    intro c hc
    have hutc := (h.utc c hc).1
    cases hopen : c.openTime with
    | naive wall =>
      rw [hopen] at hutc
      nomatch hutc
    | aware wall offset => rfl
  unfold mixed
  rw [Bool.and_eq_false_iff]
  right
  rw [List.any_eq_false]
  intro c hc
  rw [hzone c hc]
  simp

/-- The closed candles are returned exactly of a sound series. -/
theorem closedCandles_ok {closed : List CandleInput} {latest : CandleInput} (hserver : exchangeServerTime.isUtc = true) :
    closedCandles duration candles exchangeServerTime maxAge = .ok (closed, latest) ↔
      SoundFor candles exchangeServerTime maxAge duration ∧ closedInOrder candles exchangeServerTime = closed ∧
        closed.getLast? = some latest := by
  have hperm := List.perm_insertionSort earlier candles
  have hkeys : (candles.insertionSort earlier |>.map fun c => c.openTime.key).Perm (candles.map fun c => c.openTime.key) := hperm.map _
  unfold closedCandles
  rw [Loops.bind_eq_ok]
  constructor
  · rintro ⟨ordered, hsort, h⟩
    obtain ⟨-, rfl⟩ := sortCandles_ok.mp hsort
    obtain ⟨-, h⟩ := Loops.guard_eq_ok.mp h
    obtain ⟨state, hloop, h⟩ := Loops.bind_eq_ok.mp h
    obtain ⟨hutc, -, hdistinct, hspans, rfl⟩ := checkCandles_ok.mp hloop
    have hdistinct' := hkeys.nodup_iff.mp hdistinct
    dsimp only at h
    rw [List.nil_append, filter_insertionSort hdistinct'] at h
    cases hlast : (closedInOrder candles exchangeServerTime).getLast? with
    | none =>
      rw [hlast] at h
      nomatch h
    | some last =>
      rw [hlast] at h
      obtain ⟨hgap, h⟩ := Loops.guard_eq_ok.mp h
      obtain ⟨hstale, h⟩ := Loops.guard_eq_ok.mp h
      obtain ⟨rfl, rfl⟩ := Prod.mk.inj (Except.ok.inj h)
      have hmem := mem_closedInOrder.mp (List.mem_of_getLast? hlast)
      refine ⟨⟨hserver, fun c hc => hutc c (hperm.mem_iff.mpr hc), hdistinct', fun c hc => hspans c (hperm.mem_iff.mpr hc),
        ⟨last, hmem.1, hmem.2⟩, ?_, fun c hc => ?_⟩, rfl, hlast⟩
      · rw [← hasGap_eq_false]
        simpa using hgap
      · obtain rfl : last = c := Option.some.inj (hlast.symm.trans hc)
        omega
  · rintro ⟨hsound, rfl, hlast⟩
    refine ⟨candles.insertionSort earlier, sortCandles_ok.mpr ⟨hsound.not_mixed, rfl⟩, Loops.guard_eq_ok.mpr ⟨fun hnil => ?_, ?_⟩⟩
    · obtain ⟨c, hc, -⟩ := hsound.someClosed
      have hmem := hperm.mem_iff.mpr hc
      rw [hnil] at hmem
      nomatch hmem
    · refine Loops.bind_eq_ok.mpr ⟨_, checkCandles_ok.mpr ⟨fun c hc => hsound.utc c (hperm.mem_iff.mp hc), fun c _ => by simp,
        hkeys.nodup_iff.mpr hsound.distinct, fun c hc => hsound.spans c (hperm.mem_iff.mp hc), rfl⟩, ?_⟩
      dsimp only
      rw [List.nil_append, filter_insertionSort hsound.distinct, hlast]
      refine Loops.guard_eq_ok.mpr ⟨?_, Loops.guard_eq_ok.mpr ⟨?_, rfl⟩⟩
      · rw [hasGap_eq_false.mpr hsound.contiguous]
        simp
      · have hfresh := hsound.fresh latest hlast
        omega

theorem closedCandles_error (hmixed : mixed candles = false)
    (h : closedCandles duration candles exchangeServerTime maxAge = .error e) : IsOwn e := by
  have hsort : sortCandles candles = .ok (candles.insertionSort earlier) := sortCandles_ok.mpr ⟨hmixed, rfl⟩
  unfold closedCandles at h
  rw [hsort] at h
  by_cases hnil : candles.insertionSort earlier = []
  · simp only [bind, Except.bind, if_pos hnil] at h
    exact ⟨_, _, (Except.error.inj h).symm⟩
  · simp only [bind, Except.bind, if_neg hnil] at h
    cases hloop : (candles.insertionSort earlier).foldlM (checkCandle duration exchangeServerTime) ([], []) with
    | error e' =>
      rw [hloop] at h
      obtain rfl : e' = e := Except.error.inj h
      exact checkCandles_error hloop
    | ok state =>
      rw [hloop] at h
      cases hlast : state.2.getLast? with
      | none =>
        simp only [hlast] at h
        exact ⟨_, _, (Except.error.inj h).symm⟩
      | some latest =>
        by_cases hgap : hasGap duration state.2 = true
        · simp only [hlast, if_pos hgap] at h
          exact ⟨_, _, (Except.error.inj h).symm⟩
        · by_cases hstale : exchangeServerTime.key - latest.closeTime.key > maxAge
          · simp only [hlast, if_neg hgap, if_pos hstale] at h
            exact ⟨_, _, (Except.error.inj h).symm⟩
          · simp only [hlast, if_neg hgap, if_neg hstale] at h
            nomatch h

/-! ## Validation -/

theorem validatedCandle_ok {c : CandleInput} {v : ValidatedCandle} (h : validatedCandle c = .ok v) : Priced c ∧ Validates c v := by
  by_cases hpriced : Priced c
  · cases (dif_pos hpriced).symm.trans h
    exact ⟨hpriced, ⟨rfl, rfl, rfl, rfl⟩, ⟨rfl, rfl, rfl, rfl⟩, rfl, rfl⟩
  · nomatch (dif_neg hpriced).symm.trans h

theorem validatedCandle_of_priced {c : CandleInput} (h : Priced c) : ∃ v, validatedCandle c = .ok v := by
  exact ⟨_, dif_pos h⟩

theorem priced_of_mapM {closed : List CandleInput} {validated : List ValidatedCandle} (h : closed.mapM validatedCandle = .ok validated) :
    ∀ c ∈ closed, Priced c := by
  intro c hc
  obtain ⟨i, hi, rfl⟩ := List.getElem_of_mem hc
  have hall := Loops.mapM_eq_ok.mp h
  have hi' : i < validated.length := hall.length_eq ▸ hi
  exact (validatedCandle_ok (hall.get hi hi')).1

theorem mapM_validatedCandle {closed : List CandleInput} (h : ∀ c ∈ closed, Priced c) : ∃ validated, closed.mapM validatedCandle = .ok validated := by
  induction closed with
  | nil => exact ⟨[], rfl⟩
  | cons c closed ih =>
    obtain ⟨v, hv⟩ := validatedCandle_of_priced (h c List.mem_cons_self)
    obtain ⟨validated, hvalidated⟩ := ih fun c' hc' => h c' (List.mem_cons_of_mem c hc')
    exact ⟨v :: validated, Loops.mapM_eq_ok.mpr (List.Forall₂.cons hv (Loops.mapM_eq_ok.mp hvalidated))⟩

variable {symbol timeframe : String} {now : Datetime}

theorem validate_ok {set : ValidatedCandleSet} : validate symbol timeframe candles exchangeServerTime maxAge now = .ok set ↔
    ∃ latest validated, Sound timeframe candles exchangeServerTime maxAge ∧
      (closedInOrder candles exchangeServerTime).getLast? = some latest ∧
      (closedInOrder candles exchangeServerTime).mapM validatedCandle = .ok validated ∧
      { symbol := strip symbol, timeframe := strip timeframe, candles := validated, validatedAt := now, exchangeServerTime,
        alignedCloseTime := latest.closeTime } = set := by
  unfold validate
  cases hduration : candleDuration timeframe with
  | none =>
    constructor
    · exact fun h => nomatch h
    · rintro ⟨-, -, ⟨duration, hduration', -⟩, -⟩
      rw [hduration] at hduration'
      nomatch hduration'
  | some duration =>
    dsimp only
    rw [Loops.bind_eq_ok]
    constructor
    · rintro ⟨u, hserver, h⟩
      obtain ⟨⟨closed, latest⟩, hclosed, h⟩ := Loops.bind_eq_ok.mp h
      obtain ⟨validated, hvalidated, h⟩ := Loops.bind_eq_ok.mp h
      obtain ⟨hsound, rfl, hlast⟩ := (closedCandles_ok (requireUtc_ok.mp hserver)).mp hclosed
      exact ⟨latest, validated, ⟨duration, hduration, hsound⟩, hlast, hvalidated, Except.ok.inj h⟩
    · rintro ⟨latest, validated, ⟨duration', hduration', hsound⟩, hlast, hvalidated, rfl⟩
      obtain rfl : duration = duration' := Option.some.inj (hduration.symm.trans hduration')
      exact ⟨(), requireUtc_ok.mpr hsound.serverUtc, Loops.bind_eq_ok.mpr ⟨(_, latest),
        (closedCandles_ok hsound.serverUtc).mpr ⟨hsound, rfl, hlast⟩, Loops.bind_eq_ok.mpr ⟨validated, hvalidated, rfl⟩⟩⟩

theorem Sound.perm (h : Sound timeframe candles exchangeServerTime maxAge) (hperm : candles.Perm candles') :
    Sound timeframe candles' exchangeServerTime maxAge ∧
      closedInOrder candles exchangeServerTime = closedInOrder candles' exchangeServerTime := by
  obtain ⟨duration, hduration, hsound⟩ := h
  have hdistinct : ((candles.filter (confirmed exchangeServerTime)).map fun c => c.openTime.key).Nodup :=
    (List.filter_sublist.map _).nodup hsound.distinct
  have hclosed : closedInOrder candles exchangeServerTime = closedInOrder candles' exchangeServerTime :=
    insertionSort_perm hdistinct (hperm.filter _)
  obtain ⟨c, hc, hconfirmed⟩ := hsound.someClosed
  refine ⟨⟨duration, hduration, ?_⟩, hclosed⟩
  exact {
    serverUtc := hsound.serverUtc
    utc := fun c hc => hsound.utc c (hperm.mem_iff.mpr hc)
    distinct := (hperm.map _).nodup_iff.mp hsound.distinct
    spans := fun c hc => hsound.spans c (hperm.mem_iff.mpr hc)
    someClosed := ⟨c, hperm.mem_iff.mp hc, hconfirmed⟩
    contiguous := hclosed ▸ hsound.contiguous
    fresh := hclosed ▸ hsound.fresh }

/-- What a refusal is, unless the timeframe is known and the server time is in UTC. -/
theorem refused_cases (h : validate symbol timeframe candles exchangeServerTime maxAge now = .error e) :
    IsOwn e ∨ exchangeServerTime.isUtc = true ∧ ∃ duration, candleDuration timeframe = some duration := by
  unfold validate at h
  cases hduration : candleDuration timeframe with
  | none =>
    rw [hduration] at h
    exact .inl ⟨_, _, (Except.error.inj h).symm⟩
  | some duration =>
    rw [hduration] at h
    cases hrequire : requireUtc exchangeServerTime "exchange_server_time" with
    | error e' =>
      simp only [bind, Except.bind, hrequire] at h
      obtain rfl : e' = e := Except.error.inj h
      exact .inl (requireUtc_error hrequire)
    | ok u => exact .inr ⟨requireUtc_ok.mp hrequire, duration, rfl⟩

/-- A server time that is not in UTC is refused. -/
theorem refused_server (hserver : exchangeServerTime.isUtc = false)
    (h : validate symbol timeframe candles exchangeServerTime maxAge now = .error e) : IsOwn e := by
  refine (refused_cases h).resolve_right fun hgoes => ?_
  rw [hserver] at hgoes
  exact Bool.false_ne_true hgoes.1

/-- Where the open times compare, only a closed candle without a price makes another error. -/
theorem validate_error (hmixed : mixed candles = false)
    (hpriced : Sound timeframe candles exchangeServerTime maxAge → ∀ c ∈ candles, confirmed exchangeServerTime c = true → Priced c)
    (h : validate symbol timeframe candles exchangeServerTime maxAge now = .error e) : IsOwn e := by
  rcases refused_cases h with hown | ⟨hserver, duration, hduration⟩
  · exact hown
  · unfold validate at h
    rw [hduration] at h
    have hrequire : requireUtc exchangeServerTime "exchange_server_time" = .ok () := requireUtc_ok.mpr hserver
    cases hclosed : closedCandles duration candles exchangeServerTime maxAge with
    | error e' =>
      simp only [bind, Except.bind, hrequire, hclosed] at h
      obtain rfl : e' = e := Except.error.inj h
      exact closedCandles_error hmixed hclosed
    | ok r =>
      obtain ⟨closed, latest⟩ := r
      obtain ⟨hsound, rfl, hlast⟩ := (closedCandles_ok hserver).mp hclosed
      obtain ⟨validated, hvalidated⟩ := mapM_validatedCandle fun c hc =>
        hpriced ⟨duration, hduration, hsound⟩ c (mem_closedInOrder.mp hc).1 (mem_closedInOrder.mp hc).2
      simp only [bind, Except.bind, hrequire, hclosed, hvalidated] at h
      nomatch h

end CandleValidator

open CandleValidator

/-- The validator accepts exactly the sound series where the series is refused before the sort, or its open times compare and its closed
candles have prices. -/
theorem validate_acceptsSound (symbol timeframe : String) (candles : List CandleInput) (exchangeServerTime : Datetime) (maxAge : ℤ)
    (now : Datetime) :
    AcceptsSound timeframe candles exchangeServerTime maxAge symbol now ↔
      candleDuration timeframe = none ∨ exchangeServerTime.isUtc = false ∨ Comparable timeframe candles exchangeServerTime maxAge := by
  constructor
  · intro hmeets
    rw [or_iff_not_imp_left, or_iff_not_imp_left]
    intro hsupported hserver
    obtain ⟨duration, hduration⟩ := Option.ne_none_iff_exists'.mp hsupported
    refine ⟨?_, fun hsound c hc hconfirmed => ?_⟩
    · by_contra hmixed
      have hsort : sortCandles candles = .error (.typeError "can't compare offset-naive and offset-aware datetimes") :=
        if_pos (by simpa using hmixed)
      have hraised : validate symbol timeframe candles exchangeServerTime maxAge now =
          .error (.typeError "can't compare offset-naive and offset-aware datetimes") := by
        unfold validate closedCandles requireUtc
        rw [hduration, hsort]
        simp only [bind, Except.bind, if_pos (by simpa using hserver)]
      obtain ⟨blockCode, message, hown⟩ := hmeets.fails _ hraised
      nomatch hown
    · obtain ⟨set, hset⟩ := hmeets.accepts.mpr hsound
      obtain ⟨latest, validated, -, -, hvalidated, -⟩ := validate_ok.mp hset
      have hmem : c ∈ closedInOrder candles exchangeServerTime := mem_closedInOrder.mpr ⟨hc, hconfirmed⟩
      exact priced_of_mapM hvalidated c hmem
  · intro hcondition
    have hpriced : Sound timeframe candles exchangeServerTime maxAge → ∀ c ∈ candles, confirmed exchangeServerTime c = true → Priced c := by
      intro hsound
      obtain ⟨duration, hduration, hfor⟩ := hsound
      rcases hcondition with hnone | hserver | hcomparable
      · rw [hduration] at hnone
        nomatch hnone
      · rw [hfor.serverUtc] at hserver
        nomatch hserver
      · exact hcomparable.2 ⟨duration, hduration, hfor⟩
    refine ⟨⟨fun ⟨set, hset⟩ => ?_, fun hsound => ?_⟩, fun set hset => ?_, fun set hset candles' hperm => ?_, fun e he => ?_⟩
    · obtain ⟨-, -, hsound, -⟩ := validate_ok.mp hset
      exact hsound
    · obtain ⟨validated, hvalidated⟩ := mapM_validatedCandle fun c hc =>
        hpriced hsound c (mem_closedInOrder.mp hc).1 (mem_closedInOrder.mp hc).2
      obtain ⟨duration, -, hfor⟩ := id hsound
      obtain ⟨c, hc, hconfirmed⟩ := hfor.someClosed
      have hne : closedInOrder candles exchangeServerTime ≠ [] := List.ne_nil_of_mem (mem_closedInOrder.mpr ⟨hc, hconfirmed⟩)
      exact ⟨_, validate_ok.mpr ⟨_, validated, hsound, List.getLast?_eq_getLast_of_ne_nil hne, hvalidated, rfl⟩⟩
    · obtain ⟨latest, validated, -, -, hvalidated, rfl⟩ := validate_ok.mp hset
      exact (Loops.mapM_eq_ok.mp hvalidated).imp fun c v h => (validatedCandle_ok h).2
    · obtain ⟨latest, validated, hsound, hlast, hvalidated, rfl⟩ := validate_ok.mp hset
      obtain ⟨hsound', hclosed⟩ := hsound.perm hperm
      rw [hclosed] at hlast hvalidated
      exact validate_ok.mpr ⟨latest, validated, hsound', hlast, hvalidated, rfl⟩
    · rcases hcondition with hnone | hserver | hcomparable
      · unfold validate at he
        rw [hnone] at he
        exact ⟨_, _, (Except.error.inj he).symm⟩
      · exact refused_server hserver he
      · exact validate_error hcomparable.1 hcomparable.2 he

/-! ## On fixed candles -/

/-- The candle of the first minute, by the clock given. -/
def firstMinute (clock : ℤ → Datetime) : CandleInput :=
  { openTime := clock 0, closeTime := clock minuteMicros, openPrice := 1, highPrice := 2, lowPrice := 1, closePrice := 2, volume := 1,
    receivedAt := clock minuteMicros }

/-- The clock of UTC. -/
def utcClock (wall : ℤ) : Datetime := .aware wall 0

/-- A candle without a zone beside one in UTC stops the sort, before its zone is asked for. -/
theorem validate_acceptsSound_naive : ¬∀ (symbol timeframe : String) (candles : List CandleInput) (exchangeServerTime : Datetime) (maxAge : ℤ)
    (now : Datetime), AcceptsSound timeframe candles exchangeServerTime maxAge symbol now := by
  intro h
  have hmeets := h "BTC/USDT" "1m" [firstMinute utcClock, firstMinute Datetime.naive] (utcClock minuteMicros) minuteMicros (utcClock minuteMicros)
  obtain ⟨blockCode, message, hown⟩ := hmeets.fails (.typeError "can't compare offset-naive and offset-aware datetimes") (by decide +kernel)
  nomatch hown

end TradingPlatform
