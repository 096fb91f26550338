import TradingPlatform.Lib.Table

/-!
# Versioned logs

A log of entries that carry a version, some of which also carry a move from one state to another. A log replays to a state and
a version if the versions count up from one, the moves are unbroken and the last one ends in the state. For a table whose rows
have logs, the lemmas say which changes keep every row where its log leads.
-/

namespace TradingPlatform.EventLog

variable {ε ρ κ σ : Type}

/-- Each move starts where the one before it ended, and the first one at the start. -/
def Unbroken (start : σ) : List (σ × σ) → Prop
  | [] => True
  | (source, target) :: rest => source = start ∧ Unbroken target rest

/-- The state the moves lead to. -/
def replay (start : σ) (moves : List (σ × σ)) : σ := moves.foldl (fun _ move => move.2) start

theorem unbroken_append {start source target : σ} {moves : List (σ × σ)} (h : Unbroken start moves)
    (hsource : replay start moves = source) : Unbroken start (moves ++ [(source, target)]) := by
  induction moves generalizing start with
  | nil => exact ⟨hsource.symm, trivial⟩
  | cons move rest ih => exact ⟨h.1, ih h.2 hsource⟩

section

variable (version : ε → Option ℕ) (move : ε → Option (σ × σ))

/-- The log leads from the start to a state and a version. -/
structure Replays (start : σ) (log : List ε) (state : σ) (n : ℕ) : Prop where
  versions : log.map version = (List.range' 1 n).map some
  unbroken : Unbroken start (log.filterMap move)
  state : replay start (log.filterMap move) = state

variable {version move} {start state target : σ} {log : List ε} {n : ℕ} {e : ε}

theorem Replays.nil (start : σ) : Replays version move start [] start 0 := ⟨rfl, trivial, rfl⟩

theorem versions_append (h : log.map version = (List.range' 1 n).map some) (he : version e = some (n + 1)) :
    (log ++ [e]).map version = (List.range' 1 (n + 1)).map some := by
  rw [List.map_append, h, List.range'_concat, List.map_append, List.map_singleton, List.map_singleton, he, Nat.one_mul,
    Nat.add_comm 1 n]

/-- The next entry moves on from the state. -/
theorem Replays.moved (h : Replays version move start log state n) (hversion : version e = some (n + 1))
    (hmove : move e = some (state, target)) : Replays version move start (log ++ [e]) target (n + 1) := by
  have hmoves : (log ++ [e]).filterMap move = log.filterMap move ++ [(state, target)] := by
    rw [List.filterMap_append, List.filterMap_cons_some hmove, List.filterMap_nil]
  refine ⟨versions_append h.versions hversion, ?_, ?_⟩
  · rw [hmoves]
    exact unbroken_append h.unbroken h.state
  · rw [hmoves]
    unfold replay
    rw [List.foldl_append]
    rfl

/-- The next entry carries no move. -/
theorem Replays.stayed (h : Replays version move start log state n) (hversion : version e = some (n + 1))
    (hmove : move e = none) : Replays version move start (log ++ [e]) state (n + 1) := by
  have hmoves : (log ++ [e]).filterMap move = log.filterMap move := by
    rw [List.filterMap_append, List.filterMap_cons_none hmove, List.filterMap_nil, List.append_nil]
  refine ⟨versions_append h.versions hversion, ?_, ?_⟩
  · rw [hmoves]
    exact h.unbroken
  · rw [hmoves]
    exact h.state

end

/-! ## A table with logs -/

section

variable [DecidableEq κ] (owner : ε → Option κ) (version : ε → Option ℕ) (move : ε → Option (σ × σ))

/-- The entries of a key. -/
def logOf (events : List ε) (k : κ) : List ε := events.filter fun e => decide (owner e = some k)

/-- Every row is where the entries of its key lead, and every entry that has a key is of a row. -/
structure Logged (key : ρ → κ) (state : ρ → σ) (revision : ρ → ℕ) (start : σ) (rows : List ρ) (events : List ε) : Prop where
  keyed : (rows.map key).Nodup
  replays : ∀ r ∈ rows, Replays version move start (logOf owner events (key r)) (state r) (revision r)
  owned : ∀ e ∈ events, ∀ k, owner e = some k → ∃ r ∈ rows, key r = k

variable {owner version move} {key : ρ → κ} {state : ρ → σ} {revision : ρ → ℕ} {start : σ} {rows : List ρ} {events : List ε}
  {e : ε} {k : κ}

theorem logOf_append_self (h : owner e = some k) : logOf owner (events ++ [e]) k = logOf owner events k ++ [e] := by
  unfold logOf
  rw [List.filter_append, List.filter_cons_of_pos (by simpa using h), List.filter_nil]

theorem logOf_append_other (h : owner e ≠ some k) : logOf owner (events ++ [e]) k = logOf owner events k := by
  unfold logOf
  rw [List.filter_append, List.filter_cons_of_neg (by simpa using h), List.filter_nil, List.append_nil]

theorem Logged.nil : Logged owner version move key state revision start [] ([] : List ε) :=
  ⟨List.nodup_nil, nofun, nofun⟩

/-- A new row has no entry yet. -/
theorem Logged.insert (h : Logged owner version move key state revision start rows events) {row : ρ}
    (hfresh : ∀ r ∈ rows, key r ≠ key row) (hstate : state row = start) (hrevision : revision row = 0) :
    Logged owner version move key state revision start (rows ++ [row]) events := by
  refine ⟨?_, ?_, ?_⟩
  · rw [List.map_append, List.map_singleton]
    refine List.nodup_append.mpr ⟨h.keyed, List.nodup_singleton _, ?_⟩
    intro k hk k' hk' heq
    obtain ⟨r, hr, rfl⟩ := List.mem_map.mp hk
    rw [List.mem_singleton.mp hk'] at heq
    exact hfresh r hr heq
  · intro r hr
    rcases List.mem_append.mp hr with hr | hr
    · exact h.replays r hr
    · obtain rfl := List.mem_singleton.mp hr
      have hnone : logOf owner events (key r) = [] := by
        refine List.filter_eq_nil_iff.mpr fun e he howner => ?_
        obtain ⟨r', hr', hkey⟩ := h.owned e he _ (of_decide_eq_true howner)
        exact hfresh r' hr' hkey
      rw [hnone, hstate, hrevision]
      exact Replays.nil start
  · intro e he k hk
    obtain ⟨r, hr, hkey⟩ := h.owned e he k hk
    exact ⟨r, List.mem_append_left _ hr, hkey⟩

/-- An entry without a key changes no log. -/
theorem Logged.append (h : Logged owner version move key state revision start rows events) (he : owner e = none) :
    Logged owner version move key state revision start rows (events ++ [e]) := by
  refine ⟨h.keyed, fun r hr => ?_, fun e' he' k hk => ?_⟩
  · have hother : owner e ≠ some (key r) := by
      rw [he]
      exact nofun
    rw [logOf_append_other hother]
    exact h.replays r hr
  · rcases List.mem_append.mp he' with he' | he'
    · exact h.owned e' he' k hk
    · obtain rfl := List.mem_singleton.mp he'
      rw [he] at hk
      nomatch hk

/-- A change that leaves key, state and revision alone needs no entry. -/
theorem Logged.modify (h : Logged owner version move key state revision start rows events) {f : ρ → ρ}
    (hkey : ∀ r, key (f r) = key r) (hstate : ∀ r, state (f r) = state r) (hrevision : ∀ r, revision (f r) = revision r) :
    Logged owner version move key state revision start (Table.modify key rows k f) events := by
  refine ⟨?_, fun r' hr' => ?_, fun e he k' hk' => ?_⟩
  · rw [Table.map_modify hkey]
    exact h.keyed
  · obtain ⟨r, hr, rfl⟩ := Table.mem_modify.mp hr'
    split
    · rw [hkey, hstate, hrevision]
      exact h.replays r hr
    · exact h.replays r hr
  · have hmem : k' ∈ (Table.modify key rows k f).map key := by
      rw [Table.map_modify hkey]
      obtain ⟨r, hr, hrk⟩ := h.owned e he k' hk'
      exact List.mem_map.mpr ⟨r, hr, hrk⟩
    exact List.mem_map.mp hmem

/-- A row changes with an entry of its own: one that moves on from its state, or carries no move and leaves it. -/
theorem Logged.step (h : Logged owner version move key state revision start rows events) {f : ρ → ρ} {r : ρ}
    (hr : Table.get key rows k = some r) (hkey : ∀ r, key (f r) = key r) (howner : owner e = some k)
    (hversion : version e = some (revision r + 1)) (hrevision : revision (f r) = revision r + 1)
    (hmove : move e = some (state r, state (f r)) ∨ (move e = none ∧ state (f r) = state r)) :
    Logged owner version move key state revision start (Table.modify key rows k f) (events ++ [e]) := by
  obtain ⟨hmem, hrk⟩ := Table.get_some hr
  refine ⟨?_, fun x' hx' => ?_, fun e' he' k' hk' => ?_⟩
  · rw [Table.map_modify hkey]
    exact h.keyed
  · obtain ⟨x, hx, rfl⟩ := Table.mem_modify.mp hx'
    by_cases hxk : key x = k
    · obtain rfl : x = r := Table.eq_of_get h.keyed hr hx hxk
      rw [if_pos hxk, hkey, hxk, logOf_append_self howner, hrevision]
      have hlog := h.replays x hx
      rw [hxk] at hlog
      rcases hmove with hmove | ⟨hmove, hstate⟩
      · exact hlog.moved hversion hmove
      · rw [hstate]
        exact hlog.stayed hversion hmove
    · have hother : owner e ≠ some (key x) := by
        rw [howner]
        intro heq
        exact hxk (Option.some.inj heq).symm
      rw [if_neg hxk, logOf_append_other hother]
      exact h.replays x hx
  · have hold : ∃ x ∈ rows, key x = k' := by
      rcases List.mem_append.mp he' with he' | he'
      · exact h.owned e' he' k' hk'
      · obtain rfl := List.mem_singleton.mp he'
        rw [howner] at hk'
        exact ⟨r, hmem, hrk.trans (Option.some.inj hk')⟩
    have hmem' : k' ∈ (Table.modify key rows k f).map key := by
      rw [Table.map_modify hkey]
      obtain ⟨x, hx, hxk⟩ := hold
      exact List.mem_map.mpr ⟨x, hx, hxk⟩
    exact List.mem_map.mp hmem'

end

end TradingPlatform.EventLog
