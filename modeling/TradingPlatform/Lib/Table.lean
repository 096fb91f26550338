import Mathlib.Data.List.Nodup

/-!
# Keyed rows

A table is a list of rows with a key. Rows are read by key and changed in place; an insertion is an append. The lemmas say what
a change does to membership and to the columns it leaves alone, and how changes and insertions compose.
-/

namespace TradingPlatform.Table

variable {ρ κ γ : Type} [DecidableEq κ]

variable {key : ρ → κ} {rows : List ρ}

/-- The row of a key. -/
def get (key : ρ → κ) (rows : List ρ) (k : κ) : Option ρ := rows.find? fun r => decide (key r = k)

/-- The rows with the row of a key changed. -/
def modify (key : ρ → κ) (rows : List ρ) (k : κ) (f : ρ → ρ) : List ρ := rows.map fun r => if key r = k then f r else r

theorem get_some {k : κ} {r : ρ} (h : get key rows k = some r) : r ∈ rows ∧ key r = k := by
  refine ⟨List.mem_of_find?_eq_some h, ?_⟩
  have hk := List.find?_some h
  exact of_decide_eq_true hk

theorem get_none {k : κ} : get key rows k = none ↔ ∀ r ∈ rows, key r ≠ k := by
  unfold get
  simp [List.find?_eq_none]

/-- With distinct keys a row is found under its own key. -/
theorem get_of_mem {key : ρ → κ} {rows : List ρ} (hnd : (rows.map key).Nodup) {r : ρ} (h : r ∈ rows) :
    get key rows (key r) = some r := by
  cases hget : get key rows (key r) with
  | none => exact absurd rfl (get_none.mp hget r h)
  | some r' =>
    obtain ⟨hmem, hkey⟩ := get_some hget
    rw [List.inj_on_of_nodup_map hnd hmem h hkey]

/-- With distinct keys one row has a key. -/
theorem filter_key {l : List ρ} (hnd : (l.map key).Nodup) {x : ρ}
    (hx : x ∈ l) : (l.filter fun y => decide (key y = key x)) = [x] := by
  induction l with
  | nil => nomatch hx
  | cons y l ih =>
    rw [List.map_cons, List.nodup_cons] at hnd
    rcases List.mem_cons.mp hx with rfl | hx
    · have hrest : (l.filter fun z => decide (key z = key x)) = [] := by
        refine List.filter_eq_nil_iff.mpr fun z hz hkey => hnd.1 ?_
        rw [← of_decide_eq_true hkey]
        exact List.mem_map_of_mem hz
      simp [hrest]
    · have hne : key y ≠ key x := by
        intro heq
        exact hnd.1 (heq ▸ List.mem_map_of_mem hx)
      rw [List.filter_cons_of_neg (by simpa using hne)]
      exact ih hnd.2 hx

theorem mem_modify {key : ρ → κ} {rows : List ρ} {k : κ} {f : ρ → ρ} {x : ρ} :
    x ∈ modify key rows k f ↔ ∃ r ∈ rows, (if key r = k then f r else r) = x := by
  simp [modify]

/-- A column that the change leaves alone is the same column afterwards. -/
theorem map_modify {key : ρ → κ} {rows : List ρ} {k : κ} {f : ρ → ρ} {column : ρ → γ} (h : ∀ r, column (f r) = column r) :
    (modify key rows k f).map column = rows.map column := by
  unfold modify
  rw [List.map_map]
  refine List.map_congr_left fun r _ => ?_
  simp only [Function.comp]
  split
  · exact h r
  · rfl

/-- A change under a key that the last row alone has changes the last row. -/
theorem modify_append_singleton {key : ρ → κ} {rows : List ρ} {r : ρ} {f : ρ → ρ} (h : ∀ x ∈ rows, key x ≠ key r) :
    modify key (rows ++ [r]) (key r) f = rows ++ [f r] := by
  unfold modify
  rw [List.map_append, List.map_singleton, if_pos rfl]
  congr 1
  refine (List.map_congr_left fun x hx => ?_).trans (List.map_id rows)
  rw [if_neg (h x hx)]
  rfl

/-- A row whose key no row before it has is read under its key. -/
theorem get_append_singleton {key : ρ → κ} {rows : List ρ} {r : ρ} (h : ∀ x ∈ rows, key x ≠ key r) :
    get key (rows ++ [r]) (key r) = some r := by
  have hnone : rows.find? (fun x => decide (key x = key r)) = none := get_none.mpr h
  unfold get
  rw [List.find?_append, hnone]
  simp

/-- What is read under the changed key. -/
theorem get_modify_self {key : ρ → κ} {rows : List ρ} {k : κ} {f : ρ → ρ} (hf : ∀ r, key (f r) = key r) :
    get key (modify key rows k f) k = (get key rows k).map f := by
  unfold get modify
  induction rows with
  | nil => rfl
  | cons r rows ih =>
    by_cases hr : key r = k
    · simp [hr, hf]
    · simp only [List.map_cons, hr, if_false, List.find?_cons, decide_false]
      exact ih

/-- What is read under another key. -/
theorem get_modify_other {k k' : κ} {f : ρ → ρ} (hf : ∀ r, key (f r) = key r)
    (hne : k' ≠ k) : get key (modify key rows k f) k' = get key rows k' := by
  unfold get modify
  induction rows with
  | nil => rfl
  | cons r rows ih =>
    by_cases hr : key r = k
    · have hk : ¬key r = k' := fun h => hne (h.symm.trans hr)
      simp only [List.map_cons, hr, if_true, List.find?_cons, hf, hr ▸ hk, decide_false]
      exact ih
    · by_cases hk : key r = k'
      · simp [hk, hne]
      · simp only [List.map_cons, hr, if_false, List.find?_cons, hk, decide_false]
        exact ih

/-- What is read under a key that the change leaves alone. -/
theorem get_modify {key : ρ → κ} {key' : ρ → κ} {rows : List ρ} {k k' : κ} {f : ρ → ρ} (hf : ∀ r, key' (f r) = key' r) :
    get key' (modify key rows k f) k' = (get key' rows k').map fun r => if key r = k then f r else r := by
  unfold get modify
  induction rows with
  | nil => rfl
  | cons r rows ih =>
    have hkey : key' (if key r = k then f r else r) = key' r := by
      split
      · exact hf r
      · rfl
    by_cases hr : key' r = k'
    · simp [hkey, hr]
    · simp only [List.map_cons, List.find?_cons, hkey, hr, decide_false]
      exact ih

/-- A change that leaves the rows of its key alone changes nothing. -/
theorem modify_eq_self {key : ρ → κ} {rows : List ρ} {k : κ} {f : ρ → ρ} (h : ∀ r ∈ rows, key r = k → f r = r) :
    modify key rows k f = rows := by
  unfold modify
  refine (List.map_congr_left fun r hr => ?_).trans (List.map_id rows)
  by_cases hk : key r = k
  · rw [if_pos hk]
    exact h r hr hk
  · rw [if_neg hk]
    rfl

/-- Two changes under one key are one. -/
theorem modify_modify {key : ρ → κ} {rows : List ρ} {k : κ} {f g : ρ → ρ} (hf : ∀ r, key (f r) = key r) :
    modify key (modify key rows k f) k g = modify key rows k (g ∘ f) := by
  unfold modify
  rw [List.map_map]
  refine List.map_congr_left fun r _ => ?_
  by_cases hk : key r = k
  · simp [hk, hf]
  · simp [hk]

/-- Changes that agree on the rows of their key are the same. -/
theorem modify_congr {key : ρ → κ} {rows : List ρ} {k : κ} {f g : ρ → ρ} (h : ∀ r ∈ rows, key r = k → f r = g r) :
    modify key rows k f = modify key rows k g := by
  unfold modify
  refine List.map_congr_left fun r hr => ?_
  by_cases hk : key r = k
  · rw [if_pos hk, if_pos hk, h r hr hk]
  · rw [if_neg hk, if_neg hk]

/-- With distinct keys the row of a key is the one that is read. -/
theorem eq_of_get {k : κ} (hnd : (rows.map key).Nodup) {r x : ρ} (h : get key rows k = some r)
    (hx : x ∈ rows) (hk : key x = k) : x = r := by
  obtain ⟨hmem, hkey⟩ := get_some h
  exact List.inj_on_of_nodup_map hnd hx hmem (hk.trans hkey.symm)

/-- A row that was read is read after an insertion. -/
theorem get_append_of_some {key : ρ → κ} {rows added : List ρ} {k : κ} {r : ρ} (h : get key rows k = some r) :
    get key (rows ++ added) k = some r := by
  unfold get at h ⊢
  rw [List.find?_append, h]
  rfl

/-! ## Changes and insertions together -/

/-- The rows after changes and insertions: the old rows, each related to what it became, and then new ones. -/
def Evolves (R : ρ → ρ → Prop) (New : ρ → Prop) (rows rows' : List ρ) : Prop :=
  ∃ change added, rows' = rows.map change ++ added ∧ (∀ r ∈ rows, R r (change r)) ∧ ∀ r ∈ added, New r

section Evolves

variable {R : ρ → ρ → Prop} {New : ρ → Prop} {rows rows' rows'' : List ρ}

theorem Evolves.refl (hR : ∀ r, R r r) (rows : List ρ) : Evolves R New rows rows :=
  ⟨id, [], by simp, fun r _ => hR r, by simp⟩

theorem Evolves.trans (hR : ∀ r s t, R r s → R s t → R r t) (hNew : ∀ r s, New r → R r s → New s)
    (h : Evolves R New rows rows') (h' : Evolves R New rows' rows'') : Evolves R New rows rows'' := by
  obtain ⟨change, added, rfl, hchange, hadded⟩ := h
  obtain ⟨change', added', rfl, hchange', hadded'⟩ := h'
  refine ⟨change' ∘ change, added.map change' ++ added', by simp, ?_, ?_⟩
  · intro r hr
    have hmem : change r ∈ rows.map change ++ added := List.mem_append_left _ (List.mem_map_of_mem hr)
    exact hR _ _ _ (hchange r hr) (hchange' _ hmem)
  · intro r hr
    rcases List.mem_append.mp hr with hr | hr
    · obtain ⟨s, hs, rfl⟩ := List.mem_map.mp hr
      exact hNew s _ (hadded s hs) (hchange' s (List.mem_append_right _ hs))
    · exact hadded' r hr

theorem Evolves.mono {R' : ρ → ρ → Prop} {New' : ρ → Prop} (hR : ∀ r s, R r s → R' r s) (hNew : ∀ r, New r → New' r)
    (h : Evolves R New rows rows') : Evolves R' New' rows rows' := by
  obtain ⟨change, added, hrows, hchange, hadded⟩ := h
  exact ⟨change, added, hrows, fun r hr => hR _ _ (hchange r hr), fun r hr => hNew r (hadded r hr)⟩

theorem evolves_modify {key : ρ → κ} {k : κ} {f : ρ → ρ} (hR : ∀ r, R r r) (hf : ∀ r ∈ rows, key r = k → R r (f r)) :
    Evolves R New rows (modify key rows k f) := by
  refine ⟨fun r => if key r = k then f r else r, [], by simp [modify], ?_, by simp⟩
  intro r hr
  by_cases hk : key r = k
  · simp only [hk, if_true]
    exact hf r hr hk
  · simp only [hk, if_false]
    exact hR r

theorem evolves_insert (hR : ∀ r, R r r) {r : ρ} (h : New r) : Evolves R New rows (rows ++ [r]) :=
  ⟨id, [r], by simp, fun r _ => hR r, by simpa using h⟩

/-- Where a row comes from. A new row differs from every old one in a column that no change touches and no two rows share. -/
theorem Evolves.origin {column : ρ → γ} (h : Evolves R New rows rows') (hc : ∀ r s, R r s → column s = column r)
    (hnd : (rows'.map column).Nodup) {r' : ρ} (hr : r' ∈ rows') :
    (∃ r ∈ rows, R r r') ∨ (New r' ∧ ∀ r ∈ rows, column r ≠ column r') := by
  obtain ⟨change, added, rfl, hchange, hadded⟩ := h
  rcases List.mem_append.mp hr with hr | hr
  · obtain ⟨r, hmem, rfl⟩ := List.mem_map.mp hr
    exact .inl ⟨r, hmem, hchange r hmem⟩
  · refine .inr ⟨hadded r' hr, fun r hmem heq => ?_⟩
    rw [List.map_append, List.map_map] at hnd
    have hdisj := (List.nodup_append.mp hnd).2.2
    refine hdisj (column r) ?_ (column r') (List.mem_map_of_mem hr) heq
    rw [← hc r _ (hchange r hmem)]
    exact List.mem_map_of_mem (f := column ∘ change) hmem

/-- What a row became. -/
theorem Evolves.successor (h : Evolves R New rows rows') {r : ρ} (hr : r ∈ rows) : ∃ r' ∈ rows', R r r' := by
  obtain ⟨change, added, rfl, hchange, -⟩ := h
  exact ⟨change r, List.mem_append_left _ (List.mem_map_of_mem hr), hchange r hr⟩

/-- What a search found is found where it went, if no change affects what is searched for. -/
theorem Evolves.find (h : Evolves R New rows rows') {q : ρ → Bool} (hq : ∀ r s, R r s → q s = q r) {r : ρ}
    (hfind : rows.find? q = some r) : ∃ r', rows'.find? q = some r' ∧ R r r' := by
  obtain ⟨change, added, rfl, hchange, -⟩ := h
  refine ⟨change r, ?_, hchange r (List.mem_of_find?_eq_some hfind)⟩
  have hmapped : (rows.map change).find? q = (rows.find? q).map change := by
    clear hfind
    induction rows with
    | nil => rfl
    | cons x rows ih =>
      have hx : q (change x) = q x := hq x _ (hchange x List.mem_cons_self)
      rw [List.map_cons, List.find?_cons, List.find?_cons, hx]
      cases q x with
      | true => rfl
      | false => exact ih fun y hy => hchange y (List.mem_cons_of_mem x hy)
  rw [List.find?_append, hmapped, hfind]
  rfl

end Evolves

/-- What an update leaves in a column: it writes only where the value is no longer the one that was loaded. -/
def changedColumn (loaded assigned stored : γ) [DecidableEq γ] : γ := if assigned = loaded then stored else assigned

/-- A column that still holds what was loaded ends with what was assigned. -/
@[simp] theorem changedColumn_loaded [DecidableEq γ] (loaded assigned : γ) :
    changedColumn loaded assigned loaded = assigned := by
  unfold changedColumn
  split
  · rename_i h
    exact h.symm
  · rfl

theorem changedColumn_or [DecidableEq γ] (loaded assigned stored : γ) :
    changedColumn loaded assigned stored = stored ∨ changedColumn loaded assigned stored = assigned := by
  unfold changedColumn
  split
  · exact .inl rfl
  · exact .inr rfl

/-- A value that differs from the loaded one is written. -/
theorem changedColumn_of_ne [DecidableEq γ] {loaded assigned stored : γ} (h : assigned ≠ loaded) :
    changedColumn loaded assigned stored = assigned := by
  rw [changedColumn, if_neg h]

end TradingPlatform.Table
