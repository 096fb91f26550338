import TradingPlatform.Lemmas.CanonicalJson

/-!
# What equal canonical texts mean

Two values have one canonical text exactly when they are the same with every Decimal, datetime and date outside keys written out as
the mapping of its tag. So the text tells two values apart unless one has a mapping of that form where the other has the
Decimal, the datetime or the date.
-/

namespace TradingPlatform.Canonical

/-- The text and the hash of two values tell whether they are the same. -/
def Faithful (digest : String → String) (a b : Value) : Prop :=
  (canonicalJson a = canonicalJson b ↔ Same a b) ∧ (canonicalHash digest a = canonicalHash digest b → Same a b)

namespace CanonicalJsonAux

/-! ## Written out -/

theorem normalize_untagScalar (s : Scalar) : s.untag.normalize = s.normalize := by
  cases s <;> rfl

mutual

theorem normalize_untag (v : Value) : v.untag.normalize = v.normalize := by
  cases v with
  | scalar s => exact normalize_untagScalar s
  | list items => rw [Value.untag, Value.normalize, Value.normalize, normalizeItems_untag items]
  | tuple items => rw [Value.untag, Value.normalize, Value.normalize, normalizeItems_untag items]
  | mapping entries => rw [Value.untag, Value.normalize, Value.normalize, normalizeEntries_untag entries]

theorem normalizeItems_untag (items : List Value) : normalizeItems (untagItems items) = normalizeItems items := by
  cases items with
  | nil => rfl
  | cons v rest => rw [untagItems, normalizeItems, normalizeItems, normalize_untag v, normalizeItems_untag rest]

theorem normalizeEntries_untag (entries : List (Key × Value)) :
    normalizeEntries (untagEntries entries) = normalizeEntries entries := by
  cases entries with
  | nil => rfl
  | cons e rest =>
    obtain ⟨k, v⟩ := e
    rw [untagEntries, normalizeEntries, normalizeEntries, normalize_untag v, normalizeEntries_untag rest]

end

/-- A scalar that JSON has. -/
def PlainScalar : Scalar → Prop
  | .decimal _ | .datetime _ | .date _ => False
  | _ => True

mutual

/-- No Decimal, datetime or date stands outside a key. -/
def Plain : Value → Prop
  | .scalar s => PlainScalar s
  | .list items => PlainItems items
  | .tuple items => PlainItems items
  | .mapping entries => PlainEntries entries

def PlainItems : List Value → Prop
  | [] => True
  | v :: rest => Plain v ∧ PlainItems rest

def PlainEntries : List (Key × Value) → Prop
  | [] => True
  | (_, v) :: rest => Plain v ∧ PlainEntries rest

end

mutual

theorem plain_untag (v : Value) : Plain v.untag := by
  cases v with
  | scalar s => cases s <;> simp [Value.untag, Scalar.untag, tagMapping, Plain, PlainEntries, PlainScalar]
  | list items => exact plainItems_untag items
  | tuple items => exact plainItems_untag items
  | mapping entries => exact plainEntries_untag entries

theorem plainItems_untag (items : List Value) : PlainItems (untagItems items) := by
  cases items with
  | nil => trivial
  | cons v rest => exact ⟨plain_untag v, plainItems_untag rest⟩

theorem plainEntries_untag (entries : List (Key × Value)) : PlainEntries (untagEntries entries) := by
  cases entries with
  | nil => trivial
  | cons e rest => exact ⟨plain_untag e.2, plainEntries_untag rest⟩

end

theorem keys_untagEntries (entries : List (Key × Value)) : (untagEntries entries).map Prod.fst = entries.map Prod.fst := by
  induction entries with
  | nil => rfl
  | cons e rest ih => rw [untagEntries, List.map_cons, List.map_cons, ih]

mutual

theorem wellFormed_untag (v : Value) (h : v.WellFormed) : v.untag.WellFormed := by
  cases v with
  | scalar s =>
    cases s <;> simp [Value.untag, Scalar.untag, tagMapping, Value.WellFormed, EntriesWellFormed]
  | list items => exact itemsWellFormed_untag items h
  | tuple items => exact itemsWellFormed_untag items h
  | mapping entries =>
    refine ⟨?_, entriesWellFormed_untag entries h.2⟩
    rw [keys_untagEntries]
    exact h.1

theorem itemsWellFormed_untag (items : List Value) (h : ItemsWellFormed items) : ItemsWellFormed (untagItems items) := by
  cases items with
  | nil => trivial
  | cons v rest => exact ⟨wellFormed_untag v h.1, itemsWellFormed_untag rest h.2⟩

theorem entriesWellFormed_untag (entries : List (Key × Value)) (h : EntriesWellFormed entries) :
    EntriesWellFormed (untagEntries entries) := by
  cases entries with
  | nil => trivial
  | cons e rest => exact ⟨wellFormed_untag e.2 h.1, entriesWellFormed_untag rest h.2⟩

end

/-! ## One normal form -/

theorem canon_list (items : List Value) : (Value.list items).canon = taggedItems "list" (items.map Value.canon) := by
  rw [Value.canon, Value.normalize, normalizeItems_eq_map, sortKeys_taggedItems, List.map_map]
  rfl

theorem canon_tuple (items : List Value) : (Value.tuple items).canon = taggedItems "tuple" (items.map Value.canon) := by
  rw [Value.canon, Value.normalize, normalizeItems_eq_map, sortKeys_taggedItems, List.map_map]
  rfl

theorem canon_scalar (s : Scalar) : (Value.scalar s).canon = s.normalize := s.sortKeys_normalize

/-- A normal form is never a bare array. -/
theorem canon_ne_arr (v : Value) (vs : List JsonTree) : v.canon ≠ .arr vs := by
  cases v with
  | scalar s =>
    rw [canon_scalar]
    cases s <;> simp [Scalar.normalize, taggedText]
  | list items => simp [canon_list, taggedItems]
  | tuple items => simp [canon_tuple, taggedItems]
  | mapping entries =>
    rw [canon_mapping, canonMapping]
    split_ifs <;> simp [taggedItems]

theorem canonEntries_ne_arr (entries : List (Key × Value)) : ∀ e ∈ canonEntries entries, ∀ vs, e.2 ≠ .arr vs := by
  intro e he vs
  obtain ⟨e', -, rfl⟩ := List.mem_map.mp he
  exact canon_ne_arr e'.2 vs

theorem canonMapping_is_obj (l : List (Key × JsonTree)) : ∃ entries, canonMapping l = .obj entries := by
  unfold canonMapping
  split_ifs
  · exact ⟨_, rfl⟩
  · exact ⟨_, rfl⟩

theorem plainScalar_ne_obj {s : Scalar} (h : PlainScalar s) (entries : List (String × JsonTree)) : s.normalize ≠ .obj entries := by
  cases s with
  | decimal | datetime | date => exact h.elim
  | _ => simp [Scalar.normalize]

theorem plainEntries_iff {entries : List (Key × Value)} : PlainEntries entries ↔ ∀ e ∈ entries, Plain e.2 := by
  induction entries with
  | nil => simp [PlainEntries]
  | cons e rest ih =>
    rw [List.forall_mem_cons, ← ih]
    exact Iff.rfl

theorem entriesWellFormed_iff {entries : List (Key × Value)} :
    EntriesWellFormed entries ↔ ∀ e ∈ entries, e.2.WellFormed := by
  induction entries with
  | nil => simp [EntriesWellFormed]
  | cons e rest ih =>
    rw [List.forall_mem_cons, ← ih]
    exact Iff.rfl

mutual

/-- Plain values of one normal form are the same. -/
theorem same_of_canon_eq (a b : Value) (ha : Plain a) (hb : Plain b) (h : a.canon = b.canon) : Same a b := by
  cases a with
  | scalar s =>
    cases b with
    | scalar t =>
      rw [canon_scalar, canon_scalar] at h
      exact Scalar.normalize_injective h
    | list items' =>
      rw [canon_scalar, canon_list] at h
      exact absurd h (s.normalize_ne_taggedItems _ _)
    | tuple items' =>
      rw [canon_scalar, canon_tuple] at h
      exact absurd h (s.normalize_ne_taggedItems _ _)
    | mapping entries' =>
      obtain ⟨es, hes⟩ := canonMapping_is_obj (canonEntries entries')
      rw [canon_scalar, canon_mapping, hes] at h
      exact absurd h (plainScalar_ne_obj ha es)
  | list items =>
    cases b with
    | scalar t =>
      rw [canon_scalar, canon_list] at h
      exact absurd h.symm (t.normalize_ne_taggedItems _ _)
    | list items' =>
      rw [canon_list, canon_list] at h
      exact sameItems_of_canon_eq items items' ha hb (by simpa [taggedItems] using h)
    | tuple items' =>
      rw [canon_list, canon_tuple] at h
      simp [taggedItems] at h
    | mapping entries' =>
      rw [canon_list, canon_mapping] at h
      exact absurd h.symm (canonMapping_ne_taggedItems (by decide) (canonEntries_ne_arr entries'))
  | tuple items =>
    cases b with
    | scalar t =>
      rw [canon_scalar, canon_tuple] at h
      exact absurd h.symm (t.normalize_ne_taggedItems _ _)
    | list items' =>
      rw [canon_tuple, canon_list] at h
      simp [taggedItems] at h
    | tuple items' =>
      rw [canon_tuple, canon_tuple] at h
      exact sameItems_of_canon_eq items items' ha hb (by simpa [taggedItems] using h)
    | mapping entries' =>
      rw [canon_tuple, canon_mapping] at h
      exact absurd h.symm (canonMapping_ne_taggedItems (by decide) (canonEntries_ne_arr entries'))
  | mapping entries =>
    cases b with
    | scalar t =>
      obtain ⟨es, hes⟩ := canonMapping_is_obj (canonEntries entries)
      rw [canon_scalar, canon_mapping, hes] at h
      exact absurd h.symm (plainScalar_ne_obj hb es)
    | list items' =>
      rw [canon_list, canon_mapping] at h
      exact absurd h (canonMapping_ne_taggedItems (by decide) (canonEntries_ne_arr entries))
    | tuple items' =>
      rw [canon_tuple, canon_mapping] at h
      exact absurd h (canonMapping_ne_taggedItems (by decide) (canonEntries_ne_arr entries))
    | mapping entries' =>
      rw [canon_mapping, canon_mapping] at h
      exact sameEntries_of_perm entries entries' ha hb
        (perm_of_canonMapping (canonEntries_ne_arr entries) (canonEntries_ne_arr entries') h)

theorem sameItems_of_canon_eq (items items' : List Value) (ha : PlainItems items) (hb : PlainItems items')
    (h : items.map Value.canon = items'.map Value.canon) : SameItems items items' := by
  cases items with
  | nil =>
    cases items' with
    | nil => trivial
    | cons v' rest' => simp at h
  | cons v rest =>
    cases items' with
    | nil => simp at h
    | cons v' rest' =>
      rw [List.map_cons, List.map_cons, List.cons.injEq] at h
      exact ⟨same_of_canon_eq v v' ha.1 hb.1 h.1, sameItems_of_canon_eq rest rest' ha.2 hb.2 h.2⟩

theorem sameEntries_of_perm (entries entries' : List (Key × Value)) (ha : PlainEntries entries) (hb : PlainEntries entries')
    (h : (canonEntries entries).Perm (canonEntries entries')) : SameEntries entries entries' := by
  cases entries with
  | nil =>
    have hnil : canonEntries entries' = [] := List.nil_perm.mp h
    exact List.map_eq_nil_iff.mp hnil
  | cons e rest =>
    obtain ⟨k, v⟩ := e
    rw [canonEntries_cons] at h
    -- The first entry stands somewhere in the other mapping, under its key and with a value of its normal form.
    have hmem : (k, v.canon) ∈ canonEntries entries' := h.mem_iff.mp List.mem_cons_self
    obtain ⟨⟨k', v'⟩, he', heq⟩ := List.mem_map.mp hmem
    obtain ⟨rfl, hv⟩ := Prod.mk.inj heq
    obtain ⟨before, after, rfl⟩ := List.append_of_mem he'
    have hperm : (before ++ (k', v') :: after).Perm ((k', v') :: (before ++ after)) := List.perm_middle
    have hplain := plainEntries_iff.mp hb
    refine ⟨v', before ++ after, hperm, same_of_canon_eq v v' ha.1 (hplain _ he') hv.symm, ?_⟩
    refine sameEntries_of_perm rest (before ++ after) ha.2 ?_ ?_
    · exact plainEntries_iff.mpr fun e he => hplain e (hperm.mem_iff.mpr (List.mem_cons_of_mem _ he))
    · have hall := h.trans (canonEntries_perm hperm)
      rw [canonEntries_cons, hv] at hall
      exact hall.cons_inv

end

mutual

/-- The same values have one normal form. -/
theorem canon_eq_of_same (a b : Value) (ha : a.WellFormed) (hb : b.WellFormed) (h : Same a b) : a.canon = b.canon := by
  cases a with
  | scalar s =>
    cases b with
    | scalar t =>
      rw [show s = t from h]
    | _ => exact h.elim
  | list items =>
    cases b with
    | list items' => rw [canon_list, canon_list, canon_eq_of_sameItems items items' ha hb h]
    | _ => exact h.elim
  | tuple items =>
    cases b with
    | tuple items' => rw [canon_tuple, canon_tuple, canon_eq_of_sameItems items items' ha hb h]
    | _ => exact h.elim
  | mapping entries =>
    cases b with
    | mapping entries' =>
      have hkeys : ((canonEntries entries).map Prod.fst).Nodup := by
        rw [keys_canonEntries]
        exact ha.1
      rw [canon_mapping, canon_mapping, canonMapping_eq_of_perm hkeys (perm_of_sameEntries entries entries' ha.2 hb.2 h)]
    | _ => exact h.elim

theorem canon_eq_of_sameItems (items items' : List Value) (ha : ItemsWellFormed items) (hb : ItemsWellFormed items')
    (h : SameItems items items') : items.map Value.canon = items'.map Value.canon := by
  cases items with
  | nil =>
    cases items' with
    | nil => rfl
    | cons v' rest' => exact h.elim
  | cons v rest =>
    cases items' with
    | nil => exact h.elim
    | cons v' rest' =>
      rw [List.map_cons, List.map_cons, canon_eq_of_same v v' ha.1 hb.1 h.1, canon_eq_of_sameItems rest rest' ha.2 hb.2 h.2]

theorem perm_of_sameEntries (entries entries' : List (Key × Value)) (ha : EntriesWellFormed entries)
    (hb : EntriesWellFormed entries') (h : SameEntries entries entries') :
    (canonEntries entries).Perm (canonEntries entries') := by
  cases entries with
  | nil =>
    obtain rfl : entries' = [] := h
    exact List.Perm.refl _
  | cons e rest =>
    obtain ⟨k, v⟩ := e
    obtain ⟨v', rest', hperm, hv, hrest⟩ := h
    have hwell := entriesWellFormed_iff.mp hb
    have hv' : v'.WellFormed := hwell (k, v') (hperm.mem_iff.mpr List.mem_cons_self)
    have hrest' : EntriesWellFormed rest' :=
      entriesWellFormed_iff.mpr fun e he => hwell e (hperm.mem_iff.mpr (List.mem_cons_of_mem _ he))
    rw [canonEntries_cons, canon_eq_of_same v v' ha.1 hv' hv]
    exact ((perm_of_sameEntries rest rest' ha.2 hrest' hrest).cons _).trans (canonEntries_perm hperm).symm

end

/-- The text of a value is that of the value written out, and plain values are told apart. -/
theorem canonicalJson_eq_iff_untag (a b : Data) :
    canonicalJson a.value = canonicalJson b.value ↔ Same a.value.untag b.value.untag := by
  have hcanon : ∀ v : Value, v.untag.canon = v.canon := fun v =>
    congrArg JsonTree.sortKeys (normalize_untag v)
  rw [canonicalJson_eq_iff, ← hcanon a.value, ← hcanon b.value]
  exact ⟨same_of_canon_eq _ _ (plain_untag _) (plain_untag _),
    canon_eq_of_same _ _ (wellFormed_untag _ a.wellFormed) (wellFormed_untag _ b.wellFormed)⟩

theorem canonicalJson_eq_of_same (a b : Data) (h : Same a.value b.value) : canonicalJson a.value = canonicalJson b.value :=
  canonicalJson_eq_iff.mpr (canon_eq_of_same _ _ a.wellFormed b.wellFormed h)

end CanonicalJsonAux

open CanonicalJsonAux

/-- With a digest that has no collision, text and hash tell two values apart exactly if writing out their Decimals, datetimes and
dates does not make them the same. -/
theorem canonicalJson_faithful_iff (digest : String → String) (hdigest : Function.Injective digest) (a b : Data) :
    Faithful digest a.value b.value ↔ (Same a.value.untag b.value.untag → Same a.value b.value) := by
  constructor
  · intro h huntag
    exact h.1.mp ((canonicalJson_eq_iff_untag a b).mpr huntag)
  · intro h
    have htext : canonicalJson a.value = canonicalJson b.value → Same a.value b.value := fun heq =>
      h ((canonicalJson_eq_iff_untag a b).mp heq)
    exact ⟨⟨htext, canonicalJson_eq_of_same a b⟩, fun hhash => htext (hdigest hhash)⟩

namespace CanonicalJsonAux

/-- A threshold given as a Decimal. -/
def decimalThreshold : Data := ⟨.mapping [(.scalar (.str "threshold"), .scalar (.decimal "1.0"))], by
  simp [Value.WellFormed, EntriesWellFormed]⟩

/-- A threshold given as a text. -/
def textThreshold : Data := ⟨.mapping [(.scalar (.str "threshold"), .scalar (.str "1.0"))], by
  simp [Value.WellFormed, EntriesWellFormed]⟩

/-- A Decimal. -/
def decimalValue : Data := ⟨.scalar (.decimal "1.0"), trivial⟩

/-- A mapping of two texts. -/
def mappingValue : Data := ⟨.mapping [(.scalar (.str "__type__"), .scalar (.str "decimal")),
  (.scalar (.str "value"), .scalar (.str "1.0"))], by
  simp [Value.WellFormed, EntriesWellFormed]⟩

end CanonicalJsonAux

/-- A Decimal and its text are told apart. -/
theorem canonicalJson_faithful_threshold : Faithful id decimalThreshold.value textThreshold.value := by
  refine (canonicalJson_faithful_iff id Function.injective_id decimalThreshold textThreshold).mpr fun h => ?_
  obtain ⟨v', rest', hperm, hsame, -⟩ := h
  obtain ⟨rfl, rfl⟩ : v' = .scalar (.str "1.0") ∧ rest' = [] := by
    simpa [textThreshold, Value.untag, untagEntries, Scalar.untag] using List.perm_singleton.mp hperm.symm
  exact hsame.elim

/-- A Decimal and the mapping its tag looks like have one text, and one hash under every digest. -/
theorem canonicalJson_collides :
    canonicalJson decimalValue.value = canonicalJson mappingValue.value ∧ ¬Same decimalValue.value mappingValue.value ∧
      ∀ digest, ¬Faithful digest decimalValue.value mappingValue.value := by
  have htext : canonicalJson decimalValue.value = canonicalJson mappingValue.value := rfl
  have hsame : ¬Same decimalValue.value mappingValue.value := fun h => h.elim
  exact ⟨htext, hsame, fun _ h => hsame (h.1.mp htext)⟩

end TradingPlatform.Canonical
