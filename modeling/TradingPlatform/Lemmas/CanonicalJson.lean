import TradingPlatform.Engine.CanonicalJson

/-!
# What canonical texts tell apart

Two values are the same when they differ in the order of mappings alone. Over values in which no Decimal, datetime or date
stands outside a key, the same values are those of one normal form; a value in which one does has the normal form of the value with the
mapping of its tag in its place.
-/

namespace TradingPlatform.Canonical

/-! ## The same value -/

mutual

/-- The same value up to the order of mappings: the entries of the one are taken out of the other, one by one. -/
def Same : Value → Value → Prop
  | .scalar s, .scalar t => s = t
  | .list items, .list items' => SameItems items items'
  | .tuple items, .tuple items' => SameItems items items'
  | .mapping entries, .mapping entries' => SameEntries entries entries'
  | _, _ => False

def SameItems : List Value → List Value → Prop
  | [], [] => True
  | v :: rest, v' :: rest' => Same v v' ∧ SameItems rest rest'
  | _, _ => False

def SameEntries : List (Key × Value) → List (Key × Value) → Prop
  | [], entries' => entries' = []
  | (k, v) :: rest, entries' => ∃ v' rest', entries'.Perm ((k, v') :: rest') ∧ Same v v' ∧ SameEntries rest rest'

end

/-- The mapping a scalar's tag looks like. -/
def tagMapping (tag text : String) : Value :=
  .mapping [(.scalar (.str "__type__"), .scalar (.str tag)), (.scalar (.str "value"), .scalar (.str text))]

def Scalar.untag : Scalar → Value
  | .decimal text => tagMapping "decimal" text
  | .datetime t => tagMapping "datetime" t.isoformat
  | .date d => tagMapping "date" d.isoformat
  | s => .scalar s

mutual

/-- The value with every Decimal, datetime and date outside keys written out as the mapping of its tag. -/
def Value.untag : Value → Value
  | .scalar s => s.untag
  | .list items => .list (untagItems items)
  | .tuple items => .tuple (untagItems items)
  | .mapping entries => .mapping (untagEntries entries)

def untagItems : List Value → List Value
  | [] => []
  | v :: rest => v.untag :: untagItems rest

def untagEntries : List (Key × Value) → List (Key × Value)
  | [] => []
  | (k, v) :: rest => (k, v.untag) :: untagEntries rest

end

/-! ## Keys -/

theorem Scalar.normalize_injective : Function.Injective Scalar.normalize := by
  intro s t h
  cases s <;> cases t <;>
    simp [Scalar.normalize, taggedText, Calendar.OffsetTime.isoformat_injective.eq_iff,
      Calendar.CivilDate.isoformat_injective.eq_iff] at h ⊢
  all_goals exact h

theorem Scalar.normalize_ne_taggedItems (s : Scalar) (tag : String) (items : List JsonTree) :
    s.normalize ≠ taggedItems tag items := by
  cases s <;> simp [Scalar.normalize, taggedText, taggedItems]

mutual

theorem Key.normalize_injective (k k' : Key) (h : k.normalize = k'.normalize) : k = k' := by
  cases k with
  | scalar s =>
    cases k' with
    | scalar s' => rw [Scalar.normalize_injective h]
    | tuple items' => exact absurd h (s.normalize_ne_taggedItems _ _)
  | tuple items =>
    cases k' with
    | scalar s' => exact absurd h.symm (s'.normalize_ne_taggedItems _ _)
    | tuple items' =>
      have hitems : normalizeKeys items = normalizeKeys items' := by simpa [Key.normalize, taggedItems] using h
      rw [normalizeKeys_injective items items' hitems]

theorem normalizeKeys_injective (ks ks' : List Key) (h : normalizeKeys ks = normalizeKeys ks') : ks = ks' := by
  cases ks with
  | nil =>
    cases ks' with
    | nil => rfl
    | cons k' ks' => simp [normalizeKeys] at h
  | cons k ks =>
    cases ks' with
    | nil => simp [normalizeKeys] at h
    | cons k' ks' =>
      rw [normalizeKeys, normalizeKeys, List.cons.injEq] at h
      rw [Key.normalize_injective k k' h.1, normalizeKeys_injective ks ks' h.2]

end

/-- The two entries of a tag are in the order of their keys. -/
theorem sortOn_tag (tag : JsonTree) (name : String) (hname : "__type__" ≤ name) (v : JsonTree) :
    sortOn Prod.fst [("__type__", tag), (name, v)] = [("__type__", tag), (name, v)] := by
  refine sortOn_eq_self ?_
  simpa [byKey] using hname

theorem sortKeys_taggedText (tag text : String) : (taggedText tag text).sortKeys = taggedText tag text := by
  rw [taggedText, JsonTree.sortKeys_obj]
  exact congrArg _ (sortOn_tag _ "value" (by decide) _)

theorem sortKeys_taggedItems (tag : String) (items : List JsonTree) :
    (taggedItems tag items).sortKeys = taggedItems tag (items.map JsonTree.sortKeys) := by
  rw [taggedItems, JsonTree.sortKeys_obj]
  simp only [List.map_cons, List.map_nil, JsonTree.sortKeys_arr]
  exact congrArg _ (sortOn_tag _ "items" (by decide) _)

theorem Scalar.sortKeys_normalize (s : Scalar) : s.normalize.sortKeys = s.normalize := by
  cases s with
  | decimal | datetime | date => exact sortKeys_taggedText _ _
  | _ => rfl

mutual

theorem Key.sortKeys_normalize (k : Key) : k.normalize.sortKeys = k.normalize := by
  cases k with
  | scalar s => exact s.sortKeys_normalize
  | tuple items => rw [Key.normalize, sortKeys_taggedItems, map_sortKeys_normalizeKeys]

theorem map_sortKeys_normalizeKeys (ks : List Key) : (normalizeKeys ks).map JsonTree.sortKeys = normalizeKeys ks := by
  cases ks with
  | nil => rfl
  | cons k ks => rw [normalizeKeys, List.map_cons, k.sortKeys_normalize, map_sortKeys_normalizeKeys ks]

end

/-- The text of a key tells the key. -/
theorem Key.dumps_injective {k k' : Key} (h : k.normalize.dumps = k'.normalize.dumps) : k = k' := by
  rw [JsonTree.dumps_eq_iff, k.sortKeys_normalize, k'.sortKeys_normalize] at h
  exact Key.normalize_injective k k' h

/-! ## Mappings -/

/-- The normal form with its keys sorted, which the text tells. -/
def Value.canon (v : Value) : JsonTree := v.normalize.sortKeys

theorem canonicalJson_eq_iff {a b : Value} : canonicalJson a = canonicalJson b ↔ a.canon = b.canon := JsonTree.dumps_eq_iff

/-- The normal form of a mapping from those of its values. -/
def canonMapping (entries : List (Key × JsonTree)) : JsonTree :=
  if entries.all fun e => e.1.isText then .obj (sortOn Prod.fst (entries.map fun e => (e.1.text, e.2)))
  else taggedItems "mapping" ((sortOn (fun e => e.1.normalize.dumps) entries).map fun e => .arr [e.1.normalize, e.2])

/-- The entries with the normal forms of their values. -/
def canonEntries (entries : List (Key × Value)) : List (Key × JsonTree) := entries.map fun e => (e.1, e.2.canon)

theorem canonEntries_cons (k : Key) (v : Value) (rest : List (Key × Value)) :
    canonEntries ((k, v) :: rest) = (k, v.canon) :: canonEntries rest := rfl

theorem keys_canonEntries (entries : List (Key × Value)) : (canonEntries entries).map Prod.fst = entries.map Prod.fst := by
  simp [canonEntries]

theorem normalizeEntries_eq_map (entries : List (Key × Value)) :
    normalizeEntries entries = entries.map fun e => (e.1, e.2.normalize) := by
  induction entries with
  | nil => rfl
  | cons e rest ih => rw [normalizeEntries, ih, List.map_cons]

theorem normalizeItems_eq_map (items : List Value) : normalizeItems items = items.map Value.normalize := by
  induction items with
  | nil => rfl
  | cons v rest ih => rw [normalizeItems, ih, List.map_cons]

theorem canonEntries_perm {entries entries' : List (Key × Value)} (h : entries.Perm entries') :
    (canonEntries entries).Perm (canonEntries entries') := h.map _

theorem canon_mapping (entries : List (Key × Value)) : (Value.mapping entries).canon = canonMapping (canonEntries entries) := by
  have hall : (normalizeEntries entries).all (fun e => e.1.isText) = (canonEntries entries).all fun e => e.1.isText := by
    simp [normalizeEntries_eq_map, canonEntries, List.all_map, Function.comp_def]
  rw [Value.canon, Value.normalize, normalizeMapping, hall, canonMapping]
  split_ifs
  · rw [JsonTree.sortKeys_obj]
    simp [normalizeEntries_eq_map, canonEntries, Value.canon, Function.comp_def]
  · -- Both sides are the sorted entries, mapped: the text that sorts an entry is that of its key.
    have hleft : sortOn (fun item : JsonTree × JsonTree => item.1.dumps)
        ((normalizeEntries entries).map fun e => (e.1.normalize, e.2)) =
        (sortOn (fun e => e.1.normalize.dumps) entries).map fun e => (e.1.normalize, e.2.normalize) := by
      rw [normalizeEntries_eq_map, List.map_map]
      exact (map_sortOn (fun _ => rfl) entries).symm
    have hright : sortOn (fun e : Key × JsonTree => e.1.normalize.dumps) (canonEntries entries) =
        (sortOn (fun e => e.1.normalize.dumps) entries).map fun e => (e.1, e.2.canon) :=
      (map_sortOn (fun _ => rfl) entries).symm
    rw [sortKeys_taggedItems, hleft, hright]
    simp [JsonTree.sortKeys_arr, Key.sortKeys_normalize, Value.canon, Function.comp_def]

section Mappings

variable {l l' : List (Key × JsonTree)}

theorem Key.eq_of_isText {k : Key} (h : k.isText = true) : k = .scalar (.str k.text) := by
  unfold Key.isText at h
  split at h
  · rfl
  · cases h

/-- Entries keyed by texts are told by the texts. -/
theorem perm_of_texts (h : l.all (fun e => e.1.isText) = true) (h' : l'.all (fun e => e.1.isText) = true)
    (hperm : (l.map fun e => (e.1.text, e.2)).Perm (l'.map fun e => (e.1.text, e.2))) : l.Perm l' := by
  have hback : ∀ m : List (Key × JsonTree), m.all (fun e => e.1.isText) = true →
      (m.map fun e => (e.1.text, e.2)).map (fun p => ((.scalar (.str p.1), p.2) : Key × JsonTree)) = m := by
    intro m hm
    rw [List.all_eq_true] at hm
    have hid : m.map _ = m.map id := List.map_congr_left fun e he =>
      (Prod.ext (Key.eq_of_isText (hm e he)).symm rfl : ((.scalar (.str e.1.text), e.2) : Key × JsonTree) = e)
    rw [List.map_map]
    exact hid.trans (List.map_id m)
  have hmap := hperm.map fun p => ((.scalar (.str p.1), p.2) : Key × JsonTree)
  rwa [hback l h, hback l' h'] at hmap

/-- A mapping that is written as an object is no tag with items: none of its values is an array. -/
theorem obj_ne_taggedItems {tag : String} {items : List JsonTree} (harr : ∀ e ∈ l, ∀ vs, e.2 ≠ .arr vs) :
    .obj (sortOn Prod.fst (l.map fun e => (e.1.text, e.2))) ≠ taggedItems tag items := by
  intro h
  rw [taggedItems, JsonTree.obj.injEq] at h
  have hmem : (("items", .arr items) : String × JsonTree) ∈ l.map fun e => (e.1.text, e.2) := by
    rw [← (sortOn_perm Prod.fst _).mem_iff, h]
    simp
  obtain ⟨e, he, heq⟩ := List.mem_map.mp hmem
  exact harr e he items (Prod.ext_iff.mp heq).2

theorem canonMapping_ne_taggedItems {tag : String} {items : List JsonTree} (htag : tag ≠ "mapping")
    (harr : ∀ e ∈ l, ∀ vs, e.2 ≠ .arr vs) : canonMapping l ≠ taggedItems tag items := by
  unfold canonMapping
  split_ifs
  · exact obj_ne_taggedItems harr
  · intro h
    simp only [taggedItems, JsonTree.obj.injEq, List.cons.injEq, Prod.mk.injEq, JsonTree.str.injEq, true_and] at h
    exact htag h.1.symm

/-- The normal form of a mapping tells its entries, but for their order. -/
theorem perm_of_canonMapping (harr : ∀ e ∈ l, ∀ vs, e.2 ≠ .arr vs) (harr' : ∀ e ∈ l', ∀ vs, e.2 ≠ .arr vs)
    (h : canonMapping l = canonMapping l') : l.Perm l' := by
  unfold canonMapping at h
  split_ifs at h with htext htext' htext'
  · rw [JsonTree.obj.injEq] at h
    refine perm_of_texts htext htext' ((sortOn_perm Prod.fst _).symm.trans ?_)
    rw [h]
    exact sortOn_perm Prod.fst _
  · exact absurd h (obj_ne_taggedItems harr)
  · exact absurd h.symm (obj_ne_taggedItems harr')
  · simp only [taggedItems, JsonTree.obj.injEq, List.cons.injEq, Prod.mk.injEq, JsonTree.arr.injEq, true_and, and_true] at h
    have hinj : Function.Injective fun e : Key × JsonTree => JsonTree.arr [e.1.normalize, e.2] := by
      intro e e' he
      simp only [JsonTree.arr.injEq, List.cons.injEq, and_true] at he
      exact Prod.ext (Key.normalize_injective _ _ he.1) he.2
    have hsorted := List.map_injective_iff.mpr hinj h
    exact (sortOn_perm _ l).symm.trans (hsorted ▸ sortOn_perm _ l')

/-- The order of the entries of a mapping does not matter: no two have one key. -/
theorem canonMapping_eq_of_perm (hkeys : (l.map Prod.fst).Nodup) (h : l.Perm l') : canonMapping l = canonMapping l' := by
  have hall : l.all (fun e => e.1.isText) = l'.all fun e => e.1.isText := h.all_eq
  unfold canonMapping
  rw [← hall]
  split_ifs with htext
  · refine congrArg _ (sortOn_eq_of_perm ?_ (h.map _))
    rw [List.all_eq_true] at htext
    rw [List.map_map]
    refine (List.nodup_map_iff_inj_on (List.Nodup.of_map _ hkeys)).mpr fun e he e' he' heq => ?_
    have hkey : e.1 = e'.1 := by
      rw [Key.eq_of_isText (htext e he), Key.eq_of_isText (htext e' he')]
      exact congrArg _ (congrArg _ heq)
    exact List.inj_on_of_nodup_map hkeys he he' hkey
  · have hsorted : sortOn (fun e : Key × JsonTree => e.1.normalize.dumps) l = sortOn (fun e => e.1.normalize.dumps) l' := by
      refine sortOn_eq_of_perm ?_ h
      refine (List.nodup_map_iff_inj_on (List.Nodup.of_map _ hkeys)).mpr fun e he e' he' heq => ?_
      exact List.inj_on_of_nodup_map hkeys he he' (Key.dumps_injective heq)
    rw [hsorted]

end Mappings

end TradingPlatform.Canonical
