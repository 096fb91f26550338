import Mathlib.Algebra.Order.Ring.Rat
import Mathlib.Data.String.Basic

/-!
# Values of JSON

A value as a program holds it after reading a text: a dictionary is the list of its entries, in which the first entry of
a key is the one that is read. An encoder that sorts the keys writes the same text for two values exactly when their
sorted forms are equal, so two values are the `Same` when their sorted forms are.
-/

namespace TradingPlatform

variable {motive : Json → Prop}

inductive Json where
  | null
  | bool (b : Bool)
  | int (n : ℤ)
  | float (q : ℚ)
  | str (s : String)
  | list (items : List Json)
  | dict (entries : List (String × Json))

namespace Json

/-! ## Entries -/

variable {α β : Type*}

/-- The value of a key: its first entry. -/
@[grind =] def get (key : String) : List (String × α) → Option α
  | [] => none
  | (k, v) :: rest => if k = key then some v else get key rest

/-- The entries with one key removed. -/
def erase (key : String) (entries : List (String × α)) : List (String × α) := entries.filter fun e => decide (e.1 ≠ key)

/-- The entries with the value of one key set, in its place where there is one and last where there is none. -/
@[grind =] def set (key : String) (value : α) : List (String × α) → List (String × α)
  | [] => [(key, value)]
  | (k, v) :: rest => if k = key then (key, value) :: rest else (k, v) :: set key value rest

/-- The entries with one key put in its place by the order of the keys. -/
@[grind =] def insertSorted (key : String) (value : α) : List (String × α) → List (String × α)
  | [] => [(key, value)]
  | (k, v) :: rest =>
    if key < k then (key, value) :: (k, v) :: rest
    else if k = key then (key, value) :: rest
    else (k, v) :: insertSorted key value rest

/-- The entries that are read, by the order of the keys. -/
def sortEntries : List (String × α) → List (String × α)
  | [] => []
  | (k, v) :: rest => insertSorted k v (sortEntries rest)

@[simp] theorem get_nil (key : String) : get key ([] : List (String × α)) = none := rfl

theorem get_cons (key k : String) (v : α) (rest : List (String × α)) :
    get key ((k, v) :: rest) = if k = key then some v else get key rest := rfl

theorem get_append (key : String) (a b : List (String × α)) : get key (a ++ b) = (get key a).or (get key b) := by
  induction a with
  | nil => rfl
  | cons e rest ih =>
    obtain ⟨k, v⟩ := e
    rw [List.cons_append, get_cons, get_cons]
    split_ifs
    · rfl
    · exact ih

theorem get_erase_ne {key k : String} (hne : k ≠ key) (entries : List (String × α)) :
    get k (erase key entries) = get k entries := by
  induction entries with
  | nil => rfl
  | cons e rest ih =>
    obtain ⟨k', v⟩ := e
    by_cases hkey : k' = key
    · rw [erase, List.filter_cons_of_neg (by simpa using hkey), get_cons, if_neg (fun h => hne (h.symm.trans hkey))]
      exact ih
    · rw [erase, List.filter_cons_of_pos (by simpa using hkey), get_cons, get_cons]
      split_ifs
      · rfl
      · exact ih

theorem get_set_self (key : String) (value : α) (entries : List (String × α)) :
    get key (set key value entries) = some value := by
  induction entries with
  | nil => simp [set, get]
  | cons e rest ih =>
    rw [set]
    split_ifs with h
    · rw [get_cons, if_pos rfl]
    · rw [get_cons, if_neg h, ih]

/-- A key that is set leaves the values of the others. -/
theorem get_set_ne {key k : String} (hne : k ≠ key) (value : α) (entries : List (String × α)) :
    get k (set key value entries) = get k entries := by
  induction entries with
  | nil => rw [set, get_cons, if_neg hne.symm]
  | cons e rest ih =>
    obtain ⟨k', v⟩ := e
    rw [set]
    split_ifs with h
    · rw [get_cons, get_cons, if_neg hne.symm, if_neg (fun h' => hne (h'.symm.trans h))]
    · rw [get_cons, get_cons, ih]

/-- A key that is set and removed leaves what removing it leaves. -/
theorem erase_set (key : String) (value : α) (entries : List (String × α)) :
    erase key (set key value entries) = erase key entries := by
  induction entries with
  | nil => simp [set, erase]
  | cons e rest ih =>
    obtain ⟨k, v⟩ := e
    rw [set]
    split_ifs with h
    · simp [erase, h]
    · simpa [erase, h] using ih

theorem get_insertSorted (key k : String) (v : α) (entries : List (String × α)) :
    get key (insertSorted k v entries) = if k = key then some v else get key entries := by
  induction entries with
  | nil => rfl
  | cons e rest ih =>
    obtain ⟨k', v'⟩ := e
    rw [insertSorted]
    by_cases hlt : k < k'
    · rw [if_pos hlt, get_cons]
    · rw [if_neg hlt]
      by_cases heq : k' = k
      · subst heq
        rw [if_pos rfl, get_cons, get_cons]
        split_ifs <;> rfl
      · rw [if_neg heq, get_cons, ih, get_cons]
        by_cases hkey : k = key
        · rw [if_pos hkey, if_pos hkey, if_neg (fun h => heq (h.trans hkey.symm))]
        · rw [if_neg hkey, if_neg hkey]

/-- Sorting the entries changes the value of no key. -/
theorem get_sortEntries (key : String) (entries : List (String × α)) : get key (sortEntries entries) = get key entries := by
  induction entries with
  | nil => rfl
  | cons e rest ih =>
    obtain ⟨k, v⟩ := e
    rw [sortEntries, get_insertSorted, ih, get_cons]

/-- The entries with each value changed. -/
def mapValues (f : α → β) : List (String × α) → List (String × β) := List.map fun e => (e.1, f e.2)

theorem get_mapValues (f : α → β) (key : String) (entries : List (String × α)) :
    get key (mapValues f entries) = (get key entries).map f := by
  induction entries with
  | nil => rfl
  | cons e rest ih =>
    obtain ⟨k, v⟩ := e
    change get key ((k, f v) :: mapValues f rest) = _
    rw [get_cons, get_cons, ih]
    split_ifs <;> rfl

theorem insertSorted_mapValues (f : α → β) (k : String) (v : α) (entries : List (String × α)) :
    insertSorted k (f v) (mapValues f entries) = mapValues f (insertSorted k v entries) := by
  induction entries with
  | nil => rfl
  | cons e rest ih =>
    obtain ⟨k', v'⟩ := e
    change insertSorted k (f v) ((k', f v') :: mapValues f rest) = _
    rw [insertSorted, insertSorted]
    split_ifs
    · rfl
    · rfl
    · rw [ih]
      rfl

theorem sortEntries_mapValues (f : α → β) (entries : List (String × α)) :
    sortEntries (mapValues f entries) = mapValues f (sortEntries entries) := by
  induction entries with
  | nil => rfl
  | cons e rest ih =>
    obtain ⟨k, v⟩ := e
    change insertSorted k (f v) (sortEntries (mapValues f rest)) = _
    rw [ih, insertSorted_mapValues]
    rfl

/-- The entries under changed keys: a later entry takes the place of an earlier one of the same changed key. -/
def rekey (f : String → String) (entries : List (String × α)) : List (String × α) :=
  entries.foldl (fun acc e => set (f e.1) e.2 acc) []

/-- The keys of some entries, in order. -/
def keys (entries : List (String × α)) : List String := entries.map Prod.fst

theorem mem_keys_set {key k : String} {value : α} {entries : List (String × α)} :
    k ∈ keys (set key value entries) ↔ k = key ∨ k ∈ keys entries := by
  induction entries with
  | nil => simp [set, keys]
  | cons e rest ih =>
    obtain ⟨k', v⟩ := e
    rw [set]
    split_ifs with h
    · simp [keys, h]
    · have ih' : k ∈ (set key value rest).map Prod.fst ↔ k = key ∨ k ∈ rest.map Prod.fst := ih
      simp only [keys, List.map_cons, List.mem_cons, ih']
      exact or_left_comm

theorem nodup_keys_set {key : String} {value : α} {entries : List (String × α)} (h : (keys entries).Nodup) :
    (keys (set key value entries)).Nodup := by
  induction entries with
  | nil => simp [set, keys]
  | cons e rest ih =>
    obtain ⟨k', v⟩ := e
    have h' : k' ∉ keys rest ∧ (keys rest).Nodup := List.nodup_cons.mp h
    rw [set]
    split_ifs with hkey
    · subst hkey
      exact List.nodup_cons.mpr h'
    · refine List.nodup_cons.mpr ⟨fun hmem => ?_, ih h'.2⟩
      rcases mem_keys_set.mp hmem with heq | hmem
      · exact hkey heq
      · exact h'.1 hmem

theorem set_of_not_mem {key : String} {value : α} {entries : List (String × α)} (h : key ∉ keys entries) :
    set key value entries = entries ++ [(key, value)] := by
  induction entries with
  | nil => rfl
  | cons e rest ih =>
    obtain ⟨k', v⟩ := e
    have h' : key ≠ k' ∧ key ∉ keys rest := ⟨fun heq => h (heq ▸ List.mem_cons_self), fun hm => h (List.mem_cons_of_mem _ hm)⟩
    rw [set, if_neg (Ne.symm h'.1), ih h'.2]
    rfl

/-- A key that is set takes the place of its entry. -/
theorem set_perm {key : String} {value : α} {entries : List (String × α)} (h : (keys entries).Nodup) :
    (set key value entries).Perm (erase key entries ++ [(key, value)]) := by
  induction entries with
  | nil => exact List.Perm.refl _
  | cons e rest ih =>
    obtain ⟨k, v⟩ := e
    obtain ⟨hk, hrest⟩ : k ∉ keys rest ∧ (keys rest).Nodup := List.nodup_cons.mp h
    rw [set]
    split_ifs with hkey
    · subst hkey
      have herase : erase k ((k, v) :: rest) = rest := by
        unfold erase
        rw [List.filter_cons_of_neg (by simp)]
        refine List.filter_eq_self.mpr fun e he => decide_eq_true fun heq => hk ?_
        exact heq ▸ List.mem_map_of_mem he
      rw [herase]
      exact (List.perm_append_singleton _ _).symm
    · have herase : erase key ((k, v) :: rest) = (k, v) :: erase key rest := by
        unfold erase
        rw [List.filter_cons_of_pos (by simpa using hkey)]
      rw [herase]
      exact (ih hrest).cons _

/-- With distinct keys the value of a key is that of its entry. -/
theorem get_eq_some_iff {key : String} {value : α} {entries : List (String × α)} (h : (keys entries).Nodup) :
    get key entries = some value ↔ (key, value) ∈ entries := by
  induction entries with
  | nil => simp
  | cons e rest ih =>
    obtain ⟨k, v⟩ := e
    obtain ⟨hk, hrest⟩ : k ∉ keys rest ∧ (keys rest).Nodup := List.nodup_cons.mp h
    rw [get_cons, List.mem_cons, Prod.mk.injEq]
    split_ifs with hkey
    · subst hkey
      constructor
      · intro hv
        exact Or.inl ⟨rfl, (Option.some.inj hv).symm⟩
      · rintro (⟨-, rfl⟩ | hmem)
        · rfl
        · exact absurd (List.mem_map_of_mem (f := Prod.fst) hmem) hk
    · rw [ih hrest]
      constructor
      · exact Or.inr
      · rintro (⟨heq, -⟩ | hmem)
        · exact absurd heq.symm hkey
        · exact hmem

/-- After a change of keys no key is left twice, and each is a changed key. -/
theorem rekey_keys (f : String → String) (entries : List (String × α)) :
    (keys (rekey f entries)).Nodup ∧ ∀ k ∈ keys (rekey f entries), ∃ s, k = f s := by
  suffices h : ∀ acc : List (String × α), ((keys acc).Nodup ∧ ∀ k ∈ keys acc, ∃ s, k = f s) →
      (keys (entries.foldl (fun acc e => set (f e.1) e.2 acc) acc)).Nodup ∧
        ∀ k ∈ keys (entries.foldl (fun acc e => set (f e.1) e.2 acc) acc), ∃ s, k = f s from
    h [] ⟨List.nodup_nil, fun _ hk => absurd hk List.not_mem_nil⟩
  induction entries with
  | nil => exact fun acc hacc => hacc
  | cons e rest ih =>
    intro acc hacc
    refine ih _ ⟨nodup_keys_set hacc.1, fun k hk => ?_⟩
    rcases mem_keys_set.mp hk with rfl | hk
    · exact ⟨e.1, rfl⟩
    · exact hacc.2 k hk

theorem rekey_of_nodup {f : String → String} {entries : List (String × α)} (hnodup : (keys entries).Nodup)
    (hfixed : ∀ k ∈ keys entries, f k = k) : rekey f entries = entries := by
  suffices h : ∀ acc : List (String × α), (∀ k ∈ keys entries, k ∉ keys acc) →
      entries.foldl (fun acc e => set (f e.1) e.2 acc) acc = acc ++ entries from
    h [] fun _ _ hk => absurd hk List.not_mem_nil
  induction entries with
  | nil => exact fun acc _ => (List.append_nil acc).symm
  | cons e rest ih =>
    obtain ⟨k, v⟩ := e
    intro acc hacc
    have hnodup' : k ∉ keys rest ∧ (keys rest).Nodup := List.nodup_cons.mp hnodup
    have hk : f k = k := hfixed k List.mem_cons_self
    have hset : set k v acc = acc ++ [(k, v)] := set_of_not_mem (hacc k List.mem_cons_self)
    rw [List.foldl_cons, hk, hset, ih hnodup'.2 (fun k' hk' => hfixed k' (List.mem_cons_of_mem _ hk'))]
    · rw [List.append_assoc]
      rfl
    · intro k' hk' hmem
      have hmem' : k' ∈ keys acc ∨ k' = k := by
        rw [keys, List.map_append, List.mem_append] at hmem
        exact hmem.imp_right fun h => List.mem_singleton.mp h
      rcases hmem' with hmem' | rfl
      · exact hacc k' (List.mem_cons_of_mem _ hk') hmem'
      · exact hnodup'.1 hk'

/-- A change of keys that does nothing the second time does nothing to the changed entries. -/
theorem rekey_rekey {f : String → String} (hf : ∀ s, f (f s) = f s) (entries : List (String × α)) :
    rekey f (rekey f entries) = rekey f entries := by
  obtain ⟨hnodup, hkeys⟩ := rekey_keys f entries
  refine rekey_of_nodup hnodup fun k hk => ?_
  obtain ⟨s, rfl⟩ := hkeys k hk
  exact hf s

theorem value_of_mem_set {key : String} {value : α} {entries : List (String × α)} {e : String × α}
    (h : e ∈ set key value entries) : e.2 = value ∨ e ∈ entries := by
  induction entries with
  | nil => exact .inl (congrArg Prod.snd (List.mem_singleton.mp h))
  | cons e' rest ih =>
    obtain ⟨k, v⟩ := e'
    rw [set] at h
    split_ifs at h with hkey
    · rcases List.mem_cons.mp h with rfl | h
      · exact .inl rfl
      · exact .inr (List.mem_cons_of_mem _ h)
    · rcases List.mem_cons.mp h with rfl | h
      · exact .inr List.mem_cons_self
      · exact (ih h).imp_right (List.mem_cons_of_mem _)

/-- A change of keys brings in no new value. -/
theorem value_of_mem_rekey {f : String → String} {P : α → Prop} {entries : List (String × α)}
    (h : ∀ e ∈ entries, P e.2) : ∀ e ∈ rekey f entries, P e.2 := by
  suffices hfold : ∀ acc : List (String × α), (∀ e ∈ acc, P e.2) →
      ∀ e ∈ entries.foldl (fun acc e => set (f e.1) e.2 acc) acc, P e.2 from
    hfold [] fun _ he => absurd he List.not_mem_nil
  induction entries with
  | nil => exact fun acc hacc => hacc
  | cons e' rest ih =>
    intro acc hacc
    refine ih (fun e he => h e (List.mem_cons_of_mem _ he)) _ fun e he => ?_
    rcases value_of_mem_set he with hvalue | he
    · rw [hvalue]
      exact h e' List.mem_cons_self
    · exact hacc e he

theorem mapValues_of_fixed {f : α → α} {entries : List (String × α)} (h : ∀ e ∈ entries, f e.2 = e.2) :
    entries.map (fun e => (e.1, f e.2)) = entries := by
  refine (List.map_congr_left fun e he => ?_).trans (List.map_id entries)
  exact Prod.ext rfl (h e he)

theorem mem_insertSorted {k : String} {v : α} {entries : List (String × α)} {e : String × α}
    (h : e ∈ insertSorted k v entries) : e = (k, v) ∨ e ∈ entries := by
  induction entries with
  | nil => exact .inl (List.mem_singleton.mp h)
  | cons e' rest ih =>
    obtain ⟨k', v'⟩ := e'
    rw [insertSorted] at h
    split_ifs at h with hlt heq
    · exact List.mem_cons.mp h
    · rcases List.mem_cons.mp h with rfl | h
      · exact .inl rfl
      · exact .inr (List.mem_cons_of_mem _ h)
    · rcases List.mem_cons.mp h with rfl | h
      · exact .inr List.mem_cons_self
      · exact (ih h).imp_right (List.mem_cons_of_mem _)

theorem mem_of_mem_sortEntries {entries : List (String × α)} {e : String × α} (h : e ∈ sortEntries entries) :
    e ∈ entries := by
  induction entries with
  | nil => exact h
  | cons e' rest ih =>
    rcases mem_insertSorted h with rfl | h
    · exact List.mem_cons_self
    · exact List.mem_cons_of_mem _ (ih h)

/-! ## Induction over a value -/

/-- A property that passes from the items of a list and from the values of a dictionary to the whole. -/
structure Closed (motive : Json → Prop) : Prop where
  null : motive .null
  bool : ∀ b, motive (.bool b)
  int : ∀ n, motive (.int n)
  float : ∀ q, motive (.float q)
  str : ∀ s, motive (.str s)
  list : ∀ items, (∀ v ∈ items, motive v) → motive (.list items)
  dict : ∀ entries, (∀ e ∈ entries, motive e.2) → motive (.dict entries)

mutual

theorem Closed.all (h : Closed motive) : ∀ v : Json, motive v
  | .null => h.null
  | .bool b => h.bool b
  | .int n => h.int n
  | .float q => h.float q
  | .str s => h.str s
  | .list items => h.list items (h.all_items items)
  | .dict entries => h.dict entries (h.all_values entries)

theorem Closed.all_items (h : Closed motive) : ∀ items : List Json, ∀ v ∈ items, motive v
  | [] => fun _ hv => absurd hv List.not_mem_nil
  | w :: rest => List.forall_mem_cons.mpr ⟨h.all w, h.all_items rest⟩

theorem Closed.all_values (h : Closed motive) : ∀ entries : List (String × Json), ∀ e ∈ entries, motive e.2
  | [] => fun _ he => absurd he List.not_mem_nil
  | (_, w) :: rest => List.forall_mem_cons.mpr ⟨h.all w, h.all_values rest⟩

end

/-! ## The sorted form -/

mutual

/-- The value with the keys of every dictionary in order. -/
def sorted : Json → Json
  | .null => .null
  | .bool b => .bool b
  | .int n => .int n
  | .float q => .float q
  | .str s => .str s
  | .list items => .list (sortedItems items)
  | .dict entries => .dict (sortEntries (sortedValues entries))

def sortedItems : List Json → List Json
  | [] => []
  | v :: rest => sorted v :: sortedItems rest

def sortedValues : List (String × Json) → List (String × Json)
  | [] => []
  | (k, v) :: rest => (k, sorted v) :: sortedValues rest

end

theorem sortedItems_eq (items : List Json) : sortedItems items = items.map sorted := by
  induction items with
  | nil => rfl
  | cons v rest ih => exact congrArg (sorted v :: ·) ih

theorem sortedValues_eq (entries : List (String × Json)) : sortedValues entries = mapValues sorted entries := by
  induction entries with
  | nil => rfl
  | cons e rest ih =>
    obtain ⟨k, v⟩ := e
    exact congrArg ((k, sorted v) :: ·) ih

theorem sorted_list (items : List Json) : sorted (.list items) = .list (items.map sorted) :=
  congrArg Json.list (sortedItems_eq items)

theorem sorted_dict (entries : List (String × Json)) :
    sorted (.dict entries) = .dict (sortEntries (mapValues sorted entries)) :=
  congrArg (fun values => Json.dict (sortEntries values)) (sortedValues_eq entries)

/-- Two values an encoder that sorts the keys does not tell apart. -/
def Same (a b : Json) : Prop := a.sorted = b.sorted

theorem Same.refl (a : Json) : a.Same a := rfl

/-- Dictionaries that are the same hold the same value under every key. -/
theorem Same.get {a b : List (String × Json)} (h : (Json.dict a).Same (.dict b)) (key : String) :
    (Json.get key a).map sorted = (Json.get key b).map sorted := by
  have hentries : sortEntries (mapValues sorted a) = sortEntries (mapValues sorted b) := by
    have hsorted : (Json.dict a).sorted = (Json.dict b).sorted := h
    rw [sorted_dict, sorted_dict] at hsorted
    exact Json.dict.inj hsorted
  rw [← get_mapValues, ← get_mapValues, ← get_sortEntries, hentries, get_sortEntries]

end Json

end TradingPlatform
