import Mathlib.Data.Nat.Notation
import Mathlib.Logic.Function.Basic

/-!
# Calls on a shared store

Calls that run at once. A call is a sequence of statements, each of which reads and writes the store as a whole; between two
statements of a call any statements of other calls run. A call that is begun again under its number is one that was cut off.
-/

namespace TradingPlatform.Sessions

variable {σ τ ι : Type}

/-- A store, and where each call under way stands. -/
structure World (σ τ : Type) where
  stored : σ
  calls : ℕ → Option τ := fun _ => none

/-- A call begins, or runs its next statement on an answer of its environment. -/
inductive Op (τ ι : Type) where
  | start (call : ℕ) (t : τ)
  | advance (call : ℕ) (input : ι)

/-- A statement runs. -/
def World.step (next : ι → τ → σ → Option τ × σ) (w : World σ τ) : Op τ ι → World σ τ
  | .start call t => { w with calls := Function.update w.calls call (some t) }
  | .advance call input =>
    match w.calls call with
    | none => w
    | some t => { stored := (next input t w.stored).2, calls := Function.update w.calls call (next input t w.stored).1 }

/-- The statements run in an order. -/
def World.run (next : ι → τ → σ → Option τ × σ) (w : World σ τ) (ops : List (Op τ ι)) : World σ τ :=
  ops.foldl (World.step next) w

/-- The calls a run begins. -/
def Begins (Starts : τ → Prop) (ops : List (Op τ ι)) : Prop := ∀ call t, Op.start call t ∈ ops → Starts t

@[simp] theorem begins_nil (Starts : τ → Prop) : Begins Starts ([] : List (Op τ ι)) := by
  intro call t ht
  cases ht

@[simp] theorem begins_start (Starts : τ → Prop) (call : ℕ) (t : τ) (ops : List (Op τ ι)) :
    Begins Starts (.start call t :: ops) ↔ Starts t ∧ Begins Starts ops := by
  constructor
  · exact fun h => ⟨h call t List.mem_cons_self, fun call' t' ht => h call' t' (List.mem_cons_of_mem _ ht)⟩
  · rintro ⟨hstart, hrest⟩ call' t' ht
    rcases List.mem_cons.mp ht with heq | ht
    · cases heq
      exact hstart
    · exact hrest call' t' ht

@[simp] theorem begins_advance (Starts : τ → Prop) (call : ℕ) (input : ι) (ops : List (Op τ ι)) :
    Begins Starts (.advance call input :: ops) ↔ Begins Starts ops := by
  constructor
  · exact fun h call' t' ht => h call' t' (List.mem_cons_of_mem _ ht)
  · intro hrest call' t' ht
    rcases List.mem_cons.mp ht with heq | ht
    · cases heq
    · exact hrest call' t' ht

/-- What statements keep: the store meets `I`, and each call is in `J` with it, also across the statements of the others. -/
structure Keeps (next : ι → τ → σ → Option τ × σ) (Starts : τ → Prop) (I : σ → Prop) (J : τ → σ → Prop) : Prop where
  start : ∀ s t, I s → Starts t → J t s
  stored : ∀ input t s, I s → J t s → I (next input t s).2
  call : ∀ input t s t', I s → J t s → (next input t s).1 = some t' → J t' (next input t s).2
  other : ∀ input t s u, I s → J t s → J u s → J u (next input t s).2

/-- More that is kept, by statements of which something is kept already. -/
theorem Keeps.and {next : ι → τ → σ → Option τ × σ} {Starts : τ → Prop} {I I' : σ → Prop} {J J' : τ → σ → Prop}
    (hk : Keeps next Starts I J) (start : ∀ s t, I s → I' s → Starts t → J' t s)
    (stored : ∀ input t s, I s → J t s → I' s → J' t s → I' (next input t s).2)
    (call : ∀ input t s t', I s → J t s → I' s → J' t s → (next input t s).1 = some t' → J' t' (next input t s).2)
    (other : ∀ input t s u, I s → J t s → I' s → J' t s → J' u s → J' u (next input t s).2) :
    Keeps next Starts (fun s => I s ∧ I' s) (fun t s => J t s ∧ J' t s) where
  start s t h ht := ⟨hk.start s t h.1 ht, start s t h.1 h.2 ht⟩
  stored input t s h ht := ⟨hk.stored input t s h.1 ht.1, stored input t s h.1 ht.1 h.2 ht.2⟩
  call input t s t' h ht ht' := ⟨hk.call input t s t' h.1 ht.1 ht', call input t s t' h.1 ht.1 h.2 ht.2 ht'⟩
  other input t s u h ht hu := ⟨hk.other input t s u h.1 ht.1 hu.1, other input t s u h.1 ht.1 h.2 ht.2 hu.2⟩

/-- The store meets `I` and every call under way is in `J` with it. -/
def Holds (I : σ → Prop) (J : τ → σ → Prop) (w : World σ τ) : Prop :=
  I w.stored ∧ ∀ call t, w.calls call = some t → J t w.stored

section Runs

variable {next : ι → τ → σ → Option τ × σ} {Starts : τ → Prop} {I : σ → Prop} {J : τ → σ → Prop} {w : World σ τ}

theorem Keeps.step (hk : Keeps next Starts I J) (h : Holds I J w) (op : Op τ ι)
    (hop : ∀ call t, op = .start call t → Starts t) : Holds I J (w.step next op) := by
  obtain ⟨hI, hJ⟩ := h
  cases op with
  | start call t =>
    refine ⟨hI, fun call' t' ht' => ?_⟩
    simp only [World.step] at ht'
    by_cases hc : call' = call
    · rw [hc, Function.update_self] at ht'
      cases ht'
      exact hk.start _ _ hI (hop call t rfl)
    · rw [Function.update_of_ne hc] at ht'
      exact hJ call' t' ht'
  | advance call input =>
    cases ht : w.calls call with
    | none =>
      have hsame : w.step next (.advance call input) = w := by simp only [World.step, ht]
      rw [hsame]
      exact ⟨hI, hJ⟩
    | some t =>
      have hstep : w.step next (.advance call input) = ⟨(next input t w.stored).2, Function.update w.calls call
        (next input t w.stored).1⟩ := by simp only [World.step, ht]
      rw [hstep]
      refine ⟨hk.stored input t _ hI (hJ call t ht), fun call' u hu => ?_⟩
      dsimp only at hu ⊢
      by_cases hc : call' = call
      · rw [hc, Function.update_self] at hu
        exact hk.call input t _ u hI (hJ call t ht) hu
      · rw [Function.update_of_ne hc] at hu
        exact hk.other input t _ u hI (hJ call t ht) (hJ call' u hu)

/-- What every statement keeps holds throughout a run, whatever the order of the statements. -/
theorem Keeps.run (hk : Keeps next Starts I J) (h : Holds I J w) {ops : List (Op τ ι)} (hops : Begins Starts ops) :
    Holds I J (w.run next ops) := by
  induction ops generalizing w with
  | nil => exact h
  | cons op ops ih =>
    refine ih (hk.step h op fun call t ht => hops call t (by rw [ht]; exact List.mem_cons_self)) fun call t ht => ?_
    exact hops call t (List.mem_cons_of_mem _ ht)

/-- A relation that every statement of a call in `J` meets relates the stores at the ends of a run. -/
theorem Keeps.run_rel (hk : Keeps next Starts I J) {R : σ → σ → Prop} (hrefl : ∀ s, R s s)
    (htrans : ∀ s s' s'', R s s' → R s' s'' → R s s'') (hstep : ∀ input t s, I s → J t s → R s (next input t s).2)
    (h : Holds I J w) {ops : List (Op τ ι)} (hops : Begins Starts ops) : R w.stored (w.run next ops).stored := by
  induction ops generalizing w with
  | nil => exact hrefl _
  | cons op ops ih =>
    have hnext := hk.step h op fun call t ht => hops call t (by rw [ht]; exact List.mem_cons_self)
    refine htrans _ _ _ ?_ (ih hnext fun call t ht => hops call t (List.mem_cons_of_mem _ ht))
    cases op with
    | start call t => exact hrefl _
    | advance call input =>
      cases ht : w.calls call with
      | none =>
        simp only [World.step, ht]
        exact hrefl _
      | some t =>
        simp only [World.step, ht]
        exact hstep input t _ h.1 (h.2 call t ht)

end Runs

/-! ## Calls that hold something -/

variable {κ : Type}

/-- What statements keep where no two calls hold one key: a key that a call takes is held by no call. -/
structure KeepsApart (next : ι → τ → σ → Option τ × σ) (Starts : τ → Prop) (I : σ → Prop) (J : τ → σ → Prop)
    (owned : τ → Option κ) : Prop where
  start : ∀ s t, I s → Starts t → J t s ∧ owned t = none
  stored : ∀ input t s, I s → J t s → I (next input t s).2
  call : ∀ input t s t', I s → J t s → (next input t s).1 = some t' → J t' (next input t s).2
  takes : ∀ input t s t' k, I s → J t s → (next input t s).1 = some t' → owned t' = some k →
    owned t = some k ∨ ∀ u, J u s → owned u ≠ some k
  other : ∀ input t s u, I s → J t s → J u s → (∀ k, owned t = some k → owned u ≠ some k) → J u (next input t s).2

/-- No two calls hold one key. -/
def Apart (owned : τ → Option κ) (w : World σ τ) : Prop :=
  ∀ c c' t t' k, c ≠ c' → w.calls c = some t → w.calls c' = some t' → owned t = some k → owned t' ≠ some k

section Apart

variable {next : ι → τ → σ → Option τ × σ} {Starts : τ → Prop} {I : σ → Prop} {J : τ → σ → Prop} {owned : τ → Option κ}
  {w : World σ τ}

theorem KeepsApart.step (hk : KeepsApart next Starts I J owned) (h : Holds I J w) (hapart : Apart owned w) (op : Op τ ι)
    (hop : ∀ call t, op = .start call t → Starts t) : Holds I J (w.step next op) ∧ Apart owned (w.step next op) := by
  obtain ⟨hI, hJ⟩ := h
  cases op with
  | start call t =>
    obtain ⟨hstart, hnone⟩ := hk.start _ _ hI (hop call t rfl)
    have hheld : ∀ c u k, (w.step next (.start call t)).calls c = some u → owned u = some k → c ≠ call ∧ w.calls c = some u := by
      intro c u k hu howned
      simp only [World.step] at hu
      by_cases hc : c = call
      · rw [hc, Function.update_self] at hu
        cases hu
        rw [hnone] at howned
        cases howned
      · rw [Function.update_of_ne hc] at hu
        exact ⟨hc, hu⟩
    refine ⟨⟨hI, fun c u hu => ?_⟩, fun c c' u u' k hne hu hu' howned howned' => ?_⟩
    · simp only [World.step] at hu
      by_cases hc : c = call
      · rw [hc, Function.update_self] at hu
        cases hu
        exact hstart
      · rw [Function.update_of_ne hc] at hu
        exact hJ c u hu
    · exact hapart c c' u u' k hne (hheld c u k hu howned).2 (hheld c' u' k hu' howned').2 howned howned'
  | advance call input =>
    cases ht : w.calls call with
    | none =>
      have hsame : w.step next (.advance call input) = w := by simp only [World.step, ht]
      rw [hsame]
      exact ⟨⟨hI, hJ⟩, hapart⟩
    | some t =>
      have hstep : w.step next (.advance call input) = ⟨(next input t w.stored).2, Function.update w.calls call
        (next input t w.stored).1⟩ := by simp only [World.step, ht]
      have htJ := hJ call t ht
      rw [hstep]
      -- what the call takes is not held by another one
      have htaken : ∀ c u t' k, c ≠ call → w.calls c = some u → (next input t w.stored).1 = some t' → owned t' = some k →
          owned u ≠ some k := by
        intro c u t' k hc hu ht' howned
        rcases hk.takes input t _ t' k hI htJ ht' howned with hheld | hfree
        · exact hapart call c t u k (Ne.symm hc) ht hu hheld
        · exact hfree u (hJ c u hu)
      refine ⟨⟨hk.stored input t _ hI htJ, fun c u hu => ?_⟩, fun c c' u u' k hne hu hu' howned howned' => ?_⟩
      · dsimp only at hu ⊢
        by_cases hc : c = call
        · rw [hc, Function.update_self] at hu
          exact hk.call input t _ u hI htJ hu
        · rw [Function.update_of_ne hc] at hu
          exact hk.other input t _ u hI htJ (hJ c u hu) fun k => hapart call c t u k (Ne.symm hc) ht hu
      · dsimp only at hu hu'
        by_cases hc : c = call
        · have hc' : c' ≠ call := fun heq => hne (hc.trans heq.symm)
          rw [hc, Function.update_self] at hu
          rw [Function.update_of_ne hc'] at hu'
          exact htaken c' u' u k hc' hu' hu howned howned'
        · rw [Function.update_of_ne hc] at hu
          by_cases hc' : c' = call
          · rw [hc', Function.update_self] at hu'
            exact htaken c u u' k hc hu hu' howned' howned
          · rw [Function.update_of_ne hc'] at hu'
            exact hapart c c' u u' k hne hu hu' howned howned'

/-- What every statement keeps, where no two calls hold one key, holds throughout a run. -/
theorem KeepsApart.run (hk : KeepsApart next Starts I J owned) (h : Holds I J w) (hapart : Apart owned w)
    {ops : List (Op τ ι)} (hops : Begins Starts ops) : Holds I J (w.run next ops) ∧ Apart owned (w.run next ops) := by
  induction ops generalizing w with
  | nil => exact ⟨h, hapart⟩
  | cons op ops ih =>
    obtain ⟨hnext, hnext'⟩ := hk.step h hapart op fun call t ht => hops call t (by rw [ht]; exact List.mem_cons_self)
    exact ih hnext hnext' fun call t ht => hops call t (List.mem_cons_of_mem _ ht)

end Apart

end TradingPlatform.Sessions
