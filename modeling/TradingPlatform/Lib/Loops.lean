import Mathlib.Data.List.Basic

/-!
# Loops and fallible steps

Rules for a `for` loop that collects findings into an accumulator, for a loop that may raise, and for the runs of a state
machine whose steps are given by a list.
-/

namespace TradingPlatform.Loops

variable {α β : Type}

/-- A computation that may raise returns only if its first part does and the rest returns from there. -/
theorem bind_eq_ok {ε α β : Type} {x : Except ε α} {f : α → Except ε β} {b : β} :
    (x >>= f) = .ok b ↔ ∃ a, x = .ok a ∧ f a = .ok b := by
  cases x with
  | error e => constructor <;> (intro h; simp [bind, Except.bind] at h)
  | ok a => simp [bind, Except.bind]

/-- A check that raises is passed exactly when its condition is false. -/
theorem guard_eq_ok {ε α : Type} {c : Prop} [Decidable c] {e : ε} {k : PUnit → Except ε α} {a : α} :
    (if c then throw e >>= k else k PUnit.unit) = .ok a ↔ ¬c ∧ k PUnit.unit = .ok a := by
  by_cases hc : c
  · rw [if_pos hc]
    exact ⟨fun h => (nomatch h), fun h => absurd hc h.1⟩
  · rw [if_neg hc]
    exact ⟨fun h => ⟨hc, h⟩, fun h => h.2⟩

/-- A result that is mapped is one that was returned. -/
theorem map_eq_ok {ε α β : Type} {x : Except ε α} {f : α → β} {b : β} : x.map f = .ok b ↔ ∃ a, x = .ok a ∧ f a = b := by
  cases x with
  | error e => constructor <;> (intro h; simp [Except.map] at h)
  | ok a => simp [Except.map]

/-- A result without its error is one that was returned. -/
theorem toOption_eq_some {ε α : Type} {x : Except ε α} {a : α} : x.toOption = some a ↔ x = .ok a := by
  cases x with
  | error e => constructor <;> (intro h; nomatch h)
  | ok b => simp [Except.toOption]

/-- A loop leaves the accumulator clean exactly if it was clean and every item is. -/
theorem foldl_iff {P : β → Prop} {Q : α → Prop} {f : β → α → β} (hstep : ∀ b x, P (f b x) ↔ P b ∧ Q x)
    (l : List α) (b : β) : P (l.foldl f b) ↔ P b ∧ ∀ x ∈ l, Q x := by
  induction l generalizing b with
  | nil => simp
  | cons x l ih =>
    rw [List.foldl_cons, ih (f b x), hstep b x, List.forall_mem_cons, and_assoc]

/-- What a loop collects is what it held and what some item adds. -/
theorem foldl_or_iff {P : β → Prop} {Q : α → Prop} {f : β → α → β} (hstep : ∀ b x, P (f b x) ↔ P b ∨ Q x)
    (l : List α) (b : β) : P (l.foldl f b) ↔ P b ∨ ∃ x ∈ l, Q x := by
  induction l generalizing b with
  | nil => simp
  | cons x l ih =>
    rw [List.foldl_cons, ih (f b x), hstep b x, or_assoc]
    simp only [List.mem_cons, exists_eq_or_imp]

/-- What every step of a loop keeps, the loop keeps. -/
theorem foldl_keeps {P : β → Prop} {f : β → α → β} (hstep : ∀ b x, P b → P (f b x)) (l : List α) (b : β)
    (h : P b) : P (l.foldl f b) := by
  induction l generalizing b with
  | nil => exact h
  | cons x l ih => exact ih (f b x) (hstep b x h)

/-- What every step of a loop does to the accumulator, the loop does. -/
theorem foldl_rel {R : β → β → Prop} {f : β → α → β} (hrefl : ∀ b, R b b)
    (htrans : ∀ b c d, R b c → R c d → R b d) (hstep : ∀ b x, R b (f b x)) (l : List α) (b : β) : R b (l.foldl f b) := by
  induction l generalizing b with
  | nil => exact hrefl b
  | cons x l ih => exact htrans b (f b x) _ (hstep b x) (ih (f b x))

/-- Every step of a run meets a condition on the state it starts from. -/
def Meets {σ ι : Type} (step : σ → ι → σ) (P : σ → ι → Prop) : σ → List ι → Prop
  | _, [] => True
  | s, i :: l => P s i ∧ Meets step P (step s i) l

/-- A run meets the condition exactly if its first part does and the rest does from there. -/
theorem meets_append {σ ι : Type} {step : σ → ι → σ} {P : σ → ι → Prop} {l l' : List ι} {s : σ} :
    Meets step P s (l ++ l') ↔ Meets step P s l ∧ Meets step P (l.foldl step s) l' := by
  induction l generalizing s with
  | nil => exact ⟨fun h => ⟨trivial, h⟩, fun h => h.2⟩
  | cons i l ih => exact ⟨fun h => ⟨⟨h.1, (ih.mp h.2).1⟩, (ih.mp h.2).2⟩, fun h => ⟨h.1.1, ih.mpr ⟨h.1.2, h.2⟩⟩⟩

/-- A run meets the condition exactly if each of its steps does in the state that the steps before it lead to. -/
theorem meets_iff {σ ι : Type} {step : σ → ι → σ} {P : σ → ι → Prop} {l : List ι} {s : σ} :
    Meets step P s l ↔ ∀ before i after, l = before ++ i :: after → P (before.foldl step s) i := by
  induction l generalizing s with
  | nil => exact ⟨fun _ _ _ _ h => by simp at h, fun _ => trivial⟩
  | cons j l ih =>
    constructor
    · rintro ⟨hj, hrest⟩ before i after h
      cases before with
      | nil =>
        obtain ⟨rfl, -⟩ := List.cons.inj h
        exact hj
      | cons k before =>
        obtain ⟨rfl, hl⟩ := List.cons.inj h
        exact ih.mp hrest before i after hl
    · intro h
      exact ⟨h [] j l rfl, ih.mpr fun before i after hl => h (j :: before) i after (congrArg (j :: ·) hl)⟩

/-- What every step that meets the condition keeps, every run of such steps keeps. -/
theorem run_keeps {σ ι : Type} {step : σ → ι → σ} {P : σ → ι → Prop} {Inv : σ → Prop}
    (hstep : ∀ s i, Inv s → P s i → Inv (step s i)) {l : List ι} {s : σ} (h : Inv s) (hm : Meets step P s l) :
    Inv (l.foldl step s) := by
  induction l generalizing s with
  | nil => exact h
  | cons i l ih => exact ih (hstep s i h hm.1) hm.2

/-- Where an invariant turns one condition on a step into another, a run that meets the one meets the other. -/
theorem Meets.imp {σ ι : Type} {step : σ → ι → σ} {P Q : σ → ι → Prop} {Inv : σ → Prop}
    (hstep : ∀ s i, Inv s → P s i → Inv (step s i)) (himp : ∀ s i, Inv s → P s i → Q s i) {l : List ι} {s : σ}
    (h : Inv s) (hm : Meets step P s l) : Meets step Q s l := by
  induction l generalizing s with
  | nil => trivial
  | cons i l ih => exact ⟨himp s i h hm.1, ih (hstep s i h hm.1) hm.2⟩

/-- What every step of a loop that may raise keeps, the loop keeps if it returns. -/
theorem foldlM_keeps {ε α β : Type} {P : β → Prop} {f : β → α → Except ε β}
    (hstep : ∀ b x b', P b → f b x = .ok b' → P b') (l : List α) {b b' : β} (h : P b) (hl : l.foldlM f b = .ok b') :
    P b' := by
  induction l generalizing b with
  | nil =>
    obtain rfl : b = b' := by simpa [pure, Except.pure] using hl
    exact h
  | cons x l ih =>
    rw [List.foldlM_cons, bind_eq_ok] at hl
    obtain ⟨c, hc, hl⟩ := hl
    exact ih (hstep b x c h hc) hl

/-- A loop that may raise ends clean exactly if the accumulator was clean and every item is. -/
theorem foldlM_iff {ε α β : Type} {P : β → Prop} {Q : α → Prop} {f : β → α → Except ε β}
    (hstep : ∀ b x, (∃ b', f b x = .ok b' ∧ P b') ↔ P b ∧ Q x)
    (l : List α) (b : β) : (∃ b', l.foldlM f b = .ok b' ∧ P b') ↔ P b ∧ ∀ x ∈ l, Q x := by
  induction l generalizing b with
  | nil => simp [pure, Except.pure]
  | cons x l ih =>
    simp only [List.foldlM_cons, bind_eq_ok, List.forall_mem_cons]
    constructor
    · rintro ⟨b', ⟨c, hc, hl⟩, hP⟩
      have hrest := (ih c).mp ⟨b', hl, hP⟩
      have hfirst := (hstep b x).mp ⟨c, hc, hrest.1⟩
      exact ⟨hfirst.1, hfirst.2, hrest.2⟩
    · rintro ⟨hb, hx, hl⟩
      obtain ⟨c, hc, hPc⟩ := (hstep b x).mpr ⟨hb, hx⟩
      obtain ⟨b', hb', hP⟩ := (ih c).mpr ⟨hPc, hl⟩
      exact ⟨b', ⟨c, hc, hb'⟩, hP⟩

/-- A loop that maps each item returns what each item returns. -/
theorem mapM_eq_ok {ε α β : Type} {f : α → Except ε β} {l : List α} {l' : List β} :
    l.mapM f = .ok l' ↔ List.Forall₂ (fun x y => f x = .ok y) l l' := by
  induction l generalizing l' with
  | nil =>
    rw [List.mapM_nil]
    constructor
    · intro h
      cases h
      exact .nil
    · rintro ⟨⟩
      rfl
  | cons x l ih =>
    rw [List.mapM_cons, bind_eq_ok]
    constructor
    · rintro ⟨y, hy, hrest⟩
      obtain ⟨ys, hys, hcons⟩ := bind_eq_ok.mp hrest
      cases hcons
      exact .cons hy (ih.mp hys)
    · rintro (_ | ⟨hy, hrest⟩)
      exact ⟨_, hy, bind_eq_ok.mpr ⟨_, ih.mpr hrest, rfl⟩⟩

end TradingPlatform.Loops
