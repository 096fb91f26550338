import Mathlib.Logic.Function.Basic

/-!
# Computations that may raise and keep their state

A computation over a state that may raise; what it has done to the state stays if it does. `Ends x s Q` says how it ends from a
state: its rules are equivalences, so that what a computation ends with is found from its parts.
-/

namespace TradingPlatform

/-- A computation that may raise, over a state that stays if it does. -/
abbrev Attempt (ε σ α : Type) : Type := ExceptT ε (StateM σ) α

namespace Attempt

variable {ε σ α β : Type}

/-- What a computation returns or raises from a state, and the state it leaves. -/
def exec (x : Attempt ε σ α) (s : σ) : Except ε α × σ := (ExceptT.run x).run s

/-- A computation ends as a condition on its result and its last state says. -/
def Ends (x : Attempt ε σ α) (s : σ) (Q : Except ε α → σ → Prop) : Prop := Q (x.exec s).1 (x.exec s).2

theorem ends_get {s : σ} {Q : Except ε σ → σ → Prop} : Ends (get : Attempt ε σ σ) s Q ↔ Q (.ok s) s := Iff.rfl

/-- What follows runs from where the first part returns. -/
theorem ends_bind {x : Attempt ε σ α} {f : α → Attempt ε σ β} {s : σ} {Q : Except ε β → σ → Prop} :
    Ends (x >>= f) s Q ↔ Ends x s fun r s' => match r with
      | .ok a => Ends (f a) s' Q
      | .error e => Q (.error e) s' := by
  have hexec : (x >>= f).exec s = match x.exec s with
      | (.ok a, s') => (f a).exec s'
      | (.error e, s') => (.error e, s') := by
    show (ExceptT.bindCont f (x.exec s).1).run (x.exec s).2 = _
    rcases x.exec s with ⟨_ | _, s'⟩ <;> rfl
  unfold Ends
  rw [hexec]
  rcases x.exec s with ⟨_ | _, s'⟩ <;> rfl

/-- The last part of a `try` runs whether the first returns or raises, and its own raise comes first. -/
theorem ends_finally {x : Attempt ε σ α} {f : Attempt ε σ β} {s : σ} {Q : Except ε α → σ → Prop} :
    Ends (tryFinally x f) s Q ↔ Ends x s fun r s' => Ends f s' fun r' s'' => match r' with
      | .ok _ => Q r s''
      | .error e => Q (.error e) s'' := by
  have hexec : (tryFinally x f).exec s = match x.exec s with
      | (r, s') => match f.exec s' with
        | (.ok _, s'') => (r, s'')
        | (.error e, s'') => (.error e, s'') := by
    rcases hx : x.exec s with ⟨r, s'⟩
    rcases hf : f.exec s' with ⟨r', s''⟩
    have hx' : x s = (r, s') := hx
    have hf' : f s' = (r', s'') := hf
    unfold exec tryFinally ExceptT.run StateT.run
    simp only [tryFinally', Functor.map, ExceptT.map, ExceptT.mk, bind, StateT.bind, pure, hx']
    cases r <;> cases r' <;> (simp only [hf']; rfl)
  unfold Ends
  rw [hexec]
  rcases x.exec s with ⟨r, s'⟩
  dsimp only
  rcases f.exec s' with ⟨_ | _, s''⟩ <;> rfl

/-- A computation ends as one condition says exactly if it ends as an equivalent one does. -/
theorem ends_congr {x : Attempt ε σ α} {s : σ} {Q Q' : Except ε α → σ → Prop} (h : ∀ r s, Q r s ↔ Q' r s) :
    Ends x s Q ↔ Ends x s Q' := h _ _

end Attempt

end TradingPlatform
