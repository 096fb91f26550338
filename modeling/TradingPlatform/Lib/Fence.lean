import Mathlib.Order.Basic

/-!
# Fences

An owner and the token it holds. Fences are ordered by their tokens, and of two fences with one token only equal ones are
comparable: along a chain of fences every new owner has a greater token, and an owner that has been replaced never holds its
old token again.
-/

namespace TradingPlatform

/-- An owner with its token. -/
@[ext]
structure Fence (ω τ : Type) where
  owner : ω
  token : τ
  deriving DecidableEq, Repr

namespace Fence

variable {ω τ : Type} [PartialOrder τ] {f g h : Fence ω τ}

instance : LE (Fence ω τ) where
  le f g := f.token ≤ g.token ∧ (f.token = g.token → f.owner = g.owner)

instance : PartialOrder (Fence ω τ) where
  le_refl f := ⟨le_refl _, fun _ => rfl⟩
  le_trans f g h hfg hgh := by
    refine ⟨hfg.1.trans hgh.1, fun heq => ?_⟩
    have hmiddle : f.token = g.token := le_antisymm hfg.1 (heq ▸ hgh.1)
    exact (hfg.2 hmiddle).trans (hgh.2 (hmiddle.symm.trans heq))
  le_antisymm f g hfg hgf := by
    have htoken : f.token = g.token := le_antisymm hfg.1 hgf.1
    exact Fence.ext (hfg.2 htoken) htoken

/-- A greater token may have any owner. -/
theorem le_of_token_lt (hlt : f.token < g.token) : f ≤ g := ⟨hlt.le, fun heq => absurd heq hlt.ne⟩

/-- An owner that stays may keep its token. -/
theorem le_of_owner_eq (howner : f.owner = g.owner) (hle : f.token ≤ g.token) : f ≤ g := ⟨hle, fun _ => howner⟩

/-- A new owner has a greater token. -/
theorem token_lt_of_owner_ne (hle : f ≤ g) (hne : f.owner ≠ g.owner) : f.token < g.token :=
  lt_of_le_of_ne hle.1 fun heq => hne (hle.2 heq)

/-- Once its owner is replaced a fence does not come back. -/
theorem ne_of_replaced (hfg : f ≤ g) (hne : f.owner ≠ g.owner) (hgh : g ≤ h) : h ≠ f := by
  rintro rfl
  exact hne (congrArg Fence.owner (le_antisymm hfg hgh))

end Fence

end TradingPlatform
