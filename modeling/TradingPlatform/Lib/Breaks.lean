import Mathlib.Data.List.Induction

/-!
# Loops that break

A loop over a list that may break and may raise. The elements it comes to are those that follow no break; a specification of one
pass of the body tells where the loop ends, and how.
-/

namespace TradingPlatform.Breaks

variable {ε α σ : Type}

variable {ends : List α → α → Prop}

/-- A loop that breaks where `ends` holds comes to `x`: it passed the elements before it without a break. -/
structure Visits (ends : List α → α → Prop) (l before : List α) (x : α) (after : List α) : Prop where
  split : l = before ++ x :: after
  passed : ∀ p c s, before = p ++ c :: s → ¬ends p c

theorem Visits.mem {l before after : List α} {x : α} (h : Visits ends l before x after) : x ∈ l := by
  rw [h.split]
  simp

/-- The elements a loop comes to are the first one and, without a break there, those it comes to in the rest. -/
theorem visits_cons {ends : List α → α → Prop} {a x : α} {l before after : List α} :
    Visits ends (a :: l) before x after ↔
      before = [] ∧ x = a ∧ after = l ∨
        ∃ before', before = a :: before' ∧ ¬ends [] a ∧ Visits (fun p => ends (a :: p)) l before' x after := by
  constructor
  · intro h
    cases before with
    | nil =>
      obtain ⟨rfl, rfl⟩ := List.cons.inj h.split
      exact .inl ⟨rfl, rfl, rfl⟩
    | cons b before =>
      obtain ⟨rfl, hl⟩ := List.cons.inj h.split
      refine .inr ⟨before, rfl, h.passed [] a before rfl, hl, ?_⟩
      intro p c s hp
      exact h.passed (a :: p) c s (by rw [hp]; rfl)
  · rintro (⟨rfl, rfl, rfl⟩ | ⟨before, rfl, hhead, hrest⟩)
    · exact ⟨rfl, fun p c s hp => by simp at hp⟩
    · refine ⟨by rw [hrest.split]; rfl, ?_⟩
      intro p c s hp
      cases p with
      | nil =>
        obtain ⟨rfl, -⟩ := List.cons.inj hp
        exact hhead
      | cons d p =>
        obtain ⟨rfl, htail⟩ := List.cons.inj hp
        exact hrest.passed p c s htail

/-- Two elements of a list at their places are the same, or one comes before the other. -/
theorem split_cases {l b b' a a' : List α} {x y : α} (h : l = b ++ x :: a) (h' : l = b' ++ y :: a') :
    (b' = b ∧ y = x ∧ a' = a) ∨ (∃ s, b = b' ++ y :: s ∧ a' = s ++ x :: a) ∨ (∃ s, b' = b ++ x :: s ∧ a = s ++ y :: a') := by
  rcases List.append_eq_append_iff.mp (h.symm.trans h') with ⟨m, hb, hx⟩ | ⟨m, hb, hy⟩
  · cases m with
    | nil =>
      obtain ⟨rfl, rfl⟩ := List.cons.inj hx
      exact .inl ⟨by simpa using hb, rfl, rfl⟩
    | cons c m =>
      obtain ⟨rfl, ha⟩ := List.cons.inj hx
      exact .inr (.inr ⟨m, hb, ha⟩)
  · cases m with
    | nil =>
      obtain ⟨rfl, rfl⟩ := List.cons.inj hy
      exact .inl ⟨by simpa using hb.symm, rfl, rfl⟩
    | cons c m =>
      obtain ⟨rfl, ha⟩ := List.cons.inj hy
      exact .inr (.inl ⟨m, hb, ha⟩)

/-- A loop that breaks at an element comes to it and to elements before it, where it does not break. -/
theorem Visits.eq_or_before {l b b' a a' : List α} {x y : α} (h : Visits ends l b x a) (hends : ends b x)
    (h' : Visits ends l b' y a') : (b' = b ∧ y = x ∧ a' = a) ∨ (¬ends b' y ∧ a' ≠ []) := by
  rcases split_cases h.split h'.split with heq | ⟨s, hb, ha⟩ | ⟨s, hb, -⟩
  · exact .inl heq
  · exact .inr ⟨h.passed b' y s hb, by simp [ha]⟩
  · exact absurd hends (h'.passed b x s hb)

/-- A loop without a break comes to every element. -/
theorem visits_of_split {l : List α} (hends : ∀ b y r, Visits ends l b y r → ¬ends b y)
    {before after : List α} {x : α} (h : l = before ++ x :: after) : Visits ends l before x after := by
  induction before using List.reverseRecOn generalizing x after with
  | nil => exact ⟨h, fun p c s hp => by simp at hp⟩
  | append_singleton before c ih =>
    have hc := ih (h.trans (List.append_assoc before [c] (x :: after)))
    refine ⟨h, fun p d s hp => ?_⟩
    rcases split_cases (l := before ++ [c]) rfl hp with ⟨rfl, rfl, -⟩ | ⟨s', hp', -⟩ | ⟨s', -, hnil⟩
    · exact hends _ _ _ hc
    · exact hc.passed p d s' hp'
    · simp at hnil

/-- The specification of the body of a loop over `l`: where `safe` fails it raises, where `ends` holds it breaks with a state that
is `Final`, and elsewhere it goes on and keeps `Inv`. -/
structure Spec (Inv : List α → σ → Prop) (ends safe : List α → α → Prop) (Final : List α → α → σ → Prop)
    (f : α → σ → Except ε (ForInStep σ)) (l : List α) : Prop where
  raises : ∀ {before x after s}, l = before ++ x :: after → Inv before s → ¬safe before x → ∃ e, f x s = .error e
  breaks : ∀ {before x after s}, l = before ++ x :: after → Inv before s → safe before x → ends before x →
    ∃ s', f x s = .ok (.done s') ∧ Final before x s'
  goes : ∀ {before x after s}, l = before ++ x :: after → Inv before s → safe before x → ¬ends before x →
    ∃ s', f x s = .ok (.yield s') ∧ Inv (before ++ [x]) s'

theorem Spec.tail {Inv : List α → σ → Prop} {ends safe : List α → α → Prop} {Final : List α → α → σ → Prop}
    {f : α → σ → Except ε (ForInStep σ)} {a : α} {l : List α} (h : Spec Inv ends safe Final f (a :: l)) :
    Spec (fun p => Inv (a :: p)) (fun p => ends (a :: p)) (fun p => safe (a :: p)) (fun p => Final (a :: p)) f l where
  raises hl := h.raises (by rw [hl]; rfl)
  breaks hl := h.breaks (by rw [hl]; rfl)
  goes hl := h.goes (by rw [hl]; rfl)

/-- How a loop ends: with a break, at the end of the list, or with an error. What follows the element it breaks at does not change
the result. -/
inductive Outcome (Inv : List α → σ → Prop) (ends safe : List α → α → Prop) (Final : List α → α → σ → Prop)
    (f : α → σ → Except ε (ForInStep σ)) (l : List α) (s : σ) : Prop where
  | broke {before x after s'} (hsafe : ∀ b y r, Visits ends l b y r → safe b y) (visit : Visits ends l before x after)
      (hends : ends before x) (final : Final before x s') (result : forIn l s f = .ok s')
      (stable : ∀ after', forIn (before ++ x :: after') s f = .ok s')
  | ran {s'} (hsafe : ∀ b y r, Visits ends l b y r → safe b y) (hends : ∀ b y r, Visits ends l b y r → ¬ends b y)
      (inv : Inv l s') (result : forIn l s f = .ok s')
  | raised {before x after e} (visit : Visits ends l before x after) (unsafeAt : ¬safe before x) (result : forIn l s f = .error e)

theorem forall_visits_cons {ends : List α → α → Prop} {P : List α → α → Prop} {a : α} {l : List α} (hhead : P [] a)
    (hrest : ∀ b y r, Visits (fun p => ends (a :: p)) l b y r → P (a :: b) y) :
    ∀ b y r, Visits ends (a :: l) b y r → P b y := by
  intro b y r h
  rcases visits_cons.mp h with ⟨rfl, rfl, rfl⟩ | ⟨b, rfl, -, h⟩
  · exact hhead
  · exact hrest b y r h

/-- A loop with a specified body ends as specified. -/
theorem Spec.outcome {Inv : List α → σ → Prop} {ends safe : List α → α → Prop} {Final : List α → α → σ → Prop}
    {f : α → σ → Except ε (ForInStep σ)} {l : List α} {s : σ} (h : Spec Inv ends safe Final f l) (hs : Inv [] s) :
    Outcome Inv ends safe Final f l s := by
  induction l generalizing Inv ends safe Final s with
  | nil => exact .ran (fun b y r hv => nomatch hv.mem) (fun b y r hv => nomatch hv.mem) hs rfl
  | cons a l ih =>
    by_cases hsafe : safe [] a
    · by_cases hends : ends [] a
      · obtain ⟨s', hf, hfinal⟩ := h.breaks rfl hs hsafe hends
        have honly : ∀ b y r, Visits ends (a :: l) b y r → safe b y := by
          intro b y r hv
          rcases visits_cons.mp hv with ⟨rfl, rfl, rfl⟩ | ⟨b, rfl, hgoes, -⟩
          · exact hsafe
          · exact absurd hends hgoes
        have hstep : ∀ rest, forIn (a :: rest) s f = .ok s' := fun rest => by
          simp [List.forIn_cons, hf, bind, Except.bind, pure, Except.pure]
        exact .broke honly (visits_cons.mpr (.inl ⟨rfl, rfl, rfl⟩)) hends hfinal (hstep l) hstep
      · obtain ⟨s', hf, hinv⟩ := h.goes rfl hs hsafe hends
        have hstep : ∀ rest, forIn (a :: rest) s f = forIn rest s' f := fun rest => by simp [List.forIn_cons, hf, bind, Except.bind]
        rcases ih h.tail hinv with ⟨hall, hv, he, hfinal, hresult, hstable⟩ | ⟨hall, he, hfin, hresult⟩ | ⟨hv, hu, hresult⟩
        · exact .broke (forall_visits_cons hsafe hall) (visits_cons.mpr (.inr ⟨_, rfl, hends, hv⟩)) he hfinal
            ((hstep l).trans hresult) fun rest => (hstep _).trans (hstable rest)
        · exact .ran (forall_visits_cons hsafe hall) (forall_visits_cons hends he) hfin ((hstep l).trans hresult)
        · exact .raised (visits_cons.mpr (.inr ⟨_, rfl, hends, hv⟩)) hu ((hstep l).trans hresult)
    · obtain ⟨e, hf⟩ := h.raises rfl hs hsafe
      have hresult : forIn (a :: l) s f = .error e := by simp [List.forIn_cons, hf, bind, Except.bind]
      exact .raised (visits_cons.mpr (.inl ⟨rfl, rfl, rfl⟩)) hsafe hresult

end TradingPlatform.Breaks
