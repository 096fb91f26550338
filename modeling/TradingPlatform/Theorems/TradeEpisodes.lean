import Mathlib.Tactic.Linarith
import Mathlib.Tactic.Ring
import TradingPlatform.Engine.TradeEpisodes
import TradingPlatform.Lib.Table

/-!
# What the episodes account for

The episodes of a symbol add up to the plain ledger of its fills: what was traded, what was paid, and the profit, but for what a fill
in the direction of the position reports of it. At most one of them is open, and it holds the position of the ledger. They follow one another, so a funding
payment counts in two of them only at an instant where one ends and the other begins. Nothing depends on the order in which the
trades were listed.
-/

namespace TradingPlatform

/-! ## Statements -/

/-- The ledger of a symbol: its position, and what its fills traded, paid and realized. `unbooked` is what was realized by fills that
are not against the position. -/
structure SymbolLedger where
  position : ℚ := 0
  turnover : ℚ := 0
  commission : ℚ := 0
  realizedPnl : ℚ := 0
  unbooked : ℚ := 0

def SymbolLedger.add (l : SymbolLedger) (r : TradeRecord) : SymbolLedger where
  position := l.position + r.signed
  turnover := l.turnover + r.quantity
  commission := l.commission + r.commission
  realizedPnl := l.realizedPnl + r.realizedPnl
  unbooked := if l.position * r.signed < 0 then l.unbooked else l.unbooked + r.realizedPnl

/-- The ledger of the fills of a symbol. -/
def ledgerOf (symbol : String) (records : List TradeRecord) : SymbolLedger :=
  (records.filter fun r => decide (r.symbol = symbol)).foldl SymbolLedger.add {}

/-- A column of episodes, added up. -/
def amount (m : TradeEpisode → ℚ) (episodes : List TradeEpisode) : ℚ := (episodes.map m).sum

/-- What an episode traded. -/
def TradeEpisode.turnover (e : TradeEpisode) : ℚ := e.entryQuantity + e.exitQuantity

/-- An open episode holds a position: a complete one holds none. -/
def TradeEpisode.Holds (e : TradeEpisode) (position : ℚ) : Prop :=
  e.exitTime = none ∧ position ≠ 0 ∧ e.entryQuantity - e.exitQuantity = |position| ∧
    e.direction = if 0 < position then .long else .short

/-- The episodes of a symbol account for its ledger. -/
structure Accounts (episodes : List TradeEpisode) (l : SymbolLedger) : Prop where
  turnover : amount TradeEpisode.turnover episodes = l.turnover
  commission : amount TradeEpisode.commission episodes = l.commission
  realizedPnl : amount TradeEpisode.realizedPnl episodes = l.realizedPnl - l.unbooked
  complete : ∀ e ∈ episodes, e.exitTime ≠ none → e.entryQuantity = e.exitQuantity
  flat : l.position = 0 → ∀ e ∈ episodes, e.exitTime ≠ none
  holding : l.position ≠ 0 → ∃ e, (episodes.filter fun e => e.exitTime.isNone) = [e] ∧ e.Holds l.position

/-- Two episodes share an instant only where one ends and the other begins. -/
def TradeEpisode.Meets (now : ℤ) (a b : TradeEpisode) : Prop :=
  ∀ t, a.covers now t = true → b.covers now t = true →
    (a.exitTime = some t ∧ b.entryTime = t) ∨ (b.exitTime = some t ∧ a.entryTime = t)

namespace TradeEpisodesAux

variable {f : String → Option String} {n : ℕ} {x : String} {r : TradeRecord} {cur : Option (TradeEpisode × ℚ)} {p t : ℚ}

theorem abs_signed (r : TradeRecord) : |r.signed| = r.quantity := by
  unfold TradeRecord.signed
  cases r.side with
  | buy => exact abs_of_pos r.quantity_pos
  | sell => rw [abs_neg, abs_of_pos r.quantity_pos]

theorem signed_ne_zero (r : TradeRecord) : r.signed ≠ 0 := by
  intro h
  have habs := abs_signed r
  rw [h, abs_zero] at habs
  exact absurd habs r.quantity_pos.ne

@[simp] theorem turnover_openEpisode (n : ℕ) (r : TradeRecord) (signed commission : ℚ) :
    (openEpisode n r signed commission).turnover = |signed| := add_zero _

@[simp] theorem turnover_grow (e : TradeEpisode) (net : ℚ) (r : TradeRecord) :
    (e.grow net r).turnover = e.turnover + r.quantity := by
  simp only [TradeEpisode.turnover, TradeEpisode.grow, abs_signed]
  ring

@[simp] theorem turnover_reduce (e : TradeEpisode) (net : ℚ) (r : TradeRecord) :
    (e.reduce net r).turnover = e.turnover + min |net| r.quantity := by
  simp only [TradeEpisode.turnover, TradeEpisode.reduce, abs_signed]
  ring

@[simp] theorem turnover_finish (e : TradeEpisode) (time : ℤ) (exitReason : String) :
    (e.finish time exitReason).turnover = e.turnover := rfl

/-- The open episode of a symbol. -/
def opened (cur : Option (TradeEpisode × ℚ)) : List TradeEpisode := (cur.map Prod.fst).toList

/-- The open episode holds the position. -/
def Current (x : String) (position : ℚ) : Option (TradeEpisode × ℚ) → Prop
  | none => position = 0
  | some (e, net) => net = position ∧ e.symbol = x ∧ e.Holds position

/-- A fill against a position has the other sign. -/
theorem opposed {net signed : ℚ} (hnet : net ≠ 0) (hsigned : signed ≠ 0)
    (h : ¬((0 < net ∧ 0 < signed) ∨ (net < 0 ∧ signed < 0))) : (0 < net ∧ signed < 0) ∨ (net < 0 ∧ 0 < signed) := by
  rw [not_or, not_and, not_and] at h
  rcases lt_or_gt_of_ne hnet with hneg | hpos
  · exact .inr ⟨hneg, lt_of_le_of_ne (not_lt.mp (h.2 hneg)) (Ne.symm hsigned)⟩
  · exact .inl ⟨hpos, lt_of_le_of_ne (not_lt.mp (h.1 hpos)) hsigned⟩

theorem holds_open (n : ℕ) (r : TradeRecord) {position : ℚ} (commission : ℚ) (h : position ≠ 0) :
    (openEpisode n r position commission).Holds position :=
  ⟨rfl, h, by simp [openEpisode], rfl⟩

/-- What a fill does to the open episode. -/
structure Moved (x : String) (l : SymbolLedger) (r : TradeRecord) (cur cur' : Option (TradeEpisode × ℚ))
    (done : Option TradeEpisode) : Prop where
  current : Current x (l.add r).position cur'
  closed : ∀ e ∈ done, e.symbol = x ∧ e.exitTime = some r.time ∧ e.entryQuantity = e.exitQuantity
  turnover : amount TradeEpisode.turnover (done.toList ++ opened cur') = amount TradeEpisode.turnover (opened cur) + r.quantity
  commission : amount TradeEpisode.commission (done.toList ++ opened cur') = amount TradeEpisode.commission (opened cur) + r.commission
  realizedPnl : amount TradeEpisode.realizedPnl (done.toList ++ opened cur') =
    amount TradeEpisode.realizedPnl (opened cur) + if l.position * r.signed < 0 then r.realizedPnl else 0
  doneEntry : ∀ e ∈ done, ∃ e' ∈ opened cur, e.entryTime = e'.entryTime
  entry : ∀ e ∈ opened cur', e.entryTime = r.time ∨ (done = none ∧ ∃ e' ∈ opened cur, e.entryTime = e'.entryTime)

theorem advanced {l : SymbolLedger} (hcur : Current x l.position cur) (hx : r.symbol = x) :
    Moved x l r cur (advanceEpisode f n r cur).1 (advanceEpisode f n r cur).2 := by
  have hsigned := signed_ne_zero r
  have habs := abs_signed r
  cases cur with
  | none =>
    have hposition : l.position = 0 := hcur
    have hnext : (l.add r).position = r.signed := by simp [SymbolLedger.add, hposition]
    constructor
    · rw [hnext]
      exact ⟨rfl, hx, holds_open n r _ hsigned⟩
    · exact fun e he => by cases he
    · simp [advanceEpisode, opened, amount, habs]
    · simp [advanceEpisode, opened, amount, openEpisode]
    · simp [advanceEpisode, opened, amount, openEpisode, hposition]
    · exact fun e he => by cases he
    · intro e he
      rw [List.mem_singleton.mp he]
      exact .inl rfl
  | some current =>
    obtain ⟨e, net⟩ := current
    obtain ⟨rfl, hsymbol, hopen, hnet, hquantity, hdirection⟩ := hcur
    simp only [advanceEpisode]
    by_cases hsame : (0 < l.position ∧ 0 < r.signed) ∨ (l.position < 0 ∧ r.signed < 0)
    · rw [if_pos hsame]
      have hproduct : ¬l.position * r.signed < 0 := by
        rcases hsame with ⟨hp, hs⟩ | ⟨hp, hs⟩
        · exact not_lt.mpr (mul_pos hp hs).le
        · exact not_lt.mpr (mul_pos_of_neg_of_neg hp hs).le
      have hsum : |l.position + r.signed| = |l.position| + |r.signed| ∧ l.position + r.signed ≠ 0 ∧
          (0 < l.position + r.signed ↔ 0 < l.position) := by
        rcases hsame with ⟨hp, hs⟩ | ⟨hp, hs⟩
        · have hpos := add_pos hp hs
          exact ⟨by rw [abs_of_pos hp, abs_of_pos hs, abs_of_pos hpos], hpos.ne', iff_of_true hpos hp⟩
        · have hneg := add_neg hp hs
          refine ⟨by rw [abs_of_neg hp, abs_of_neg hs, abs_of_neg hneg]; ring, hneg.ne, ?_⟩
          exact iff_of_false (not_lt.mpr hneg.le) (not_lt.mpr hp.le)
      constructor
      · refine ⟨rfl, hsymbol, hopen, hsum.2.1, ?_, ?_⟩
        · simp only [TradeEpisode.grow, SymbolLedger.add, hsum.1]
          linarith
        · simp only [TradeEpisode.grow, SymbolLedger.add, hsum.2.2, hdirection]
      · exact fun e he => by cases he
      · simp [opened, amount]
      · simp [opened, amount, TradeEpisode.grow]
      · simp [opened, amount, TradeEpisode.grow, hproduct]
      · exact fun e he => by cases he
      · intro e' he'
        rw [List.mem_singleton.mp he']
        exact .inr ⟨rfl, e, List.mem_singleton_self _, rfl⟩
    · rw [if_neg hsame]
      have hopposed := opposed hnet hsigned hsame
      have hproduct : l.position * r.signed < 0 := by
        rcases hopposed with ⟨hp, hs⟩ | ⟨hp, hs⟩
        · exact mul_neg_of_pos_of_neg hp hs
        · exact mul_neg_of_neg_of_pos hp hs
      by_cases hzero : l.position + r.signed = 0
      · rw [if_pos hzero]
        have hequal : |l.position| = r.quantity := by
          rw [← habs, ← abs_neg r.signed, eq_neg_of_add_eq_zero_left hzero]
        constructor
        · exact hzero
        · intro e' he'
          cases he'
          refine ⟨hsymbol, rfl, ?_⟩
          simp only [TradeEpisode.finish, TradeEpisode.reduce, habs, hequal, min_self]
          linarith
        · simp [opened, amount, hequal]
        · simp [opened, amount, TradeEpisode.finish, TradeEpisode.reduce]
        · simp [opened, amount, TradeEpisode.finish, TradeEpisode.reduce, hproduct]
        · intro e' he'
          cases he'
          exact ⟨e, List.mem_singleton_self _, rfl⟩
        · exact fun e' he' => by cases he'
      · rw [if_neg hzero]
        by_cases hpart : (0 < l.position ↔ 0 < l.position + r.signed)
        · rw [if_pos hpart]
          have hsum : |l.position + r.signed| = |l.position| - |r.signed| ∧ |r.signed| ≤ |l.position| := by
            rcases hopposed with ⟨hp, hs⟩ | ⟨hp, hs⟩
            · have hpos := hpart.mp hp
              rw [abs_of_pos hp, abs_of_neg hs, abs_of_pos hpos]
              constructor <;> linarith
            · have hneg := lt_of_le_of_ne (not_lt.mp fun h => absurd (hpart.mpr h) (not_lt.mpr hp.le)) hzero
              rw [abs_of_neg hp, abs_of_pos hs, abs_of_neg hneg]
              constructor <;> linarith
          constructor
          · refine ⟨rfl, hsymbol, hopen, hzero, ?_, ?_⟩
            · simp only [TradeEpisode.reduce, SymbolLedger.add, hsum.1, min_eq_right hsum.2]
              linarith
            · simp only [TradeEpisode.reduce, SymbolLedger.add, ← hpart, hdirection]
          · exact fun e he => by cases he
          · simp [opened, amount, min_eq_right (habs ▸ hsum.2)]
          · simp [opened, amount, TradeEpisode.reduce]
          · simp [opened, amount, TradeEpisode.reduce, hproduct]
          · exact fun e he => by cases he
          · intro e' he'
            rw [List.mem_singleton.mp he']
            exact .inr ⟨rfl, e, List.mem_singleton_self _, rfl⟩
        · rw [if_neg hpart]
          have hsum : |l.position + r.signed| = |r.signed| - |l.position| ∧ |l.position| ≤ |r.signed| := by
            rcases hopposed with ⟨hp, hs⟩ | ⟨hp, hs⟩
            · have hneg := lt_of_le_of_ne (not_lt.mp fun h => hpart (iff_of_true hp h)) hzero
              rw [abs_of_pos hp, abs_of_neg hs, abs_of_neg hneg]
              constructor <;> linarith
            · have hpos : 0 < l.position + r.signed := by
                by_contra hnot
                exact hpart (iff_of_false (not_lt.mpr hp.le) hnot)
              rw [abs_of_neg hp, abs_of_pos hs, abs_of_pos hpos]
              constructor <;> linarith
          constructor
          · exact ⟨rfl, hx, holds_open n r _ hzero⟩
          · intro e' he'
            cases he'
            refine ⟨hsymbol, rfl, ?_⟩
            simp only [TradeEpisode.finish, TradeEpisode.reduce, min_eq_left hsum.2]
            linarith
          · have hsplit : amount TradeEpisode.turnover (opened (some (e, l.position))) = e.turnover := by simp [opened, amount]
            rw [hsplit]
            simp only [opened, amount, Option.toList_some, Option.map_some, List.singleton_append, List.map_cons, List.map_nil,
              List.sum_cons, List.sum_nil, turnover_finish, turnover_reduce, turnover_openEpisode, hsum.1, habs,
              min_eq_left (habs ▸ hsum.2)]
            ring
          · simp [opened, amount, TradeEpisode.finish, TradeEpisode.reduce, openEpisode]
          · simp [opened, amount, TradeEpisode.finish, TradeEpisode.reduce, openEpisode, hproduct]
          · intro e' he'
            cases he'
            exact ⟨e, List.mem_singleton_self _, rfl⟩
          · intro e' he'
            rw [List.mem_singleton.mp he']
            exact .inl rfl

/-! ## The open episodes -/

theorem current_putOpen_self (b : List (String × TradeEpisode × ℚ)) (v : Option (TradeEpisode × ℚ)) :
    ((putOpen b x v).find? fun y => decide (y.1 = x)).map Prod.snd = v := by
  cases v with
  | none => simp [putOpen]
  | some v =>
    simp only [putOpen]
    split
    · rename_i hany
      induction b with
      | nil => simp at hany
      | cons y b ih =>
        by_cases hy : y.1 = x
        · simp [hy]
        · simp only [List.any_cons, hy, decide_false, Bool.false_or] at hany
          simpa [hy] using ih hany
    · rename_i hany
      have hnone : b.find? (fun y => decide (y.1 = x)) = none := by
        rw [List.find?_eq_none]
        intro y hy hyx
        exact hany (List.any_eq_true.mpr ⟨y, hy, hyx⟩)
      simp [List.find?_append, hnone]

theorem current_putOpen_other (b : List (String × TradeEpisode × ℚ)) (v : Option (TradeEpisode × ℚ)) {z : String} (hz : z ≠ x) :
    (putOpen b x v).find? (fun y => decide (y.1 = z)) = b.find? fun y => decide (y.1 = z) := by
  have hxz : ¬x = z := fun h => hz h.symm
  cases v with
  | none =>
    induction b with
    | nil => rfl
    | cons y b ih =>
      simp only [putOpen] at ih ⊢
      by_cases hy : y.1 = x
      · rw [List.filter_cons_of_neg (by simp [hy]), ih, List.find?_cons_of_neg (by simp [hy, hxz])]
      · rw [List.filter_cons_of_pos (by simp [hy])]
        by_cases hyz : y.1 = z
        · simp [hyz]
        · rw [List.find?_cons_of_neg (by simp [hyz]), List.find?_cons_of_neg (by simp [hyz]), ih]
  | some v =>
    simp only [putOpen]
    split
    · clear * - hxz
      induction b with
      | nil => rfl
      | cons y b ih =>
        by_cases hy : y.1 = x
        · rw [List.map_cons, if_pos hy, List.find?_cons_of_neg (by simp [hxz]), List.find?_cons_of_neg (by simp [hy, hxz]), ih]
        · rw [List.map_cons, if_neg hy]
          by_cases hyz : y.1 = z
          · simp [hyz]
          · rw [List.find?_cons_of_neg (by simp [hyz]), List.find?_cons_of_neg (by simp [hyz]), ih]
    · simp [List.find?_append, hxz]

theorem keys_putOpen {b : List (String × TradeEpisode × ℚ)} (h : (b.map Prod.fst).Nodup) (v : Option (TradeEpisode × ℚ)) :
    ((putOpen b x v).map Prod.fst).Nodup := by
  cases v with
  | none => exact h.sublist (List.Sublist.map _ List.filter_sublist)
  | some v =>
    simp only [putOpen]
    split
    · have hkeys : (b.map fun y => if y.1 = x then (x, v) else y).map Prod.fst = b.map Prod.fst := by
        rw [List.map_map]
        refine List.map_congr_left fun y _ => ?_
        by_cases hy : y.1 = x <;> simp [hy]
      rw [hkeys]
      exact h
    · rename_i hany
      rw [List.map_append, List.nodup_append]
      refine ⟨h, List.nodup_singleton _, fun y hy z hz heq => ?_⟩
      obtain ⟨w, hw, rfl⟩ := List.mem_map.mp hy
      rw [List.map_singleton, List.mem_singleton] at hz
      exact hany (List.any_eq_true.mpr ⟨w, hw, decide_eq_true (heq.trans hz)⟩)

/-! ## The loop -/

/-- The complete episodes of a symbol. -/
def doneOf (b : EpisodeBook) (x : String) : List TradeEpisode := b.complete.filter fun e => decide (e.symbol = x)

/-- What holds of a book after fills, all of them by an instant. -/
structure Tracks (records : List TradeRecord) (b : EpisodeBook) (x : String) : Prop where
  current : Current x (ledgerOf x records).position (b.current x)
  done : ∀ e ∈ doneOf b x, e.entryQuantity = e.exitQuantity ∧
    ∃ t, e.exitTime = some t ∧ e.entryTime ≤ t ∧ ∃ r ∈ records, r.time = t
  turnover : amount TradeEpisode.turnover (doneOf b x ++ opened (b.current x)) = (ledgerOf x records).turnover
  commission : amount TradeEpisode.commission (doneOf b x ++ opened (b.current x)) = (ledgerOf x records).commission
  realizedPnl : amount TradeEpisode.realizedPnl (doneOf b x ++ opened (b.current x)) =
    (ledgerOf x records).realizedPnl - (ledgerOf x records).unbooked
  begun : ∀ e ∈ opened (b.current x), ∃ r ∈ records, r.time = e.entryTime
  order : (doneOf b x ++ opened (b.current x)).Pairwise fun a b => ∀ t ∈ a.exitTime, t ≤ b.entryTime

theorem amount_append (m : TradeEpisode → ℚ) (a b : List TradeEpisode) : amount m (a ++ b) = amount m a + amount m b := by
  simp [amount]

theorem tracks_step {records : List TradeRecord} {b : EpisodeBook} (hall : ∀ x, Tracks records b x)
    (hlater : ∀ r' ∈ records, r'.time ≤ r.time) : Tracks (records ++ [r]) (b.step f r) x := by
  have hadvanced := advanced (f := f) (n := b.counter + 1) (hall r.symbol).current rfl
  have h := hall x
  by_cases hx : r.symbol = x
  · have hledger : ledgerOf x (records ++ [r]) = (ledgerOf x records).add r := by
      simp [ledgerOf, List.filter_append, hx]
    subst hx
    have hcurrent : (b.step f r).current r.symbol = (advanceEpisode f (b.counter + 1) r (b.current r.symbol)).1 :=
      current_putOpen_self _ _
    have hdone : doneOf (b.step f r) r.symbol =
        doneOf b r.symbol ++ (advanceEpisode f (b.counter + 1) r (b.current r.symbol)).2.toList := by
      have hall : ((advanceEpisode f (b.counter + 1) r (b.current r.symbol)).2.toList.filter
          fun e => decide (e.symbol = r.symbol)) = (advanceEpisode f (b.counter + 1) r (b.current r.symbol)).2.toList := by
        refine List.filter_eq_self.mpr fun e he => decide_eq_true ?_
        exact (hadvanced.closed e (Option.mem_toList.mp he)).1
      simp only [doneOf, EpisodeBook.step, List.filter_append, hall]
    have hsums : ∀ m, amount m (doneOf (b.step f r) r.symbol ++ opened ((b.step f r).current r.symbol)) =
        amount m (doneOf b r.symbol) + amount m ((advanceEpisode f (b.counter + 1) r (b.current r.symbol)).2.toList ++
          opened (advanceEpisode f (b.counter + 1) r (b.current r.symbol)).1) := by
      intro m
      rw [hdone, hcurrent, List.append_assoc, amount_append]
    have hentry : ∀ e ∈ opened (b.current r.symbol), e.entryTime ≤ r.time := by
      intro e he
      obtain ⟨r', hr', htime⟩ := h.begun e he
      exact htime ▸ hlater r' hr'
    constructor
    · rw [hcurrent, hledger]
      exact hadvanced.current
    · intro e he
      rw [hdone] at he
      rcases List.mem_append.mp he with he | he
      · obtain ⟨hquantity, t, hexit, hle, r', hr', htime⟩ := h.done e he
        exact ⟨hquantity, t, hexit, hle, r', List.mem_append_left _ hr', htime⟩
      · obtain ⟨-, hexit, hquantity⟩ := hadvanced.closed e (Option.mem_toList.mp he)
        obtain ⟨e', he', hsame⟩ := hadvanced.doneEntry e (Option.mem_toList.mp he)
        exact ⟨hquantity, r.time, hexit, hsame ▸ hentry e' he', r, List.mem_concat_self, rfl⟩
    · rw [hsums, hadvanced.turnover, hledger, ← add_assoc, ← amount_append, h.turnover]
      rfl
    · rw [hsums, hadvanced.commission, hledger, ← add_assoc, ← amount_append, h.commission]
      rfl
    · rw [hsums, hadvanced.realizedPnl, hledger, ← add_assoc, ← amount_append, h.realizedPnl]
      simp only [SymbolLedger.add]
      split <;> ring
    · intro e he
      rw [hcurrent] at he
      rcases hadvanced.entry e he with htime | ⟨-, e', he', htime⟩
      · exact ⟨r, List.mem_concat_self, htime.symm⟩
      · obtain ⟨r', hr', hbegun⟩ := h.begun e' he'
        exact ⟨r', List.mem_append_left _ hr', hbegun.trans htime.symm⟩
    · rw [hdone, hcurrent, List.append_assoc]
      obtain ⟨hbefore, -, hbetween⟩ := List.pairwise_append.mp h.order
      -- what is new begins where the open episode began, or at the fill
      have hnew : ∀ e ∈ (advanceEpisode f (b.counter + 1) r (b.current r.symbol)).2.toList ++
          opened (advanceEpisode f (b.counter + 1) r (b.current r.symbol)).1,
          e.entryTime = r.time ∨ ∃ e' ∈ opened (b.current r.symbol), e.entryTime = e'.entryTime := by
        intro e he
        rcases List.mem_append.mp he with he | he
        · exact .inr (hadvanced.doneEntry e (Option.mem_toList.mp he))
        · exact (hadvanced.entry e he).imp id And.right
      refine List.pairwise_append.mpr ⟨hbefore, List.pairwise_append.mpr ⟨?_, ?_, ?_⟩, fun a ha e he t ht => ?_⟩
      · cases (advanceEpisode f (b.counter + 1) r (b.current r.symbol)).2 <;> simp
      · unfold opened
        cases (advanceEpisode f (b.counter + 1) r (b.current r.symbol)).1 <;> simp
      · intro a ha e he t ht
        have ha := Option.mem_toList.mp ha
        obtain ⟨-, hexit, -⟩ := hadvanced.closed a ha
        rcases hadvanced.entry e he with htime | ⟨hnone, -⟩
        · rw [htime]
          exact (Option.some.inj (hexit.symm.trans ht)).ge
        · rw [hnone] at ha
          cases ha
      · rcases hnew e he with htime | ⟨e', he', htime⟩
        · obtain ⟨-, t', hexit, -, r', hr', hexitTime⟩ := h.done a ha
          rw [htime, ← Option.some.inj (hexit.symm.trans ht), ← hexitTime]
          exact hlater r' hr'
        · rw [htime]
          exact hbetween a ha e' he' t ht
  · have hledger : ledgerOf x (records ++ [r]) = ledgerOf x records := by
      simp [ledgerOf, List.filter_append, hx]
    have hcurrent : (b.step f r).current x = b.current x := congrArg _ (current_putOpen_other _ _ (Ne.symm hx))
    have hdone : doneOf (b.step f r) x = doneOf b x := by
      have hnone : ((advanceEpisode f (b.counter + 1) r (b.current r.symbol)).2.toList.filter
          fun e => decide (e.symbol = x)) = [] := by
        refine List.filter_eq_nil_iff.mpr fun e he heq => hx ?_
        rw [← (hadvanced.closed e (Option.mem_toList.mp he)).1]
        exact of_decide_eq_true heq
      simp only [doneOf, EpisodeBook.step, List.filter_append, hnone, List.append_nil]
    constructor
    · rw [hcurrent, hledger]
      exact h.current
    · intro e he
      rw [hdone] at he
      obtain ⟨hquantity, t, hexit, hle, r', hr', htime⟩ := h.done e he
      exact ⟨hquantity, t, hexit, hle, r', List.mem_append_left _ hr', htime⟩
    · rw [hdone, hcurrent, hledger]
      exact h.turnover
    · rw [hdone, hcurrent, hledger]
      exact h.commission
    · rw [hdone, hcurrent, hledger]
      exact h.realizedPnl
    · intro e he
      rw [hcurrent] at he
      obtain ⟨r', hr', htime⟩ := h.begun e he
      exact ⟨r', List.mem_append_left _ hr', htime⟩
    · rw [hdone, hcurrent]
      exact h.order

theorem tracks_empty (x : String) : Tracks [] {} x := by
  constructor
  · rfl
  · exact fun e he => by cases he
  · rfl
  · rfl
  · exact (sub_zero (0 : ℚ)).symm
  · exact fun e he => by cases he
  · exact List.Pairwise.nil

theorem tracks_run {records : List TradeRecord} (h : records.Pairwise fun a b => a.time ≤ b.time) (x : String) :
    Tracks records (EpisodeBook.run f records) x := by
  induction records using List.reverseRecOn generalizing x with
  | nil => exact tracks_empty x
  | append_singleton records r ih =>
    obtain ⟨hrecords, -, hlater⟩ := List.pairwise_append.mp h
    have hrun : EpisodeBook.run f (records ++ [r]) = (EpisodeBook.run f records).step f r := by simp [EpisodeBook.run]
    rw [hrun]
    exact tracks_step (fun y => ih hrecords y) fun r' hr' => hlater r' hr' r (List.mem_singleton_self r)

theorem keys_run (records : List TradeRecord) : ((EpisodeBook.run f records).openBySymbol.map Prod.fst).Nodup := by
  induction records using List.reverseRecOn with
  | nil => exact List.nodup_nil
  | append_singleton records r ih =>
    have hrun : EpisodeBook.run f (records ++ [r]) = (EpisodeBook.run f records).step f r := by simp [EpisodeBook.run]
    rw [hrun]
    exact keys_putOpen ih _

/-- The open episodes of a symbol. -/
theorem filter_open {l : List (String × TradeEpisode × ℚ)} (hkeys : (l.map Prod.fst).Nodup)
    (hsymbol : ∀ y ∈ l, y.2.1.symbol = y.1) : (l.map fun y => y.2.1).filter (fun e => decide (e.symbol = x)) =
      opened ((l.find? fun y => decide (y.1 = x)).map Prod.snd) := by
  induction l with
  | nil => rfl
  | cons y l ih =>
    rw [List.map_cons, List.nodup_cons] at hkeys
    have hrest := ih hkeys.2 fun z hz => hsymbol z (List.mem_cons_of_mem _ hz)
    have hy := hsymbol y List.mem_cons_self
    rw [List.map_cons]
    by_cases hx : y.1 = x
    · rw [List.filter_cons_of_pos (by simp [hy, hx]), List.find?_cons_of_pos (by simp [hx])]
      have hnil : (l.map fun y => y.2.1).filter (fun e => decide (e.symbol = x)) = [] := by
        refine List.filter_eq_nil_iff.mpr fun e he heq => hkeys.1 ?_
        obtain ⟨z, hz, rfl⟩ := List.mem_map.mp he
        rw [hx, ← of_decide_eq_true heq, hsymbol z (List.mem_cons_of_mem _ hz)]
        exact List.mem_map_of_mem hz
      rw [hnil]
      rfl
    · rw [List.filter_cons_of_neg (by simp [hy, hx]), List.find?_cons_of_neg (by simp [hx])]
      exact hrest

theorem filter_episodes {b : EpisodeBook} {records : List TradeRecord} (h : ∀ x, Tracks records b x)
    (hkeys : (b.openBySymbol.map Prod.fst).Nodup) (x : String) :
    b.episodes.filter (fun e => decide (e.symbol = x)) = doneOf b x ++ opened (b.current x) := by
  unfold EpisodeBook.episodes
  rw [List.filter_append]
  congr 1
  refine filter_open hkeys fun y hy => ?_
  have hcurrent : b.current y.1 = some y.2 := by
    have hfind := Table.get_of_mem hkeys hy
    unfold Table.get at hfind
    rw [EpisodeBook.current, hfind]
    rfl
  have htracks := (h y.1).current
  rw [hcurrent] at htracks
  exact htracks.2.1

theorem accounts_of_tracks {b : EpisodeBook} {records : List TradeRecord} (h : Tracks records b x) :
    Accounts (doneOf b x ++ opened (b.current x)) (ledgerOf x records) := by
  have hdone : ∀ e ∈ doneOf b x, e.exitTime ≠ none := by
    intro e he
    obtain ⟨-, t, hexit, -⟩ := h.done e he
    rw [hexit]
    simp
  have hcurrent := h.current
  refine ⟨h.turnover, h.commission, h.realizedPnl, fun e he hexit => ?_, fun hzero e he => ?_, fun hne => ?_⟩
  · rcases List.mem_append.mp he with he | he
    · exact (h.done e he).1
    · cases hopen : b.current x with
      | none =>
        rw [hopen] at he
        cases he
      | some current =>
        rw [hopen] at he hcurrent
        rw [List.mem_singleton.mp he] at hexit
        exact absurd hcurrent.2.2.1 hexit
  · rcases List.mem_append.mp he with he | he
    · exact hdone e he
    · cases hopen : b.current x with
      | none =>
        rw [hopen] at he
        cases he
      | some current =>
        rw [hopen] at hcurrent
        exact absurd hzero hcurrent.2.2.2.1
  · cases hopen : b.current x with
    | none =>
      rw [hopen] at hcurrent
      exact absurd hcurrent hne
    | some current =>
      rw [hopen] at hcurrent
      refine ⟨current.1, ?_, hcurrent.2.2⟩
      have hnil : (doneOf b x).filter (fun e => e.exitTime.isNone) = [] :=
        List.filter_eq_nil_iff.mpr fun e he hnone => hdone e he (Option.isNone_iff_eq_none.mp hnone)
      have hone : (opened (some current)).filter (fun e => e.exitTime.isNone) = [current.1] := by
        simp [opened, hcurrent.2.2.1]
      rw [List.filter_append, hnil, hone]
      rfl

/-- Funding and the order of the episodes leave what they account for. -/
theorem accounts_result {episodes result : List TradeEpisode} {l : SymbolLedger} {funding : List FundingRow} {now : ℤ}
    (h : Accounts episodes l) (hperm : result.Perm (episodes.map (TradeEpisode.addFunding funding now))) : Accounts result l := by
  have hamount : ∀ m : TradeEpisode → ℚ, (∀ e, m (e.addFunding funding now) = m e) → amount m result = amount m episodes := by
    intro m hm
    refine ((hperm.map m).sum_eq).trans ?_
    rw [List.map_map]
    exact congrArg _ (List.map_congr_left fun e _ => hm e)
  have hmem : ∀ e ∈ result, ∃ e' ∈ episodes, e = e'.addFunding funding now := by
    intro e he
    obtain ⟨e', he', rfl⟩ := List.mem_map.mp (hperm.mem_iff.mp he)
    exact ⟨e', he', rfl⟩
  refine ⟨(hamount _ fun _ => rfl).trans h.turnover, (hamount _ fun _ => rfl).trans h.commission,
    (hamount _ fun _ => rfl).trans h.realizedPnl, fun e he hexit => ?_, fun hzero e he => ?_, fun hne => ?_⟩
  · obtain ⟨e', he', rfl⟩ := hmem e he
    exact h.complete e' he' hexit
  · obtain ⟨e', he', rfl⟩ := hmem e he
    exact h.flat hzero e' he'
  · obtain ⟨e, hone, hholds⟩ := h.holding hne
    refine ⟨e.addFunding funding now, ?_, hholds⟩
    have hopen := hperm.filter fun e => e.exitTime.isNone
    have hmap : (episodes.map (TradeEpisode.addFunding funding now)).filter (fun e => e.exitTime.isNone) =
        (episodes.filter fun e => e.exitTime.isNone).map (TradeEpisode.addFunding funding now) := by
      rw [List.filter_map]
      rfl
    rw [hmap, hone] at hopen
    exact List.perm_singleton.mp hopen

theorem meets_of_tracks {b : EpisodeBook} {records : List TradeRecord} (now : ℤ) (h : Tracks records b x) :
    (doneOf b x ++ opened (b.current x)).Pairwise (TradeEpisode.Meets now) := by
  have hmeets : ∀ a ∈ doneOf b x, ∀ e : TradeEpisode, (∀ t ∈ a.exitTime, t ≤ e.entryTime) → a.Meets now e := by
    intro a ha e hle t hat het
    obtain ⟨-, exit, hexit, -⟩ := h.done a ha
    have hend := (of_decide_eq_true hat).2
    have hbegin := (of_decide_eq_true het).1
    have hchain := hle exit hexit
    rw [hexit, Option.getD_some] at hend
    exact .inl ⟨by rw [hexit]; congr 1; omega, by omega⟩
  obtain ⟨hdone, -, hbetween⟩ := List.pairwise_append.mp h.order
  refine List.pairwise_append.mpr ⟨?_, ?_, fun a ha e he => hmeets a ha e (hbetween a ha e he)⟩
  · exact hdone.imp_of_mem fun ha _ hle => hmeets _ ha _ hle
  · unfold opened
    cases b.current x <;> simp

theorem meets_symm {now : ℤ} {a b : TradeEpisode} (h : a.Meets now b) : b.Meets now a :=
  fun t hb ha => (h t ha hb).symm

theorem sorted_times (trades : List TradeRecord) :
    (sortOn TradeRecord.sortKey trades).Pairwise fun a b => a.time ≤ b.time := by
  refine (List.pairwise_insertionSort (byKey TradeRecord.sortKey) trades).imp fun h => ?_
  exact (Prod.Lex.monotone_fst _ _ h)

/-- The episodes of a symbol, as they come out. -/
theorem result_perm (now : ℤ) (funding : List FundingRow) (trades : List TradeRecord) (x : String) :
    ((buildTradeEpisodes f now funding trades).filter fun e => decide (e.symbol = x)).Perm
      ((doneOf (EpisodeBook.run f (sortOn TradeRecord.sortKey trades)) x ++
        opened ((EpisodeBook.run f (sortOn TradeRecord.sortKey trades)).current x)).map
          (TradeEpisode.addFunding (sortOn FundingRow.time funding) now)) := by
  rw [← filter_episodes (fun y => tracks_run (sorted_times trades) y) (keys_run _) x]
  refine ((sortOn_perm _ _).filter _).trans ?_
  rw [List.filter_map]
  exact List.Perm.refl _

end TradeEpisodesAux

open TradeEpisodesAux

/-- The episodes of a symbol account for its fills: what was traded and paid, the profit of the fills against the position, and
the position, which one open episode holds. -/
theorem episodes_account (exitReasonByOrder : String → Option String) (now : ℤ) (funding : List FundingRow)
    (trades : List TradeRecord) (x : String) :
    Accounts ((buildTradeEpisodes exitReasonByOrder now funding trades).filter fun e => decide (e.symbol = x))
      (ledgerOf x (sortOn TradeRecord.sortKey trades)) :=
  accounts_result (accounts_of_tracks (tracks_run (sorted_times trades) x)) (result_perm now funding trades x)

/-- Two episodes of a symbol share an instant only where one ends and the other begins, so a payment at another instant counts
once. The listing order of the trades does not matter. -/
theorem episodes_meet (exitReasonByOrder : String → Option String) (now : ℤ) (funding : List FundingRow)
    (trades : List TradeRecord) :
    (∀ x, ((buildTradeEpisodes exitReasonByOrder now funding trades).filter fun e => decide (e.symbol = x)).Pairwise
      (TradeEpisode.Meets now)) ∧
    ((trades.map TradeRecord.sortKey).Nodup → ∀ trades', trades.Perm trades' →
      buildTradeEpisodes exitReasonByOrder now funding trades' = buildTradeEpisodes exitReasonByOrder now funding trades) := by
  refine ⟨fun x => ?_, fun hkeys trades' hperm => ?_⟩
  · refine (List.Perm.pairwise_iff meets_symm (result_perm now funding trades x)).mpr ?_
    refine List.pairwise_map.mpr ((meets_of_tracks now (tracks_run (sorted_times trades) x)).imp fun hmeets => hmeets)
  · unfold buildTradeEpisodes
    rw [sortOn_eq_of_perm hkeys hperm]

namespace TradeEpisodesAux

theorem sampleAmount_pos : (0 : ℚ) < 1 := by norm_num

def sampleEpisodeTrade (tradeId : String) (side : TradeSide) (time : ℤ) : TradeRecord where
  tradeId := tradeId
  orderId := "order"
  symbol := "BTC/USDT"
  side := side
  quantity := 1
  price := 1
  commission := 0
  realizedPnl := 0
  time := time
  quantity_pos := sampleAmount_pos
  price_pos := sampleAmount_pos

end TradeEpisodesAux

/-- A purchase and its sale, listed in either order. -/
theorem episodes_meet_listed : buildTradeEpisodes (fun _ => none) 9 [] [sampleEpisodeTrade "1" .buy 1, sampleEpisodeTrade "2" .sell 2] =
    buildTradeEpisodes (fun _ => none) 9 [] [sampleEpisodeTrade "2" .sell 2, sampleEpisodeTrade "1" .buy 1] :=
  (episodes_meet (fun _ => none) 9 [] _).2 (by decide) _ (List.Perm.swap _ _ _)

end TradingPlatform
