import TradingPlatform.Engine.ExitAdapter
import TradingPlatform.Lemmas.CycleExit

/-!
# Closed only after confirmed flat

`execute_reduce_only_exit` closes the local position only when the exchange confirmed that nothing is left. The handler of
`ReduceOnlyAlreadyFlat` takes a snapshot it could not read for a flat one, and a read of the fills that raises anything but the
two exceptions of the adapter goes through.
-/

namespace TradingPlatform

/-! ## The statement -/

/-- The exchange confirmed that nothing is left of the position: a snapshot that was read does not show it, or the fills that
were read leave less than a step. -/
def ExitRead.ConfirmsFlat (decision : ExitDecision) (authoritativeQuantity stepSize : ℚ) : ExitRead → Prop
  | .snapshot (.ok s) => s.shows decision.symbol decision.direction = false
  | .fills (.ok trades) => authoritativeQuantity - (trades.map (·.filledQuantity)).sum < stepSize
  | _ => False

/-- The read raised the exception. -/
def ExitRead.Raised (e : PyError) : ExitRead → Prop
  | .snapshot outcome => outcome = .error e
  | .fills outcome => outcome = .error e

/-- What a reply owes: a position is closed only after a confirmation, and no exception of a read escapes. -/
structure ConfirmedFlat (decision : ExitDecision) (authoritativeQuantity stepSize : ℚ) (reply : ExitReply) : Prop where
  closed : ∀ r, reply.1 = .ok r → r.positionState = .closed →
    decision.verdict = .alreadyFlat ∨ ∃ read ∈ reply.2, read.ConfirmsFlat decision authoritativeQuantity stepSize
  contained : ∀ e, reply.1 = .error e → ∀ read ∈ reply.2, ¬read.Raised e

/-- The exceptions a submission declares. -/
def PyError.declaredBySubmit : PyError → Prop
  | .reduceOnlyAlreadyFlat _ | .exitTimeout _ | .adapterUnavailable _ => True
  | _ => False

/-- The exceptions of a read of the fills that are caught. -/
def PyError.caughtByFills : PyError → Prop
  | .exitTimeout _ | .adapterUnavailable _ => True
  | _ => False

/-- What the submission of a decision answers. -/
def ExitAdapter.submitted (a : ExitAdapter) (decision : ExitDecision) : Except PyError ExchangeOrderReceipt :=
  a.submitReduceOnlyExit decision.command decision.symbol decision.exchangeSide

/-- Both reads are harmless where they are made: the snapshot can be read after "already flat", and the fills of an
acknowledged order are returned or raise what is caught. -/
def ExitAdapter.ReadsKept (a : ExitAdapter) (decision : ExitDecision) : Prop :=
  decision.verdict = .approved →
    (∀ m, a.submitted decision = .error (.reduceOnlyAlreadyFlat m) → ∃ s, a.fetchAuthoritativeSnapshot = .ok s) ∧
    ∀ receipt e, a.submitted decision = .ok receipt → a.fetchFills decision.symbol receipt.exchangeOrderId = .error e →
      e.caughtByFills

namespace ConfirmedFlatAux

variable {a : ExitAdapter} {d : ExitDecision} {q stepSize : ℚ} {ids : List String}

/-- A reply that leaves the position open owes nothing. -/
theorem confirmedFlat_of_open {r : ExitExecutionResult} {reads : List ExitRead} (h : r.positionState ≠ .closed) :
    ConfirmedFlat d q stepSize (.ok r, reads) := by
  constructor
  · intro r' hr hclosed
    cases hr
    exact absurd hclosed h
  · intro e he
    nomatch he

/-- Fills that close the position leave less than a step. -/
theorem settleFills_closed {receipt : ExchangeOrderReceipt} {fills : List ExchangeFillReceipt} {r : ExitExecutionResult}
    (h : settleFills d receipt fills q stepSize ids = .ok r) (hclosed : r.positionState = .closed) :
    q - (fills.map (·.filledQuantity)).sum < stepSize := by
  unfold settleFills at h
  dsimp only at h
  split at h
  · cases h
    nomatch hclosed
  · split at h
    · nomatch h
    · rename_i remaining hround
      split at h
      · rename_i hnone
        have hstep : 0 < stepSize := by
          by_contra hstep
          unfold roundQuantityToStep at hround
          rw [if_pos (not_lt.mp hstep)] at hround
          nomatch hround
        rw [roundQuantityToStep_of_nonneg (le_max_left _ _) hstep] at hround
        cases hround
        have hleft : max 0 (q - (aggregateFills fills).quantity) < stepSize := by
          by_contra hleft
          exact absurd ((floorToStep_pos hstep).mpr (not_lt.mp hleft)) (not_lt.mpr hnone)
        exact (le_max_right _ _).trans_lt hleft
      · cases h
        nomatch hclosed

/-- After "already flat" the reply is confirmed exactly if the snapshot can be read. -/
theorem reconcileAlreadyFlat_confirmed_iff (hverdict : d.verdict = .approved) :
    ConfirmedFlat d q stepSize (a.reconcileAlreadyFlat d ids) ↔ ∃ s, a.fetchAuthoritativeSnapshot = .ok s := by
  unfold ExitAdapter.reconcileAlreadyFlat
  cases hread : a.fetchAuthoritativeSnapshot with
  | error e =>
    refine ⟨fun h => ?_, fun ⟨_, h⟩ => (nomatch h)⟩
    rcases h.closed _ rfl rfl with hflat | ⟨read, hmem, hconfirms⟩
    · rw [hverdict] at hflat
      nomatch hflat
    · obtain rfl := List.mem_singleton.mp hmem
      exact absurd hconfirms id
  | ok s =>
    refine ⟨fun _ => ⟨s, rfl⟩, fun _ => ⟨fun r hr hclosed => .inr ⟨_, List.mem_singleton_self _, ?_⟩, fun e he => (nomatch he)⟩⟩
    change s.shows d.symbol d.direction = false
    cases hr
    cases hshows : s.shows d.symbol d.direction with
    | false => rfl
    | true =>
      simp [hshows, ExitDecision.ended] at hclosed

/-- After an acknowledged order the reply is confirmed exactly if the read of the fills returns or raises what is caught. -/
theorem settleExit_confirmed_iff {receipt : ExchangeOrderReceipt} :
    ConfirmedFlat d q stepSize (a.settleExit d receipt q stepSize ids) ↔
      ∀ e, a.fetchFills d.symbol receipt.exchangeOrderId = .error e → e.caughtByFills := by
  unfold ExitAdapter.settleExit
  cases hread : a.fetchFills d.symbol receipt.exchangeOrderId with
  | ok fills =>
    refine ⟨fun _ e he => (nomatch he), fun _ => ⟨fun r hr hclosed => .inr ⟨_, List.mem_singleton_self _, ?_⟩, ?_⟩⟩
    · exact settleFills_closed hr hclosed
    · intro e _ read hmem hraised
      obtain rfl := List.mem_singleton.mp hmem
      nomatch hraised
  | error e =>
    constructor
    · intro h e' he'
      obtain rfl := Except.error.inj he'
      cases e with
      | adapterUnavailable m => trivial
      | exitTimeout m => trivial
      | _ => exact absurd rfl (h.contained _ rfl _ (List.mem_singleton_self _))
    · intro hcaught
      have hkind := hcaught e rfl
      cases e with
      | adapterUnavailable m => exact confirmedFlat_of_open nofun
      | exitTimeout m => exact confirmedFlat_of_open nofun
      | _ => exact absurd hkind id

end ConfirmedFlatAux

open ConfirmedFlatAux

/-- A reduce-only exit closes the position only after a confirmation and lets no exception of a read escape, exactly if the
snapshot can be read after "already flat" and the fills of its order raise nothing but what is caught. -/
theorem confirmedFlat_iff (a : ExitAdapter) (decision : ExitDecision) (authoritativeQuantity stepSize : ℚ)
    (openProtectionOrderIds : List String)
    (hsubmit : ∀ e, a.submitted decision = .error e → e.declaredBySubmit) :
    ConfirmedFlat decision authoritativeQuantity stepSize
        (a.executeReduceOnlyExit decision authoritativeQuantity stepSize openProtectionOrderIds) ↔ a.ReadsKept decision := by
  unfold ExitAdapter.executeReduceOnlyExit ExitAdapter.ReadsKept
  cases hverdict : decision.verdict with
  | blocked =>
    exact ⟨fun _ h => (by cases h), fun _ => confirmedFlat_of_open (fun h => by cases h)⟩
  | alreadyFlat =>
    exact ⟨fun _ h => (by cases h), fun _ => ⟨fun r hr hclosed => .inl hverdict, fun e he => (by cases he)⟩⟩
  | approved =>
    dsimp only
    have hcall : a.submitReduceOnlyExit decision.command decision.symbol decision.exchangeSide = a.submitted decision := rfl
    rw [hcall]
    cases hanswer : a.submitted decision with
    | ok receipt =>
      dsimp only
      rw [settleExit_confirmed_iff]
      refine ⟨fun h _ => ⟨fun m hm => (by cases hm), fun receipt' e hr he => ?_⟩, fun h e he => (h rfl).2 receipt e rfl he⟩
      cases hr
      exact h e he
    | error e =>
      have hdeclared := hsubmit e hanswer
      cases e with
      | reduceOnlyAlreadyFlat m =>
        dsimp only
        rw [reconcileAlreadyFlat_confirmed_iff hverdict]
        exact ⟨fun h _ => ⟨fun _ _ => h, fun _ _ hr => (by cases hr)⟩, fun h => (h rfl).1 m rfl⟩
      | exitTimeout m =>
        exact ⟨fun _ _ => ⟨fun _ hm => (by cases hm), fun _ _ hr => (by cases hr)⟩, fun _ => confirmedFlat_of_open (fun h => by cases h)⟩
      | adapterUnavailable m =>
        exact ⟨fun _ _ => ⟨fun _ hm => (by cases hm), fun _ _ hr => (by cases hr)⟩, fun _ => confirmedFlat_of_open (fun h => by cases h)⟩
      | _ => exact absurd hdeclared id

/-- An approved exit of one coin. -/
def approvedExit : ExitDecision where
  verdict := .approved
  positionId := "position-1"
  symbol := "BTC/USDT"
  direction := .long
  reason := .timeExit
  quantity := 1
  clientOrderId := "A2X-1"

/-- The exchange says "already flat", and the snapshot cannot be read. -/
def alreadyFlatUnread : ExitAdapter where
  submitReduceOnlyExit _ _ _ := .error (.reduceOnlyAlreadyFlat "reduce only rejected")
  fetchFills _ _ := .ok []
  fetchAuthoritativeSnapshot := .error (.adapterUnavailable "account unavailable")

/-- The receipt of its order. -/
def approvedExitReceipt : ExchangeOrderReceipt where
  exchangeOrderId := "77"
  clientOrderId := "A2X-1"
  symbol := "BTC/USDT"
  side := "sell"
  orderType := .market
  quantity := 1
  price := none
  status := "open"

/-- The order is acknowledged, and the fills raise an exception of the client. -/
def acknowledgedUnread : ExitAdapter where
  submitReduceOnlyExit _ _ _ := .ok approvedExitReceipt
  fetchFills _ _ := .error (.clientError "read timed out")
  fetchAuthoritativeSnapshot := .ok {}

/-- The first exit is closed unconfirmed; the second lets the exception of its read escape. -/
theorem confirmedFlat_false :
    ¬ConfirmedFlat approvedExit 1 (1 / 1000) (alreadyFlatUnread.executeReduceOnlyExit approvedExit 1 (1 / 1000)) ∧
    ¬ConfirmedFlat approvedExit 1 (1 / 1000) (acknowledgedUnread.executeReduceOnlyExit approvedExit 1 (1 / 1000)) := by
  constructor
  · intro h
    have hreply : ConfirmedFlat approvedExit 1 (1 / 1000) (alreadyFlatUnread.reconcileAlreadyFlat approvedExit []) := h
    have hunread := (reconcileAlreadyFlat_confirmed_iff rfl).mp hreply
    nomatch hunread
  · intro h
    have hread : ConfirmedFlat approvedExit 1 (1 / 1000)
        (acknowledgedUnread.settleExit approvedExit approvedExitReceipt 1 (1 / 1000) []) := h
    exact settleExit_confirmed_iff.mp hread (.clientError "read timed out") rfl

/-- The exchange says "already flat", and the snapshot confirms it. -/
theorem confirmedFlat_read :
    ConfirmedFlat approvedExit 1 (1 / 1000)
      (({ alreadyFlatUnread with fetchAuthoritativeSnapshot := .ok {} } : ExitAdapter).executeReduceOnlyExit approvedExit 1
        (1 / 1000)) := by
  refine (confirmedFlat_iff _ approvedExit 1 (1 / 1000) [] fun e he => ?_).mpr fun _ => ⟨fun _ _ => ⟨{}, rfl⟩, fun _ _ h => ?_⟩
  · cases he
    trivial
  · nomatch h

end TradingPlatform
