import TradingPlatform.Engine.KolThreads
import TradingPlatform.Lib.Loops

/-!
# Threads over a history of messages

What a call does to the threads is one of three things, and the four promises about a history follow from which of them it is. The
reply path looks at no symbol and no side, and an opening event at no thread.
-/

namespace TradingPlatform

/-- The thread has the symbol and the side of the event wherever both are given. -/
structure TradeThread.Agrees (thread : TradeThread) (event : KolTradeEvent) : Prop where
  symbol : ∀ symbol ∈ stated event.symbol, thread.symbol = symbol
  side : ∀ side ∈ stated event.side, ∀ own ∈ stated thread.side, own = side

/-- The events attached to the thread at a place. -/
def TradeThreadEngine.eventsOf (engine : TradeThreadEngine) (i : ℕ) : List KolTradeEvent :=
  (engine.threads[i]?.map TradeThread.events).getD []

/-- Two active threads of one source that one message opened are the same. -/
def TradeThreadEngine.OnePerMessage (engine : TradeThreadEngine) : Prop :=
  ∀ (i j : ℕ) (thread other : TradeThread), engine.threads[i]? = some thread → engine.threads[j]? = some other →
    thread.state.active = true → other.state.active = true → thread.sourceId = other.sourceId →
    thread.openedMessageId = other.openedMessageId → i = j

/-- What is promised of the threads over a sequence of pairs. -/
structure ThreadsSound (uuid4 : ℕ → String) (pairs : List (KolTradeEvent × MessageEnvelope)) : Prop where
  /-- A thread that has ended stays as it is. -/
  ended : ∀ before middle after, pairs = before ++ middle ++ after → ∀ (i : ℕ) (thread : TradeThread),
    (TradeThreadEngine.linkedAll uuid4 before).threads[i]? = some thread →
    thread.state = .closed ∨ thread.state = .cancelled →
    (TradeThreadEngine.linkedAll uuid4 (before ++ middle)).threads[i]? = some thread
  /-- A call adds to the events of one thread at most. -/
  single : ∀ before pair after, pairs = before ++ pair :: after → ∀ i j,
    (TradeThreadEngine.linkedAll uuid4 (before ++ [pair])).eventsOf i ≠ (TradeThreadEngine.linkedAll uuid4 before).eventsOf i →
    (TradeThreadEngine.linkedAll uuid4 (before ++ [pair])).eventsOf j ≠ (TradeThreadEngine.linkedAll uuid4 before).eventsOf j →
    i = j
  /-- A link leads to an active thread of the source that agrees with the event. -/
  linked : ∀ before event message after, pairs = before ++ (event, message) :: after →
    ((TradeThreadEngine.linkedAll uuid4 before).linkEvent uuid4 event message).1.reasonCode = "LINKED" →
    ∃ (i : ℕ) (thread : TradeThread),
      ((TradeThreadEngine.linkedAll uuid4 before).linkEvent uuid4 event message).1.thread = some i ∧
      (TradeThreadEngine.linkedAll uuid4 before).threads[i]? = some thread ∧ thread.sourceId = event.sourceId ∧
      thread.state.active = true ∧ thread.Agrees event
  /-- The revisions of a message have one active thread at most. -/
  unique : ∀ before after, pairs = before ++ after → (TradeThreadEngine.linkedAll uuid4 before).OnePerMessage

/-- An opening event with a symbol finds no active thread of its message, and any other event agrees with the active thread that
it replies to, where that is only one. -/
structure Unmistakable (engine : TradeThreadEngine) (pair : KolTradeEvent × MessageEnvelope) : Prop where
  opening : pair.1.eventType = .openEntry → (stated pair.1.symbol).isSome = true →
    ∀ ref ∈ engine.active pair.1.sourceId, ref.1.openedMessageId ≠ pair.2.messageId
  reply : pair.1.eventType ≠ .openEntry → ∀ reply ∈ pair.2.replyToMessageId, ∀ ref,
    engine.replied pair.1.sourceId reply = [ref] → ref.1.Agrees pair.1

namespace KolThreadsAux

open TradeThreadEngine

variable {uuid4 : ℕ → String} {engine : TradeThreadEngine} {event : KolTradeEvent} {message : MessageEnvelope}
  {pair : KolTradeEvent × MessageEnvelope} {ref : ThreadRef} {i : ℕ} {thread : TradeThread}

/-! ## What a call does -/

theorem mem_active {sourceId : String} :
    ref ∈ engine.active sourceId ↔
      engine.threads[ref.2]? = some ref.1 ∧ ref.1.sourceId = sourceId ∧ ref.1.state.active = true := by
  unfold TradeThreadEngine.active
  rw [List.mem_filter, List.mem_zipIdx_iff_getElem?]
  simp

theorem mem_of_mem_ofSymbol {refs : List ThreadRef} {symbol : Option String} (h : ref ∈ ofSymbol refs symbol) :
    ref ∈ refs ∧ ∀ s ∈ stated symbol, ref.1.symbol = s := by
  unfold ofSymbol at h
  split at h
  · rename_i s hs
    obtain ⟨hmem, hsymbol⟩ := List.mem_filter.mp h
    rw [hs]
    refine ⟨hmem, fun s' hs' => ?_⟩
    rw [← Option.some.inj hs']
    exact of_decide_eq_true hsymbol
  · rename_i hs
    rw [hs]
    exact ⟨h, fun _ hs' => nomatch hs'⟩

/-- The search attaches the event to a thread that agrees with it, or changes nothing. -/
theorem search_cases (engine : TradeThreadEngine) (event : KolTradeEvent) (message : MessageEnvelope) :
    (∃ ref ∈ engine.active event.sourceId, ref.1.Agrees event ∧ engine.search event message = engine.attach ref event message) ∨
      ((engine.search event message).1.reasonCode ≠ "LINKED" ∧ (engine.search event message).2 = engine) := by
  unfold search
  dsimp only
  split
  · rename_i hside
    split
    · rename_i ref hone
      obtain ⟨hmem, hsymbol⟩ := mem_of_mem_ofSymbol (hone ▸ List.mem_singleton_self ref)
      refine .inl ⟨ref, hmem, ⟨hsymbol, fun side hs => ?_⟩, rfl⟩
      rw [hside] at hs
      nomatch hs
    · exact .inr ⟨by simp, rfl⟩
    · exact .inr ⟨by simp, rfl⟩
  · rename_i side hside
    split
    · exact .inr ⟨by simp, rfl⟩
    · split
      · rename_i ref hone
        obtain ⟨hmem, hfits⟩ := List.mem_filter.mp (hone ▸ List.mem_singleton_self ref)
        obtain ⟨hmem, hsymbol⟩ := mem_of_mem_ofSymbol hmem
        refine .inl ⟨ref, hmem, ⟨hsymbol, fun side' hs own hown => ?_⟩, rfl⟩
        obtain rfl : side = side' := Option.some.inj (hside.symm.trans hs)
        have hgiven : ref.1.side = some own := (Option.filter_eq_some_iff.mp hown).1
        rcases of_decide_eq_true hfits with hnone | hsame
        · rw [hnone] at hgiven
          nomatch hgiven
        · exact Option.some.inj (hgiven.symm.trans hsame)
      · exact .inr ⟨by simp, rfl⟩
      · exact .inr ⟨by simp, rfl⟩

/-- An opening event with a symbol starts a thread. -/
theorem linkEvent_opening {symbol : String} (hopen : event.eventType = .openEntry) (hsymbol : stated event.symbol = some symbol) :
    engine.linkEvent uuid4 event message =
      ({ thread := some engine.threads.length, reasonCode := "CREATED" },
        { threads := engine.threads ++ [.opened (uuid4 engine.threads.length) symbol event message] }) := by
  unfold linkEvent apply
  rw [if_pos hopen, if_neg (not_not.mpr hopen), hsymbol]
  rfl

/-- An event that replies to one active thread is attached to it. -/
theorem linkEvent_replied (uuid4 : ℕ → String) {reply : ℤ} (hopen : event.eventType ≠ .openEntry)
    (hreply : message.replyToMessageId = some reply) (hone : engine.replied event.sourceId reply = [ref]) :
    engine.linkEvent uuid4 event message = engine.attach ref event message := by
  unfold linkEvent link
  rw [if_neg hopen, hreply]
  dsimp only
  rw [hone]

/-- A link attaches the event to the one active thread it replies to, or searches. -/
theorem link_cases (engine : TradeThreadEngine) (event : KolTradeEvent) (message : MessageEnvelope) :
    engine.link event message = engine.search event message ∨ ∃ ref reply, message.replyToMessageId = some reply ∧
      engine.replied event.sourceId reply = [ref] ∧ engine.link event message = engine.attach ref event message := by
  unfold link
  split
  · exact .inl rfl
  · rename_i reply hreply
    split
    · rename_i ref hone
      exact .inr ⟨ref, reply, hreply, hone, rfl⟩
    · exact .inl rfl

/-- A call starts a thread, changes nothing, or attaches the event to an active thread of its source. -/
theorem linkEvent_cases (uuid4 : ℕ → String) (engine : TradeThreadEngine) (event : KolTradeEvent) (message : MessageEnvelope) :
    (event.eventType = .openEntry ∧ ∃ symbol, stated event.symbol = some symbol) ∨
    ((engine.linkEvent uuid4 event message).1.reasonCode ≠ "LINKED" ∧ (engine.linkEvent uuid4 event message).2 = engine) ∨
    (event.eventType ≠ .openEntry ∧ ∃ ref ∈ engine.active event.sourceId,
      engine.linkEvent uuid4 event message = engine.attach ref event message ∧
      (ref.1.Agrees event ∨ ∃ reply ∈ message.replyToMessageId, engine.replied event.sourceId reply = [ref])) := by
  by_cases hopen : event.eventType = .openEntry
  · cases hsymbol : stated event.symbol with
    | some symbol => exact .inl ⟨hopen, symbol, rfl⟩
    | none =>
      refine .inr (.inl ?_)
      unfold linkEvent apply
      rw [if_pos hopen, if_neg (not_not.mpr hopen), hsymbol]
      exact ⟨by simp, rfl⟩
  · have hlink : engine.linkEvent uuid4 event message = engine.link event message := if_neg hopen
    rw [hlink]
    refine .inr ?_
    rcases link_cases engine event message with h | ⟨ref, reply, hreply, hone, h⟩
    · rw [h]
      rcases search_cases engine event message with ⟨ref, hmem, hagrees, heq⟩ | hidle
      · exact .inr ⟨hopen, ref, hmem, heq, .inl hagrees⟩
      · exact .inl hidle
    · have hmem : ref ∈ engine.replied event.sourceId reply := hone ▸ List.mem_singleton_self ref
      exact .inr ⟨hopen, ref, (List.mem_filter.mp hmem).1, h, .inr ⟨reply, hreply, hone⟩⟩

/-! ## What it keeps -/

/-- A call leaves every thread but one as it is, and that one had not ended. -/
theorem linked_frame (uuid4 : ℕ → String) (engine : TradeThreadEngine) (pair : KolTradeEvent × MessageEnvelope) :
    ∃ k : ℕ, (∀ thread : TradeThread, engine.threads[k]? = some thread → thread.state.active = true) ∧
      ∀ i : ℕ, i ≠ k → (engine.linked uuid4 pair).threads[i]? = engine.threads[i]? := by
  unfold linked
  rcases linkEvent_cases uuid4 engine pair.1 pair.2 with
    ⟨hopen, symbol, hsymbol⟩ | ⟨-, hidle⟩ | ⟨-, ref, hmem, heq, -⟩
  · rw [linkEvent_opening hopen hsymbol]
    refine ⟨engine.threads.length, fun thread h => ?_, fun i hi => ?_⟩
    · simp at h
    · rcases Nat.lt_or_gt_of_ne hi with hlt | hgt
      · exact List.getElem?_append_left hlt
      · rw [List.getElem?_eq_none (by simp; omega), List.getElem?_eq_none (by omega)]
  · rw [hidle]
    exact ⟨engine.threads.length, fun thread h => by simp at h, fun i _ => rfl⟩
  · rw [heq]
    obtain ⟨hat, -, hactive⟩ := mem_active.mp hmem
    refine ⟨ref.2, fun thread h => ?_, fun i hi => ?_⟩
    · rw [← Option.some.inj (hat.symm.trans h)]
      exact hactive
    · exact List.getElem?_modify_ne _ _ hi.symm

/-- A thread that is active after a call was active before, or the call has started it. -/
theorem active_linked (h : (engine.linked uuid4 pair).threads[i]? = some thread) (hactive : thread.state.active = true) :
    (∃ old : TradeThread, engine.threads[i]? = some old ∧ old.state.active = true ∧ old.sourceId = thread.sourceId ∧
      old.openedMessageId = thread.openedMessageId) ∨
    (i = engine.threads.length ∧ pair.1.eventType = .openEntry ∧ (stated pair.1.symbol).isSome = true ∧
      thread.sourceId = pair.1.sourceId ∧ thread.openedMessageId = pair.2.messageId) := by
  unfold linked at h
  rcases linkEvent_cases uuid4 engine pair.1 pair.2 with
    ⟨hopen, symbol, hsymbol⟩ | ⟨-, hidle⟩ | ⟨-, ref, hmem, heq, -⟩
  · rw [linkEvent_opening hopen hsymbol] at h
    rw [List.getElem?_append] at h
    split at h
    · exact .inl ⟨thread, h, hactive, rfl, rfl⟩
    · rename_i hlength
      rw [List.getElem?_singleton, Option.ite_none_right_eq_some] at h
      obtain ⟨hzero, hnew⟩ := h
      cases hnew
      exact .inr ⟨by omega, hopen, hsymbol ▸ rfl, rfl, rfl⟩
  · rw [hidle] at h
    exact .inl ⟨thread, h, hactive, rfl, rfl⟩
  · rw [heq] at h
    obtain ⟨hat, -, hwas⟩ := mem_active.mp hmem
    by_cases hi : ref.2 = i
    · subst hi
      unfold TradeThreadEngine.attach at h
      rw [List.getElem?_modify_eq, hat] at h
      cases h
      exact .inl ⟨ref.1, hat, hwas, rfl, rfl⟩
    · unfold TradeThreadEngine.attach at h
      rw [List.getElem?_modify_ne _ _ hi] at h
      exact .inl ⟨thread, h, hactive, rfl, rfl⟩

theorem onePerMessage_linked (uuid4 : ℕ → String) (h : engine.OnePerMessage) (hsafe : Unmistakable engine pair) :
    (engine.linked uuid4 pair).OnePerMessage := by
  -- the started thread is not that of a message that has one
  have hfresh : ∀ (j : ℕ) (old : TradeThread), engine.threads[j]? = some old → old.state.active = true →
      pair.1.eventType = .openEntry → (stated pair.1.symbol).isSome = true → old.sourceId = pair.1.sourceId →
      old.openedMessageId ≠ pair.2.messageId := by
    intro j old hold hactive hopen hsymbol hsource
    exact hsafe.opening hopen hsymbol (old, j) (mem_active.mpr ⟨hold, hsource, hactive⟩)
  intro i j thread other hi hj hthread hother hsource hmessage
  rcases active_linked hi hthread with ⟨old, hold, hactive, hs, hm⟩ | ⟨rfl, hopen, hsymbol, hs, hm⟩
  · rcases active_linked hj hother with ⟨old', hold', hactive', hs', hm'⟩ | ⟨rfl, hopen, hsymbol, hs', hm'⟩
    · exact h i j old old' hold hold' hactive hactive' (by rw [hs, hs', hsource]) (by rw [hm, hm', hmessage])
    · exact absurd (by rw [hm, hmessage, hm']) (hfresh i old hold hactive hopen hsymbol (by rw [hs, hsource, hs']))
  · rcases active_linked hj hother with ⟨old', hold', hactive', hs', hm'⟩ | ⟨rfl, -⟩
    · exact absurd (by rw [hm', ← hmessage, hm]) (hfresh j old' hold' hactive' hopen hsymbol (by rw [hs', ← hsource, hs]))
    · rfl

theorem linkedAll_append (before after : List (KolTradeEvent × MessageEnvelope)) :
    linkedAll uuid4 (before ++ after) = after.foldl (linked uuid4) (linkedAll uuid4 before) := List.foldl_append

/-- What has ended stays as it is, whatever comes after. -/
theorem ended_linkedAll {before : List (KolTradeEvent × MessageEnvelope)}
    (h : (linkedAll uuid4 before).threads[i]? = some thread) (hended : thread.state = .closed ∨ thread.state = .cancelled)
    (after : List (KolTradeEvent × MessageEnvelope)) : (linkedAll uuid4 (before ++ after)).threads[i]? = some thread := by
  rw [linkedAll_append]
  refine Loops.foldl_keeps (P := fun engine : TradeThreadEngine => engine.threads[i]? = some thread) (fun engine pair hi => ?_) after _ h
  obtain ⟨k, hk, hframe⟩ := linked_frame uuid4 engine pair
  by_cases hik : i = k
  · have hactive := hk thread (hik ▸ hi)
    rcases hended with hstate | hstate <;> simp [hstate, ThreadState.active] at hactive
  · rw [hframe i hik]
    exact hi

theorem eventsOf_linked {k : ℕ} (hframe : ∀ i : ℕ, i ≠ k → (engine.linked uuid4 pair).threads[i]? = engine.threads[i]?)
    (h : (engine.linked uuid4 pair).eventsOf i ≠ engine.eventsOf i) : i = k := by
  by_contra hik
  refine h ?_
  unfold eventsOf
  rw [hframe i hik]

end KolThreadsAux

open KolThreadsAux TradeThreadEngine

/-- The threads are sound over a sequence of pairs exactly if none of them can be mistaken where it comes. -/
theorem threadsSound_iff (uuid4 : ℕ → String) (pairs : List (KolTradeEvent × MessageEnvelope)) :
    ThreadsSound uuid4 pairs ↔ Loops.Meets (linked uuid4) Unmistakable {} pairs := by
  constructor
  · intro h
    refine Loops.meets_iff.mpr fun before pair after hpairs => ⟨fun hopen hsymbol ref hmem hmessage => ?_, ?_⟩
    · -- the thread of the message and the one that is started would be two
      obtain ⟨symbol, hsymbol⟩ := Option.isSome_iff_exists.mp hsymbol
      obtain ⟨hat, hsource, hactive⟩ := mem_active.mp hmem
      have hlt : ref.2 < (before.foldl (linked uuid4) {}).threads.length := (List.getElem?_eq_some_iff.mp hat).1
      have hunique := h.unique (before ++ [pair]) after (by rw [hpairs, List.append_assoc]; rfl)
      rw [linkedAll_append] at hunique
      have hnext : [pair].foldl (linked uuid4) (linkedAll uuid4 before) =
          { threads := (linkedAll uuid4 before).threads ++
            [.opened (uuid4 (linkedAll uuid4 before).threads.length) symbol pair.1 pair.2] } :=
        congrArg Prod.snd (linkEvent_opening hopen hsymbol)
      rw [hnext] at hunique
      have hsame := hunique ref.2 (linkedAll uuid4 before).threads.length ref.1 _
        ((List.getElem?_append_left hlt).trans hat) List.getElem?_concat_length hactive rfl hsource hmessage
      exact absurd hsame hlt.ne
    · intro hopen reply hreply ref hone
      have heq := linkEvent_replied uuid4 hopen hreply hone
      obtain ⟨i, thread, hi, hat, -, -, hagrees⟩ := h.linked before pair.1 pair.2 after hpairs (congrArg (·.1.reasonCode) heq ▸ rfl)
      obtain rfl : ref.2 = i := Option.some.inj ((congrArg (·.1.thread) heq).symm.trans hi)
      have hmem : ref ∈ (linkedAll uuid4 before).replied pair.1.sourceId reply := hone ▸ List.mem_singleton_self ref
      obtain ⟨href, -⟩ := mem_active.mp (List.mem_filter.mp hmem).1
      rw [Option.some.inj (href.symm.trans hat)]
      exact hagrees
  · intro h
    refine ⟨fun before middle after _ i thread hi hended => ended_linkedAll hi hended middle, fun before pair after _ i j hi hj => ?_,
      fun before event message after hpairs hlinked => ?_, fun before after hpairs => ?_⟩
    · rw [linkedAll_append] at hi hj
      obtain ⟨k, -, hframe⟩ := linked_frame uuid4 (linkedAll uuid4 before) pair
      exact (eventsOf_linked hframe hi).trans (eventsOf_linked hframe hj).symm
    · have hsafe := Loops.meets_iff.mp h before (event, message) after hpairs
      rcases linkEvent_cases uuid4 (linkedAll uuid4 before) event message with
        ⟨hopen, symbol, hsymbol⟩ | ⟨hidle, -⟩ | ⟨hopen, ref, hmem, heq, hgrounds⟩
      · rw [linkEvent_opening hopen hsymbol] at hlinked
        simp at hlinked
      · exact absurd hlinked hidle
      · rw [heq]
        obtain ⟨hat, hsource, hactive⟩ := mem_active.mp hmem
        refine ⟨ref.2, ref.1, rfl, hat, hsource, hactive, ?_⟩
        rcases hgrounds with hagrees | ⟨reply, hreply, hone⟩
        · exact hagrees
        · exact hsafe.reply hopen reply hreply ref hone
    · rw [hpairs] at h
      have hstep : ∀ (engine : TradeThreadEngine) (pair : KolTradeEvent × MessageEnvelope), engine.OnePerMessage →
          Unmistakable engine pair → (engine.linked uuid4 pair).OnePerMessage := fun _ _ => onePerMessage_linked uuid4
      refine Loops.run_keeps hstep ?_ (Loops.meets_append.mp h).1
      intro i j thread other hi
      simp at hi

namespace KolThreadsAux

/-- A long position in BTC, opened by the first message. -/
def openingBtc (revision : ℕ) : KolTradeEvent where
  eventType := .openEntry
  sourceId := "source"
  chatId := "chat"
  messageId := 1
  revision := revision
  symbol := some "BTC/USDT"
  side := some "LONG"

/-- The close of a position in ETH. -/
def closingEth : KolTradeEvent where
  eventType := .closeAll
  sourceId := "source"
  chatId := "chat"
  messageId := 2
  revision := 0
  symbol := some "ETH/USDT"

/-- The message of an event. -/
def messageOf (event : KolTradeEvent) (reply : Option ℤ) : MessageEnvelope where
  sourceId := event.sourceId
  chatId := event.chatId
  messageId := event.messageId
  revision := event.revision
  postedAt := 0
  receivedAt := 0
  text := ""
  caption := ""
  mediaPath := none
  mediaHash := none
  replyToMessageId := reply

end KolThreadsAux

/-- The close of a position in ETH, sent as a reply to the opening of one in BTC, closes that one; and the edit of an opening
message leaves two active threads. -/
theorem linkedAll_mistaken :
    (((linkedAll toString [(openingBtc 0, messageOf (openingBtc 0) none)]).linkEvent toString closingEth
          (messageOf closingEth (some 1))).1 = { thread := some 0, reasonCode := "LINKED" } ∧
        ¬ThreadsSound toString [(openingBtc 0, messageOf (openingBtc 0) none), (closingEth, messageOf closingEth (some 1))]) ∧
      ((linkedAll toString [(openingBtc 0, messageOf (openingBtc 0) none), (openingBtc 1, messageOf (openingBtc 1) none)]).threads.map
          (fun thread => (thread.symbol, thread.openedMessageId, thread.state)) =
          [("BTC/USDT", 1, .open), ("BTC/USDT", 1, .open)] ∧
        ¬ThreadsSound toString
          [(openingBtc 0, messageOf (openingBtc 0) none), (openingBtc 1, messageOf (openingBtc 1) none)]) := by
  have hreplied : ((linkedAll toString [(openingBtc 0, messageOf (openingBtc 0) none)]).linkEvent toString closingEth
      (messageOf closingEth (some 1))).1 = { thread := some 0, reasonCode := "LINKED" } := by decide
  refine ⟨⟨hreplied, fun h => ?_⟩, by decide, fun h => ?_⟩
  · obtain ⟨i, thread, hi, hat, -, -, hagrees⟩ :=
      h.linked [(openingBtc 0, messageOf (openingBtc 0) none)] _ _ [] rfl (congrArg (·.reasonCode) hreplied)
    rw [hreplied] at hi
    obtain rfl : 0 = i := Option.some.inj hi
    cases hat
    have hsymbol := hagrees.symbol "ETH/USDT" (by decide)
    revert hsymbol
    decide
  · have hsame := h.unique _ [] (List.append_nil _).symm 0 1 _ _ rfl rfl rfl rfl rfl rfl
    nomatch hsame

end TradingPlatform
