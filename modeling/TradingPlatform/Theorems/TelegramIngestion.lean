import TradingPlatform.Lib.Lists
import TradingPlatform.Engine.TelegramCollector

/-!
# Telegram ingestion and repeated messages

The revision of a delivery is the next one of its message, whichever entry point it came through, so its record is always created:
what the ledger holds is the deliveries, one by one. Repetitions of an unchanged message are in it too.
-/

namespace TradingPlatform

/-! ## The statement -/

/-- The content of a message. -/
structure MessageContent where
  chatId : String
  messageId : ℤ
  text : String
  mediaHash : Option String
  replyToMessageId : Option ℤ
  deriving DecidableEq, Repr

/-- The message that a content is of. -/
def MessageContent.key (content : MessageContent) : String × ℤ := (content.chatId, content.messageId)

/-- The content of a record. -/
def RawMessageRecord.content (r : RawMessageRecord) : MessageContent where
  chatId := r.chatId
  messageId := r.messageId
  text := r.text
  mediaHash := r.mediaHash
  replyToMessageId := r.replyToMessageId

/-- The content of a message, its caption after its text. -/
def CollectorConfig.content (config : CollectorConfig) (m : TelegramMessage) : MessageContent where
  chatId := m.chatId
  messageId := m.messageId
  text := joinParts [m.body, m.captionText]
  mediaHash := (config.artifact m).map (·.1)
  replyToMessageId := m.replyToMessageId

/-- The message that an event delivers. -/
def CollectorEvent.delivered : CollectorEvent → Option TelegramMessage
  | .start _ => none
  | .sync _ => none
  | .backfill _ m _ => some m
  | .newMessage m _ => some m
  | .editedMessage m _ => some m

/-- The messages that events deliver. -/
def delivered (events : List CollectorEvent) : List TelegramMessage := events.filterMap CollectorEvent.delivered

/-- The text read off a media file: none where there is no engine, no file or an error. -/
def ocrText (ocr : Ocr) (mediaPath : Option String) : String :=
  match ocr, mediaPath with
  | some extract, some path =>
    match extract path with
    | .ok read => read
    | .error _ => ""
  | _, _ => ""

/-- The ledger holds one record for each change of content of a message, the parser was called once for each record, and with the
recorded text where no text was read off the media. -/
structure IngestedOnce (config : CollectorConfig) (events : List CollectorEvent) : Prop where
  records : (runCollector config events).collector.ledger.map RawMessageRecord.content =
    Changes.changes MessageContent.key ((delivered events).map config.content)
  keys : ((runCollector config events).collector.ledger.map RawMessageRecord.key).Nodup
  parsed : (runCollector config events).collector.parsed.map MessageEnvelope.key =
    (runCollector config events).collector.ledger.map RawMessageRecord.key
  text : ∀ e ∈ (runCollector config events).collector.parsed, ∀ r ∈ (runCollector config events).collector.ledger,
    e.key = r.key → ocrText config.ocr e.mediaPath = "" → e.text = r.text

/-- Whether the caption of a message reaches the parser: only a text that was asked of the engine is joined with it. -/
def CollectorConfig.ReadsCaption (config : CollectorConfig) (m : TelegramMessage) : Prop :=
  m.captionText = "" ∨ config.ocr.isSome ∧ (config.artifact m).isSome

namespace IngestionAux

/-! ## The revisions of a ledger -/

theorem mem_listMessage {ledger : List RawMessageRecord} {chatId : String} {messageId : ℤ} {r : RawMessageRecord} :
    r ∈ listMessage ledger chatId messageId ↔ r ∈ ledger ∧ r.chatId = chatId ∧ r.messageId = messageId := by
  unfold listMessage
  rw [List.mem_insertionSort, List.mem_filter, decide_eq_true_eq]

/-- The next revision of a message is above those it has. -/
theorem lt_nextRevision {ledger : List RawMessageRecord} {chatId : String} {messageId : ℤ} {r : RawMessageRecord}
    (hr : r ∈ listMessage ledger chatId messageId) : r.revision < nextRevision ledger chatId messageId := by
  have : Std.Total fun r r' : RawMessageRecord => r.revision ≤ r'.revision := ⟨fun r r' => Nat.le_total r.revision r'.revision⟩
  have : IsTrans RawMessageRecord fun r r' => r.revision ≤ r'.revision := ⟨fun _ _ _ => Nat.le_trans⟩
  have hsorted : (listMessage ledger chatId messageId).Pairwise fun r r' => r.revision ≤ r'.revision :=
    List.pairwise_insertionSort _ _
  unfold nextRevision
  rcases List.eq_nil_or_concat (listMessage ledger chatId messageId) with hnil | ⟨before, last, hlast⟩
  · rw [hnil] at hr
    exact absurd hr List.not_mem_nil
  · rw [hlast, List.concat_eq_append] at hr hsorted ⊢
    rw [List.getLast?_append_of_ne_nil _ (List.cons_ne_nil _ _)]
    rcases List.mem_append.mp hr with hbefore | hself
    · have hle := (List.pairwise_append.mp hsorted).2.2 r hbefore last (List.mem_singleton_self _)
      exact Nat.lt_succ_of_le hle
    · rw [List.mem_singleton.mp hself]
      exact Nat.lt_succ_self _

/-- A record with the next revision of its message is created. -/
theorem appendRaw_fresh {ledger : List RawMessageRecord} {record : RawMessageRecord}
    (hrev : record.revision = nextRevision ledger record.chatId record.messageId) :
    appendRaw ledger record = ((record, true), ledger ++ [record]) ∧ record.key ∉ ledger.map RawMessageRecord.key := by
  have hnew : ∀ r ∈ ledger, r.key ≠ record.key := by
    intro r hr hkey
    obtain ⟨hchat, hmessage, hsame⟩ : r.chatId = record.chatId ∧ r.messageId = record.messageId ∧ r.revision = record.revision := by
      simpa [RawMessageRecord.key] using hkey
    have hlt := lt_nextRevision (mem_listMessage.mpr ⟨hr, hchat, hmessage⟩)
    omega
  refine ⟨?_, fun hmem => ?_⟩
  · unfold appendRaw
    rw [List.find?_eq_none.mpr fun r hr => by simpa using hnew r hr]
  · obtain ⟨r, hr, hkey⟩ := List.mem_map.mp hmem
    exact hnew r hr hkey

/-! ## The run -/

/-- A delivery as it was taken: its message, its source, its instant and its revision. -/
structure Taken where
  message : TelegramMessage
  sourceId : String
  now : ℕ
  revision : ℕ

/-- The record of a delivery. -/
def Taken.record (config : CollectorConfig) (t : Taken) : RawMessageRecord :=
  (config.ingested t.message t.sourceId t.now).record t.revision

/-- The envelope of a delivery. -/
def Taken.envelope (config : CollectorConfig) (t : Taken) : MessageEnvelope :=
  (config.ingested t.message t.sourceId t.now).envelope config.ocr t.revision

@[simp] theorem record_content (config : CollectorConfig) (t : Taken) : (t.record config).content = config.content t.message := rfl

@[simp] theorem envelope_key (config : CollectorConfig) (t : Taken) : (t.envelope config).key = (t.record config).key := rfl

/-- A collector has taken deliveries of some messages, in their order, each into a record of its own. -/
structure HasTaken (config : CollectorConfig) (messages : List TelegramMessage) (c : TelegramCollector) (taken : List Taken) :
    Prop where
  ledger : c.ledger = taken.map (Taken.record config)
  parsed : c.parsed = taken.map (Taken.envelope config)
  messages : taken.map Taken.message = messages
  keys : (c.ledger.map RawMessageRecord.key).Nodup

variable {config : CollectorConfig} {messages : List TelegramMessage} {c : TelegramCollector} {taken : List Taken}

omit messages taken in
/-- A call whose record is created adds it, and calls the parser. -/
theorem ingest_created (m : IngestedMessage) {record : RawMessageRecord} {ledger : List RawMessageRecord} (ocr : Ocr)
    (happend : appendRaw c.ledger (m.record (m.revision.getD (nextRevision c.ledger m.chatId m.messageId))) =
      ((record, true), ledger)) :
    (c.ingest ocr m).ledger = ledger ∧
      (c.ingest ocr m).parsed =
        c.parsed ++ [m.envelope ocr (m.revision.getD (nextRevision c.ledger m.chatId m.messageId))] := by
  simp [TelegramCollector.ingest, happend]

/-- The call of the collector takes its message. -/
theorem HasTaken.ingest (h : HasTaken config messages c taken) (m : TelegramMessage) (sourceId : String) (now : ℕ) :
    ∃ t, HasTaken config (messages ++ [m]) (c.ingest config.ocr (config.ingested m sourceId now)) (taken ++ [t]) := by
  let t : Taken := { message := m, sourceId, now, revision := nextRevision c.ledger m.chatId m.messageId }
  have hrev : (t.record config).revision = nextRevision c.ledger (t.record config).chatId (t.record config).messageId := rfl
  obtain ⟨happend, hnew⟩ := appendRaw_fresh hrev
  obtain ⟨hledger, hparsed⟩ := ingest_created (config.ingested m sourceId now) config.ocr happend
  refine ⟨t, ?_, ?_, ?_, ?_⟩
  · rw [hledger, h.ledger, List.map_append, List.map_singleton]
  · rw [hparsed, h.parsed, List.map_append, List.map_singleton]
    rfl
  · rw [List.map_append, h.messages, List.map_singleton]
  · rw [hledger, List.map_append, List.map_singleton]
    rw [← List.concat_eq_append]
    exact h.keys.concat hnew

/-- The collector of a service over the same ledger. -/
theorem HasTaken.of_eq {c' : TelegramCollector} (h : HasTaken config messages c taken) (hledger : c'.ledger = c.ledger)
    (hparsed : c'.parsed = c.parsed) : HasTaken config messages c' taken :=
  ⟨hledger.trans h.ledger, hparsed.trans h.parsed, h.messages, hledger ▸ h.keys⟩

/-- An event delivers its message to the collector. -/
theorem HasTaken.step {s : TelegramService} (h : HasTaken config messages s.collector taken) (event : CollectorEvent) :
    ∃ taken', HasTaken config (messages ++ event.delivered.toList) (s.step config event).collector taken' := by
  cases event with
  | start sources => exact ⟨taken, (List.append_nil messages).symm ▸ h.of_eq rfl rfl⟩
  | sync sources => exact ⟨taken, (List.append_nil messages).symm ▸ h⟩
  | backfill sourceId m now => exact (h.ingest m sourceId now).imp' _ fun _ ht => ht
  | newMessage m now => exact (h.ingest m (s.sourceId m.chatId) now).imp' _ fun _ ht => ht
  | editedMessage m now => exact (h.ingest m (s.sourceId m.chatId) now).imp' _ fun _ ht => ht

/-- A run takes what its events deliver. -/
theorem hasTaken_runCollector (config : CollectorConfig) (events : List CollectorEvent) :
    ∃ taken, HasTaken config (delivered events) (runCollector config events).collector taken := by
  induction events using List.reverseRecOn with
  | nil => exact ⟨[], rfl, rfl, rfl, List.nodup_nil⟩
  | append_singleton events event ih =>
    obtain ⟨taken, h⟩ := ih
    have hdelivered : delivered (events ++ [event]) = delivered events ++ event.delivered.toList := by
      unfold delivered
      rw [List.filterMap_append]
      cases hd : event.delivered with
      | none => simp [hd]
      | some m => simp [hd]
    have hrun : runCollector config (events ++ [event]) = (runCollector config events).step config event := by
      unfold runCollector
      rw [List.foldl_append]
      rfl
    rw [hdelivered, hrun]
    exact h.step event

/-! ## The text that is parsed -/

/-- A caption changes the text it joins. -/
theorem joinParts_eq_left_iff (text caption : String) : joinParts [text, caption] = text ↔ caption = "" := by
  constructor
  · intro h
    by_contra hcaption
    by_cases htext : text = ""
    · subst htext
      rw [joinParts, List.filter_cons_of_neg (by simp), List.filter_cons_of_pos (by simpa using hcaption), List.filter_nil,
        String.intercalate_singleton] at h
      exact hcaption h
    · rw [joinParts, List.filter_cons_of_pos (by simpa using htext), List.filter_cons_of_pos (by simpa using hcaption),
        List.filter_nil, String.intercalate_cons_cons, String.intercalate_singleton] at h
      have hlength := congrArg String.length h
      simp only [String.length_append] at hlength
      have hsep : "\n".length = 1 := rfl
      omega
  · rintro rfl
    by_cases htext : text = ""
    · rw [htext]
      rfl
    · rw [joinParts, List.filter_cons_of_pos (by simpa using htext), List.filter_cons_of_neg (by simp), List.filter_nil,
        String.intercalate_singleton]

/-- An empty part is not joined. -/
theorem joinParts_append_empty (parts : List String) : joinParts (parts ++ [""]) = joinParts parts := by
  unfold joinParts
  rw [List.filter_append, List.filter_cons_of_neg (by simp), List.filter_nil, List.append_nil]

/-- The path of a stored media is not empty. -/
theorem putMedia_path_ne (root : String) (content : List ℕ) : (putMedia root content).2 ≠ "" := by
  intro h
  have hlength := congrArg String.length h
  simp only [putMedia, String.length_append] at hlength
  have hsuffix : ".bin".length = 4 := rfl
  have hempty : "".length = 0 := rfl
  omega

theorem artifact_path_ne {m : TelegramMessage} {artifact : String × String} (h : config.artifact m = some artifact) :
    artifact.2 ≠ "" := by
  unfold CollectorConfig.artifact at h
  split at h
  · split at h
    · exact absurd h (by simp)
    · rw [← Option.some.inj h]
      exact putMedia_path_ne _ _
  · exact absurd h (by simp)

/-- Where no text was read off the media, the parser gets the recorded text exactly if the caption reaches it. -/
theorem Taken.text_eq_iff (t : Taken) (hread : ocrText config.ocr (t.envelope config).mediaPath = "") :
    (t.envelope config).text = (t.record config).text ↔ config.ReadsCaption t.message := by
  change parsedText config.ocr t.message.body t.message.captionText ((config.artifact t.message).map (·.2)) =
    joinParts [t.message.body, t.message.captionText] ↔ _
  change ocrText config.ocr ((config.artifact t.message).map (·.2)) = "" at hread
  unfold CollectorConfig.ReadsCaption
  cases hocr : config.ocr with
  | none =>
    simp only [parsedText, Option.isSome_none, Bool.false_eq_true, false_and, or_false]
    rw [eq_comm, joinParts_eq_left_iff]
  | some extract =>
    cases hartifact : config.artifact t.message with
    | none =>
      simp only [parsedText, Option.map_none, Option.isSome_none, Bool.false_eq_true, and_false, or_false]
      rw [eq_comm, joinParts_eq_left_iff]
    | some artifact =>
      rw [hocr, hartifact] at hread
      simp only [ocrText, Option.map_some] at hread
      simp only [parsedText, Option.map_some, if_neg (artifact_path_ne hartifact), Option.isSome_some, and_self, or_true, iff_true]
      cases hextract : extract artifact.2 with
      | error e => exact joinParts_append_empty [t.message.body, t.message.captionText]
      | ok read =>
        rw [hextract] at hread
        have hread : read = "" := hread
        rw [hread]
        exact joinParts_append_empty [t.message.body, t.message.captionText]

/-- A caption that does not reach the parser is lost where no text was read off the media. -/
theorem ocrText_of_not_readsCaption {m : TelegramMessage} (h : ¬config.ReadsCaption m) :
    ocrText config.ocr ((config.artifact m).map (·.2)) = "" := by
  unfold CollectorConfig.ReadsCaption at h
  cases hocr : config.ocr with
  | none => rfl
  | some extract =>
    cases hartifact : config.artifact m with
    | none => rfl
    | some artifact => exact absurd (Or.inr ⟨by rw [hocr]; rfl, by rw [hartifact]; rfl⟩) h

end IngestionAux

open IngestionAux

/-! ## Ingestion -/

/-- Ingestion is idempotent exactly where nothing is delivered twice in a row, message by message, and every caption is joined
with what is read off a media file. -/
theorem runCollector_ingestedOnce_iff (config : CollectorConfig) (events : List CollectorEvent) :
    IngestedOnce config events ↔
      Changes.NoRepeat MessageContent.key ((delivered events).map config.content) ∧
        ∀ m ∈ delivered events, config.ReadsCaption m := by
  obtain ⟨taken, h⟩ := hasTaken_runCollector config events
  have hcontents : (runCollector config events).collector.ledger.map RawMessageRecord.content =
      (delivered events).map config.content := by
    rw [h.ledger, ← h.messages, List.map_map, List.map_map]
    exact List.map_congr_left fun t _ => record_content config t
  constructor
  · intro honce
    refine ⟨(Changes.changes_eq_self_iff _ _).mp (honce.records.symm.trans hcontents), fun m hm => ?_⟩
    rw [← h.messages] at hm
    obtain ⟨t, ht, rfl⟩ := List.mem_map.mp hm
    by_contra hcaption
    have hread : ocrText config.ocr (t.envelope config).mediaPath = "" := ocrText_of_not_readsCaption hcaption
    have he : t.envelope config ∈ (runCollector config events).collector.parsed := by
      rw [h.parsed]
      exact List.mem_map_of_mem ht
    have hr : t.record config ∈ (runCollector config events).collector.ledger := by
      rw [h.ledger]
      exact List.mem_map_of_mem ht
    exact hcaption ((t.text_eq_iff hread).mp (honce.text _ he _ hr (envelope_key config t) hread))
  · rintro ⟨hnoRepeat, hcaptions⟩
    refine ⟨?_, h.keys, ?_, ?_⟩
    · rw [hcontents, (Changes.changes_eq_self_iff _ _).mpr hnoRepeat]
    · rw [h.parsed, h.ledger, List.map_map, List.map_map]
      exact List.map_congr_left fun t _ => envelope_key config t
    · intro e he r hr hkey hread
      rw [h.parsed] at he
      obtain ⟨t, ht, rfl⟩ := List.mem_map.mp he
      have hself : t.record config ∈ (runCollector config events).collector.ledger := by
        rw [h.ledger]
        exact List.mem_map_of_mem ht
      -- the keys of the ledger differ, so the record is that of the delivery
      rw [← List.inj_on_of_nodup_map h.keys hself hr ((envelope_key config t).symm.trans hkey)]
      refine (t.text_eq_iff hread).mpr (hcaptions _ ?_)
      rw [← h.messages]
      exact List.mem_map_of_mem ht

/-- A signal with a chart under it. -/
def sampleSignal : TelegramMessage :=
  { chatId := "-1001", messageId := 7, date := some 100, message := some "BTC long 60000" }

/-- A history that a restart reads again is recorded and parsed again. -/
theorem runCollector_ingestedOnce_false :
    ¬∀ (config : CollectorConfig) (events : List CollectorEvent), IngestedOnce config events := by
  intro h
  have hrecords := (h {} [.start [("-1001", "kol")], .backfill "kol" sampleSignal 101, .start [("-1001", "kol")],
    .backfill "kol" sampleSignal 201]).records
  have hlength := congrArg List.length hrecords
  exact absurd hlength (by decide +kernel)

end TradingPlatform
