import Mathlib.Data.List.Sort
import TradingPlatform.Lib.Digest

/-!
# Telegram collection

`agents/telegram_kol/ingestion`: the raw ledger, the collector that persists before it parses, and the service whose three entry
points hand it messages. The ledger in memory and the one in the database have the same keys and are append-only. The parser is
what it is called with. Instants are natural numbers.
-/

namespace TradingPlatform

/-! ## The ledger -/

/-- `RawMessageRecord`. -/
structure RawMessageRecord where
  sourceId : String
  chatId : String
  messageId : ℤ
  revision : ℕ
  receivedAt : ℕ
  postedAt : ℕ
  text : String
  mediaPath : Option String
  mediaHash : Option String
  replyToMessageId : Option ℤ
  deleted : Bool := false
  deriving DecidableEq, Repr

/-- The key of a record. -/
def RawMessageRecord.key (r : RawMessageRecord) : String × ℤ × ℕ := (r.chatId, r.messageId, r.revision)

/-- `list_message`: the records of a message by revision. -/
def listMessage (ledger : List RawMessageRecord) (chatId : String) (messageId : ℤ) : List RawMessageRecord :=
  (ledger.filter fun r => decide (r.chatId = chatId ∧ r.messageId = messageId)).insertionSort fun r r' => r.revision ≤ r'.revision

/-- `next_revision`. -/
def nextRevision (ledger : List RawMessageRecord) (chatId : String) (messageId : ℤ) : ℕ :=
  match (listMessage ledger chatId messageId).getLast? with
  | some r => r.revision + 1
  | none => 0

/-- `append`: a record whose key is there is not created again. -/
def appendRaw (ledger : List RawMessageRecord) (record : RawMessageRecord) : (RawMessageRecord × Bool) × List RawMessageRecord :=
  match ledger.find? fun r => decide (r.key = record.key) with
  | some existing => ((existing, false), ledger)
  | none => ((record, true), ledger ++ [record])

/-! ## The collector -/

/-- `MessageEnvelope`, as the collector fills it. -/
structure MessageEnvelope where
  sourceId : String
  chatId : String
  messageId : ℤ
  revision : ℕ
  postedAt : ℕ
  receivedAt : ℕ
  text : String
  caption : String
  mediaPath : Option String
  mediaHash : Option String
  replyToMessageId : Option ℤ
  deriving DecidableEq, Repr

/-- The key of the record that an envelope is of. -/
def MessageEnvelope.key (e : MessageEnvelope) : String × ℤ × ℕ := (e.chatId, e.messageId, e.revision)

/-- `"\n".join(part for part in parts if part)`. -/
def joinParts (parts : List String) : String := "\n".intercalate (parts.filter fun part => decide (part ≠ ""))

/-- The engine that reads a text off a media file, if one is configured. It may raise. -/
abbrev Ocr := Option (String → Except String String)

/-- `TelegramCollector`, with its ledger and the envelopes that its parser was called with. -/
structure TelegramCollector where
  ledger : List RawMessageRecord := []
  parsed : List MessageEnvelope := []
  lastReceivedAt : Option ℕ := none
  processedCount : ℕ := 0
  duplicateCount : ℕ := 0
  lastRawRecord : Option RawMessageRecord := none

/-- The arguments of `ingest`. -/
structure IngestedMessage where
  sourceId : String
  chatId : String
  messageId : ℤ
  postedAt : ℕ
  receivedAt : ℕ
  text : String := ""
  caption : String := ""
  mediaPath : Option String := none
  mediaHash : Option String := none
  replyToMessageId : Option ℤ := none
  revision : Option ℕ := none

/-- The text that is parsed: that of the media joins it where the engine is there and the file is. -/
def parsedText (ocr : Ocr) (text caption : String) (mediaPath : Option String) : String :=
  match ocr, mediaPath with
  | some extract, some path =>
    if path = "" then text
    else
      match extract path with
      | .ok ocrText => joinParts [text, caption, ocrText]
      | .error _ => joinParts [text, caption, ""]
  | _, _ => text

/-- The record of a message. -/
def IngestedMessage.record (m : IngestedMessage) (revision : ℕ) : RawMessageRecord where
  sourceId := m.sourceId
  chatId := m.chatId
  messageId := m.messageId
  revision := revision
  receivedAt := m.receivedAt
  postedAt := m.postedAt
  text := joinParts [m.text, m.caption]
  mediaPath := m.mediaPath
  mediaHash := m.mediaHash
  replyToMessageId := m.replyToMessageId

/-- What the parser is called with. -/
def IngestedMessage.envelope (m : IngestedMessage) (ocr : Ocr) (revision : ℕ) : MessageEnvelope where
  sourceId := m.sourceId
  chatId := m.chatId
  messageId := m.messageId
  revision := revision
  postedAt := m.postedAt
  receivedAt := m.receivedAt
  text := parsedText ocr m.text m.caption m.mediaPath
  caption := ""
  mediaPath := m.mediaPath
  mediaHash := m.mediaHash
  replyToMessageId := m.replyToMessageId

/-- `ingest`: the record first, and the parser if it was created. -/
def TelegramCollector.ingest (ocr : Ocr) (c : TelegramCollector) (m : IngestedMessage) : TelegramCollector :=
  let revision := m.revision.getD (nextRevision c.ledger m.chatId m.messageId)
  let ((record, created), ledger) := appendRaw c.ledger (m.record revision)
  let c := { c with ledger, lastReceivedAt := some m.receivedAt }
  if !created then { c with duplicateCount := c.duplicateCount + 1 }
  else
    { c with lastRawRecord := some record, processedCount := c.processedCount + 1,
             parsed := c.parsed ++ [m.envelope ocr revision] }

/-! ## The service -/

/-- A message of the client. An attribute that is missing is none; the media is what its download gives. -/
structure TelegramMessage where
  chatId : String
  messageId : ℤ
  date : Option ℕ := none
  message : Option String := none
  text : Option String := none
  caption : Option String := none
  media : Option (List ℕ) := none
  replyToMessageId : Option ℤ := none

/-- The first of some texts that is there and not empty. -/
def firstText (texts : List (Option String)) : String := ((texts.filterMap id).find? fun t => decide (t ≠ "")).getD ""

/-- `put`: the hash and the path of some content. -/
def putMedia (root : String) (content : List ℕ) : String × String :=
  let mediaHash := String.ofList ((Digest.Sha256.digest content).flatMap Digest.hexWord)
  (mediaHash, root ++ "/" ++ mediaHash ++ ".bin")

/-- What a service is configured with: the directory of its media store, if it has one, and the engine of its collector. -/
structure CollectorConfig where
  mediaRoot : Option String := none
  ocr : Ocr := none

/-- The stored media of a message: its hash and its path. Empty content is not stored. -/
def CollectorConfig.artifact (config : CollectorConfig) (m : TelegramMessage) : Option (String × String) :=
  match m.media, config.mediaRoot with
  | some content, some root => if content = [] then none else some (putMedia root content)
  | _, _ => none

/-- The text of a message. -/
def TelegramMessage.body (m : TelegramMessage) : String := firstText [m.message, m.text]

/-- The caption of a message. -/
def TelegramMessage.captionText (m : TelegramMessage) : String := m.caption.getD ""

/-- `_ingest_message` up to the call: the revision is left to the ledger, for an edit too. -/
def CollectorConfig.ingested (config : CollectorConfig) (m : TelegramMessage) (sourceId : String) (now : ℕ) : IngestedMessage where
  sourceId := sourceId
  chatId := m.chatId
  messageId := m.messageId
  postedAt := (m.date.filter fun d => decide (d ≠ 0)).getD now
  receivedAt := now
  text := m.body
  caption := m.captionText
  mediaPath := (config.artifact m).map (·.2)
  mediaHash := (config.artifact m).map (·.1)
  replyToMessageId := m.replyToMessageId

/-- `TelegramCollectorService`: the collector and the sources, by chat. -/
structure TelegramService where
  collector : TelegramCollector := {}
  sources : List (String × String) := []

/-- `_source_id`. -/
def TelegramService.sourceId (s : TelegramService) (chatId : String) : String :=
  match s.sources.find? fun source => decide (source.1 = chatId) with
  | some (_, sourceId) => if sourceId = "" then chatId else sourceId
  | none => chatId

/-- What reaches a service: its start over the same ledger, a new reading of its folder, a message of the history at the start,
a new message and an edited one. -/
inductive CollectorEvent where
  | start (sources : List (String × String))
  | sync (sources : List (String × String))
  | backfill (sourceId : String) (m : TelegramMessage) (now : ℕ)
  | newMessage (m : TelegramMessage) (now : ℕ)
  | editedMessage (m : TelegramMessage) (now : ℕ)

/-- The service after an event. -/
def TelegramService.step (config : CollectorConfig) (s : TelegramService) : CollectorEvent → TelegramService
  | .start sources => { collector := { ledger := s.collector.ledger, parsed := s.collector.parsed }, sources }
  | .sync sources => { s with sources }
  | .backfill sourceId m now => { s with collector := s.collector.ingest config.ocr (config.ingested m sourceId now) }
  | .newMessage m now => { s with collector := s.collector.ingest config.ocr (config.ingested m (s.sourceId m.chatId) now) }
  | .editedMessage m now => { s with collector := s.collector.ingest config.ocr (config.ingested m (s.sourceId m.chatId) now) }

/-- A service after events, from an empty ledger. -/
def runCollector (config : CollectorConfig) (events : List CollectorEvent) : TelegramService :=
  events.foldl (TelegramService.step config) {}

end TradingPlatform
