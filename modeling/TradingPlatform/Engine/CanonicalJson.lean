import TradingPlatform.Lib.IsoFormat
import TradingPlatform.Lib.JsonText

/-!
# The canonical text of a value

`strategy_library/canonical.py`: a value of nested Python data is normalized to a value of JSON, in which what JSON does not tell
apart is tagged, and dumped with its keys sorted. Models and dataclasses are dictionaries before they get here.
-/

namespace TradingPlatform.Canonical

open Calendar

/-! ## Values -/

/-- A value without parts. A Decimal is its text. -/
inductive Scalar where
  | none
  | bool (b : Bool)
  | int (n : ℤ)
  | str (s : String)
  | decimal (text : String)
  | datetime (t : OffsetTime)
  | date (d : CivilDate)

/-- What a mapping is keyed by: scalars and tuples of keys are the values of the data that have a hash. -/
inductive Key where
  | scalar (s : Scalar)
  | tuple (items : List Key)

inductive Value where
  | scalar (s : Scalar)
  | list (items : List Value)
  | tuple (items : List Value)
  | mapping (entries : List (Key × Value))

mutual

/-- No mapping has two entries of one key. -/
def Value.WellFormed : Value → Prop
  | .scalar _ => True
  | .list items => ItemsWellFormed items
  | .tuple items => ItemsWellFormed items
  | .mapping entries => (entries.map Prod.fst).Nodup ∧ EntriesWellFormed entries

def ItemsWellFormed : List Value → Prop
  | [] => True
  | v :: rest => v.WellFormed ∧ ItemsWellFormed rest

def EntriesWellFormed : List (Key × Value) → Prop
  | [] => True
  | (_, v) :: rest => v.WellFormed ∧ EntriesWellFormed rest

end

/-- A value as a program holds it. -/
structure Data where
  value : Value
  wellFormed : value.WellFormed

/-! ## The normal form -/

/-- The object a scalar that JSON lacks is written as. -/
def taggedText (tag text : String) : JsonTree := .obj [("__type__", .str tag), ("value", .str text)]

/-- The object the parts of a value are written in. -/
def taggedItems (tag : String) (items : List JsonTree) : JsonTree := .obj [("__type__", .str tag), ("items", .arr items)]

def Scalar.normalize : Scalar → JsonTree
  | .none => .null
  | .bool b => .bool b
  | .int n => .int n
  | .str s => .str s
  | .decimal text => taggedText "decimal" text
  | .datetime t => taggedText "datetime" t.isoformat
  | .date d => taggedText "date" d.isoformat

mutual

def Key.normalize : Key → JsonTree
  | .scalar s => s.normalize
  | .tuple items => taggedItems "tuple" (normalizeKeys items)

def normalizeKeys : List Key → List JsonTree
  | [] => []
  | k :: rest => k.normalize :: normalizeKeys rest

end

/-- `isinstance(key, str)`. -/
def Key.isText : Key → Bool
  | .scalar (.str _) => true
  | _ => false

def Key.text : Key → String
  | .scalar (.str s) => s
  | _ => ""

/-- A mapping whose values are normalized: an object if every key is a text, and else its items by the text of their key. -/
def normalizeMapping (entries : List (Key × JsonTree)) : JsonTree :=
  if entries.all fun e => e.1.isText then .obj (entries.map fun e => (e.1.text, e.2))
  else
    let items := entries.map fun e => (e.1.normalize, e.2)
    taggedItems "mapping" ((sortOn (fun item => item.1.dumps) items).map fun item => .arr [item.1, item.2])

mutual

/-- `_normalize`. -/
def Value.normalize : Value → JsonTree
  | .scalar s => s.normalize
  | .list items => taggedItems "list" (normalizeItems items)
  | .tuple items => taggedItems "tuple" (normalizeItems items)
  | .mapping entries => normalizeMapping (normalizeEntries entries)

def normalizeItems : List Value → List JsonTree
  | [] => []
  | v :: rest => v.normalize :: normalizeItems rest

def normalizeEntries : List (Key × Value) → List (Key × JsonTree)
  | [] => []
  | (k, v) :: rest => (k, v.normalize) :: normalizeEntries rest

end

/-- `canonical_json`. -/
def canonicalJson (v : Value) : String := v.normalize.dumps

/-- `canonical_hash`: a digest of the text. -/
def canonicalHash (digest : String → String) (v : Value) : String := digest (canonicalJson v)

example : canonicalJson (.mapping [(.scalar (.str "b"), .tuple [.scalar (.int 2)]), (.scalar (.str "a"), .scalar (.decimal "1.0"))]) =
    "\x7b\"a\":\x7b\"__type__\":\"decimal\",\"value\":\"1.0\"\x7d,\"b\":\x7b\"__type__\":\"tuple\",\"items\":[2]\x7d\x7d" := by
  decide +kernel

end TradingPlatform.Canonical
