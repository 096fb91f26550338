import Mathlib.Data.String.Basic
import Mathlib.Tactic.IntervalCases
import TradingPlatform.Lib.Lists

/-!
# Texts of JSON

What an encoder writes for a tree without floating-point numbers, compactly, and a reader of such texts. A string is written
either with every character outside printable ASCII escaped or with only the control characters escaped; in both forms the
reader gives the tree back (`parse_render`), so two trees with one text are one tree (`render_injective`).
-/

namespace TradingPlatform

namespace JsonText

/-! ## Characters -/

/-- The number below sixteen that a digit of base sixteen stands for. -/
def hexValue (c : Char) : Option ℕ := (List.range 16).find? fun n => decide (n.digitChar = c)

theorem hexValue_digitChar {n : ℕ} (h : n < 16) : hexValue n.digitChar = some n := by
  interval_cases n <;> decide

/-- `\uXXXX`. -/
def escapeUnit (u : ℕ) : List Char :=
  ['\\', 'u', (u / 4096 % 16).digitChar, (u / 256 % 16).digitChar, (u / 16 % 16).digitChar, (u % 16).digitChar]

/-- The escapes with a letter of their own. -/
def shortEscapes : List (Char × Char) :=
  [('"', '"'), ('\\', '\\'), ('n', '\n'), ('r', '\r'), ('t', '\t'), ('b', '\x08'), ('f', '\x0c')]

/-- A character that is written as it is: with `ascii`, only printable ASCII is. -/
def Bare (ascii : Bool) (c : Char) : Prop := ' ' ≤ c ∧ (ascii = false ∨ c ≤ '~')

instance (ascii : Bool) (c : Char) : Decidable (Bare ascii c) := inferInstanceAs (Decidable (_ ∧ _))

/-- A character inside a string: the ones above the first plane are written as two units. -/
def escapeChar (ascii : Bool) (c : Char) : List Char :=
  match shortEscapes.find? fun e => decide (e.2 = c) with
  | some e => ['\\', e.1]
  | none =>
    if Bare ascii c then [c]
    else if c.toNat < 0x10000 then escapeUnit c.toNat
    else escapeUnit (0xD800 + (c.toNat - 0x10000) / 1024) ++ escapeUnit (0xDC00 + (c.toNat - 0x10000) % 1024)

/-- Printable ASCII. -/
def Printable (c : Char) : Prop := ' ' ≤ c ∧ c ≤ '~'

instance (c : Char) : Decidable (Printable c) := inferInstanceAs (Decidable (_ ∧ _))

/-- Four digits of base sixteen. -/
def readUnit : List Char → Option (ℕ × List Char)
  | a :: b :: c :: d :: rest => do
    let a ← hexValue a
    let b ← hexValue b
    let c ← hexValue c
    let d ← hexValue d
    some (4096 * a + 256 * b + 16 * c + d, rest)
  | _ => none

/-- What follows `\u`: a first unit of a pair needs the second. -/
def readUnits (text : List Char) : Option (Char × List Char) := do
  let (u, rest) ← readUnit text
  if 0xD800 ≤ u ∧ u < 0xDC00 then
    match rest with
    | '\\' :: 'u' :: rest =>
      let (v, rest) ← readUnit rest
      some (Char.ofNat (0x10000 + (u - 0xD800) * 1024 + (v - 0xDC00)), rest)
    | _ => none
  else some (Char.ofNat u, rest)

/-- One character of a string. -/
def readChar : List Char → Option (Char × List Char)
  | [] => none
  | c :: rest =>
    if c ≠ '\\' then some (c, rest)
    else
      match rest with
      | [] => none
      | e :: rest =>
        if e = 'u' then readUnits rest
        else (shortEscapes.find? fun s => decide (s.1 = e)).map fun s => (s.2, rest)

theorem readUnit_escapeUnit {u : ℕ} (h : u < 0x10000) (rest : List Char) :
    (readUnit ((escapeUnit u).drop 2 ++ rest)) = some (u, rest) := by
  have hdigits : 4096 * (u / 4096 % 16) + 256 * (u / 256 % 16) + 16 * (u / 16 % 16) + u % 16 = u := by omega
  simp only [escapeUnit, List.drop_succ_cons, List.drop_zero, List.cons_append, List.nil_append, readUnit,
    hexValue_digitChar (Nat.mod_lt _ (by decide : 0 < 16)), Option.bind_eq_bind, Option.bind_some, hdigits]

/-- A unit outside the pairs is read as its character. -/
theorem readUnits_single {u : ℕ} (h : u < 0xD800 ∨ 0xDFFF < u ∧ u < 0x10000) (rest : List Char) :
    readUnits ((escapeUnit u).drop 2 ++ rest) = some (Char.ofNat u, rest) := by
  have hpair : ¬(0xD800 ≤ u ∧ u < 0xDC00) := by omega
  simp only [readUnits, readUnit_escapeUnit (show u < 0x10000 by omega), Option.bind_eq_bind, Option.bind_some, if_neg hpair]

/-- Two units of a pair are read as the character above the first plane. -/
theorem readUnits_pair {v : ℕ} (h : v < 0x100000) (rest : List Char) :
    readUnits ((escapeUnit (0xD800 + v / 1024)).drop 2 ++ (escapeUnit (0xDC00 + v % 1024) ++ rest)) =
      some (Char.ofNat (0x10000 + v), rest) := by
  have hpair : 0xD800 ≤ 0xD800 + v / 1024 ∧ 0xD800 + v / 1024 < 0xDC00 := by omega
  have hsecond : escapeUnit (0xDC00 + v % 1024) ++ rest =
      '\\' :: 'u' :: ((escapeUnit (0xDC00 + v % 1024)).drop 2 ++ rest) := rfl
  have hvalue : 0x10000 + (0xD800 + v / 1024 - 0xD800) * 1024 + (0xDC00 + v % 1024 - 0xDC00) = 0x10000 + v := by omega
  simp only [readUnits, readUnit_escapeUnit (show 0xD800 + v / 1024 < 0x10000 by omega), Option.bind_eq_bind,
    Option.bind_some, if_pos hpair, hsecond, readUnit_escapeUnit (show 0xDC00 + v % 1024 < 0x10000 by omega), hvalue]

/-- The letters of the short escapes are different, so each gives its own character back. -/
theorem readChar_shortEscape {e : Char × Char} (he : e ∈ shortEscapes) (rest : List Char) :
    readChar ('\\' :: e.1 :: rest) = some (e.2, rest) := by
  simp only [shortEscapes, List.mem_cons, List.not_mem_nil, or_false] at he
  rcases he with rfl | rfl | rfl | rfl | rfl | rfl | rfl <;> rfl

/-- What is written for a character is read back, whatever follows. -/
theorem readChar_escapeChar (ascii : Bool) (c : Char) (rest : List Char) :
    readChar (escapeChar ascii c ++ rest) = some (c, rest) := by
  unfold escapeChar
  split
  · rename_i e he
    have hc : e.2 = c := by simpa using List.find?_some he
    rw [← hc]
    exact readChar_shortEscape (List.mem_of_find?_eq_some he) rest
  · rename_i hnone
    have hne : c ≠ '\\' := by
      rintro rfl
      exact absurd hnone (by decide)
    split_ifs with hbare hlow
    · simp [readChar, hne]
    · have hvalid : c.toNat < 0xD800 ∨ 0xDFFF < c.toNat ∧ c.toNat < 0x10000 := by
        have := c.valid
        rcases this with h | h
        · exact .inl h
        · exact .inr ⟨h.1, hlow⟩
      have hread := readUnits_single hvalid rest
      rw [Char.ofNat_toNat] at hread
      exact hread
    · have hvalid : c.toNat < 0x110000 := by
        have := c.valid
        rcases this with h | h
        · exact lt_trans h (by decide)
        · exact h.2
      have hread := readUnits_pair (show c.toNat - 0x10000 < 0x100000 by omega) rest
      rw [show 0x10000 + (c.toNat - 0x10000) = c.toNat by omega, Char.ofNat_toNat] at hread
      rw [List.append_assoc]
      exact hread

/-- No character is written with a quote at its start. -/
theorem escapeChar_cons (ascii : Bool) (c : Char) : ∃ d rest, escapeChar ascii c = d :: rest ∧ d ≠ '"' := by
  unfold escapeChar
  split
  · exact ⟨_, _, rfl, by decide⟩
  · rename_i hnone
    split_ifs
    · refine ⟨c, [], rfl, ?_⟩
      rintro rfl
      exact absurd hnone (by decide)
    · exact ⟨_, _, rfl, by decide⟩
    · exact ⟨_, _, rfl, by decide⟩

theorem printable_hexDigit (n : ℕ) : Printable (n % 16).digitChar := by
  have h : n % 16 < 16 := Nat.mod_lt n (by decide)
  generalize n % 16 = d at h
  interval_cases d <;> decide

theorem printable_escapeUnit {u : ℕ} {c : Char} (h : c ∈ escapeUnit u) : Printable c := by
  simp only [escapeUnit, List.mem_cons, List.not_mem_nil, or_false] at h
  rcases h with rfl | rfl | rfl | rfl | rfl | rfl
  · decide
  · decide
  all_goals exact printable_hexDigit _

/-- What is written for a character is printable, or is that character as it is. -/
theorem mem_escapeChar {ascii : Bool} {c d : Char} (h : d ∈ escapeChar ascii c) : Printable d ∨ Bare ascii c ∧ d = c := by
  unfold escapeChar at h
  split at h
  · rename_i e he
    left
    have hmem := List.mem_of_find?_eq_some he
    simp only [shortEscapes, List.mem_cons, List.not_mem_nil, or_false] at hmem
    simp only [List.mem_cons, List.not_mem_nil, or_false] at h
    rcases hmem with rfl | rfl | rfl | rfl | rfl | rfl | rfl <;> rcases h with rfl | rfl <;> decide
  · split_ifs at h with hbare hlow
    · exact .inr ⟨hbare, List.mem_singleton.mp h⟩
    · exact .inl (printable_escapeUnit h)
    · rcases List.mem_append.mp h with h | h
      · exact .inl (printable_escapeUnit h)
      · exact .inl (printable_escapeUnit h)

/-! ## Strings -/

/-- A string between its quotes. -/
def quote (ascii : Bool) (s : String) : List Char := '"' :: (s.toList.flatMap (escapeChar ascii) ++ ['"'])

theorem mem_quote {ascii : Bool} {s : String} {c : Char} (h : c ∈ quote ascii s) :
    Printable c ∨ Bare ascii c ∧ c ∈ s.toList := by
  rw [quote, List.mem_cons, List.mem_append, List.mem_flatMap, List.mem_singleton] at h
  rcases h with rfl | ⟨d, hd, hmem⟩ | rfl
  · exact .inl (by decide)
  · rcases mem_escapeChar hmem with h | ⟨hbare, rfl⟩
    · exact .inl h
    · exact .inr ⟨hbare, hd⟩
  · exact .inl (by decide)

/-- The characters up to the closing quote. -/
def readChars : ℕ → List Char → Option (List Char × List Char)
  | 0, _ => none
  | _ + 1, [] => none
  | n + 1, c :: text =>
    if c = '"' then some ([], text)
    else do
      let (d, rest) ← readChar (c :: text)
      let (cs, rest) ← readChars n rest
      some (d :: cs, rest)

theorem readChars_escaped (ascii : Bool) (cs rest : List Char) {n : ℕ} (hn : cs.length < n) :
    readChars n (cs.flatMap (escapeChar ascii) ++ '"' :: rest) = some (cs, rest) := by
  induction cs generalizing n with
  | nil =>
    obtain ⟨n, rfl⟩ := Nat.exists_eq_add_of_lt hn
    simp [readChars]
  | cons c cs ih =>
    obtain ⟨n, rfl⟩ : ∃ m, n = m + 1 := ⟨n - 1, by simp at hn; omega⟩
    obtain ⟨d, more, hd, hquote⟩ := escapeChar_cons ascii c
    have hread := readChar_escapeChar ascii c (cs.flatMap (escapeChar ascii) ++ '"' :: rest)
    rw [List.flatMap_cons, List.append_assoc]
    rw [hd, List.cons_append] at hread ⊢
    rw [readChars, if_neg hquote, hread]
    simp [ih (show cs.length < n by simpa using hn)]

/-- The string of what follows an opening quote. -/
def readString (text : List Char) : Option (String × List Char) :=
  (readChars text.length text).map fun r => (String.ofList r.1, r.2)

theorem length_le_escaped (ascii : Bool) (cs : List Char) : cs.length ≤ (cs.flatMap (escapeChar ascii)).length := by
  induction cs with
  | nil => simp
  | cons c cs ih =>
    obtain ⟨d, more, hd, -⟩ := escapeChar_cons ascii c
    rw [List.flatMap_cons, List.length_append, hd]
    simp only [List.length_cons]
    omega

theorem readString_escaped (ascii : Bool) (s : String) (rest : List Char) :
    readString (s.toList.flatMap (escapeChar ascii) ++ '"' :: rest) = some (s, rest) := by
  have hlength := length_le_escaped ascii s.toList
  have hread := readChars_escaped ascii s.toList rest
    (n := (s.toList.flatMap (escapeChar ascii) ++ '"' :: rest).length) (by simp only [List.length_append, List.length_cons]; omega)
  rw [readString, hread, Option.map_some, String.ofList_toList]

/-! ## Numbers -/

/-- An integer in decimal digits. -/
def renderInt (n : ℤ) : List Char := if n < 0 then '-' :: Nat.toDigits 10 n.natAbs else Nat.toDigits 10 n.natAbs

/-- What follows a number does not go on with a digit. -/
def Stops (text : List Char) : Prop := ∀ c ∈ text.head?, c.isDigit = false

theorem stops_cons {c : Char} {text : List Char} (h : c.isDigit = false) : Stops (c :: text) := by
  intro d hd
  obtain rfl : c = d := by simpa using hd
  exact h

theorem stops_nil : Stops [] := by
  intro d hd
  simp at hd

/-- The digits a text starts with, as a number. -/
def readNat (text : List Char) : Option (ℕ × List Char) :=
  match text.takeWhile Char.isDigit with
  | [] => none
  | ds => some (Nat.ofDigitChars 10 ds 0, text.dropWhile Char.isDigit)

/-- An integer. -/
def readInt : List Char → Option (ℤ × List Char)
  | [] => none
  | c :: text =>
    if c = '-' then (readNat text).map fun r => (-(r.1 : ℤ), r.2)
    else (readNat (c :: text)).map fun r => ((r.1 : ℤ), r.2)

theorem readNat_toDigits (n : ℕ) {rest : List Char} (h : Stops rest) :
    readNat (Nat.toDigits 10 n ++ rest) = some (n, rest) := by
  have hdigits : ∀ c ∈ Nat.toDigits 10 n, c.isDigit = true := fun c hc =>
    Nat.isDigit_of_mem_toDigits (by decide) (by decide) hc
  have htake : (Nat.toDigits 10 n ++ rest).takeWhile Char.isDigit = Nat.toDigits 10 n := by
    rw [List.takeWhile_append_of_pos hdigits]
    cases rest with
    | nil => simp
    | cons c rest => rw [List.takeWhile_cons, h c rfl]; simp
  have hdrop : (Nat.toDigits 10 n ++ rest).dropWhile Char.isDigit = rest := by
    rw [List.dropWhile_append_of_pos hdigits]
    cases rest with
    | nil => rfl
    | cons c rest => rw [List.dropWhile_cons, h c rfl]; simp
  unfold readNat
  rw [htake, hdrop]
  split
  · rename_i hnil
    exact absurd hnil Nat.toDigits_ne_nil
  · rw [Nat.ofDigitChars_toDigits (by decide) (by decide)]

/-- A number starts with a digit. -/
theorem toDigits_cons (n : ℕ) : ∃ d ds, Nat.toDigits 10 n = d :: ds ∧ d.isDigit = true := by
  obtain ⟨d, ds, hd⟩ := List.exists_cons_of_ne_nil (Nat.toDigits_ne_nil : Nat.toDigits 10 n ≠ [])
  exact ⟨d, ds, hd, Nat.isDigit_of_mem_toDigits (b := 10) (n := n) (by decide) (by decide) (by rw [hd]; exact List.mem_cons_self)⟩

theorem printable_of_isDigit {c : Char} (h : c.isDigit = true) : Printable c := by
  rw [Char.isDigit_iff_toNat] at h
  exact ⟨Char.le_def.mpr (UInt32.le_iff_toNat_le.mpr (le_trans (by decide) h.1)),
    Char.le_def.mpr (UInt32.le_iff_toNat_le.mpr (le_trans h.2 (by decide)))⟩

theorem mem_renderInt {n : ℤ} {c : Char} (h : c ∈ renderInt n) : Printable c := by
  have hdigits : ∀ c ∈ Nat.toDigits 10 n.natAbs, Printable c := fun c hc =>
    printable_of_isDigit (Nat.isDigit_of_mem_toDigits (by decide) (by decide) hc)
  unfold renderInt at h
  split_ifs at h
  · rcases List.mem_cons.mp h with rfl | h
    · decide
    · exact hdigits c h
  · exact hdigits c h

theorem readInt_renderInt (n : ℤ) {rest : List Char} (h : Stops rest) : readInt (renderInt n ++ rest) = some (n, rest) := by
  unfold renderInt
  split_ifs with hneg
  · rw [List.cons_append, readInt, if_pos rfl, readNat_toDigits _ h]
    simp only [Option.map_some, Option.some.injEq, Prod.mk.injEq, and_true]
    omega
  · obtain ⟨d, ds, hd, hdigit⟩ := toDigits_cons n.natAbs
    have hne : d ≠ '-' := by
      rintro rfl
      exact absurd hdigit (by decide)
    have hread := readNat_toDigits n.natAbs h
    rw [hd, List.cons_append] at hread ⊢
    rw [readInt, if_neg hne, hread]
    simp only [Option.map_some, Option.some.injEq, Prod.mk.injEq, and_true]
    omega

end JsonText

/-! ## Trees -/

/-- A value without floating-point numbers, as its text spells it. -/
inductive JsonTree where
  | null
  | bool (b : Bool)
  | int (n : ℤ)
  | str (s : String)
  | arr (items : List JsonTree)
  | obj (entries : List (String × JsonTree))

namespace JsonTree

open JsonText

mutual

/-- The compact text of a tree. -/
def render (ascii : Bool) : JsonTree → List Char
  | .null => ['n', 'u', 'l', 'l']
  | .bool true => ['t', 'r', 'u', 'e']
  | .bool false => ['f', 'a', 'l', 's', 'e']
  | .int n => renderInt n
  | .str s => quote ascii s
  | .arr items => '[' :: renderItems ascii true items
  | .obj entries => '{' :: renderEntries ascii true entries

/-- The items of an array and its end; each but the first after a comma. -/
def renderItems (ascii first : Bool) : List JsonTree → List Char
  | [] => [']']
  | v :: rest => (if first then [] else [',']) ++ (render ascii v ++ renderItems ascii false rest)

/-- The entries of an object and its end. -/
def renderEntries (ascii first : Bool) : List (String × JsonTree) → List Char
  | [] => ['}']
  | (k, v) :: rest =>
    (if first then [] else [',']) ++ (quote ascii k ++ ':' :: (render ascii v ++ renderEntries ascii false rest))

end

/-- A text after one it has to start with. -/
def expect (word text : List Char) : Option (List Char) :=
  if word.isPrefixOf text then some (text.drop word.length) else none

mutual

/-- The tree a text starts with, and what follows it. -/
def read : ℕ → List Char → Option (JsonTree × List Char)
  | 0, _ => none
  | _ + 1, [] => none
  | n + 1, c :: text =>
    if c = 'n' then (expect ['u', 'l', 'l'] text).map fun rest => (.null, rest)
    else if c = 't' then (expect ['r', 'u', 'e'] text).map fun rest => (.bool true, rest)
    else if c = 'f' then (expect ['a', 'l', 's', 'e'] text).map fun rest => (.bool false, rest)
    else if c = '"' then (readString text).map fun r => (.str r.1, r.2)
    else if c = '[' then (readItems n true text).map fun r => (.arr r.1, r.2)
    else if c = '{' then (readEntries n true text).map fun r => (.obj r.1, r.2)
    else (readInt (c :: text)).map fun r => (.int r.1, r.2)

def readItems : ℕ → Bool → List Char → Option (List JsonTree × List Char)
  | 0, _, _ => none
  | n + 1, first, text =>
    if text.head? = some ']' then some ([], text.tail)
    else do
      let text ← expect (if first then [] else [',']) text
      let (v, rest) ← read n text
      let (vs, rest) ← readItems n false rest
      some (v :: vs, rest)

def readEntries : ℕ → Bool → List Char → Option (List (String × JsonTree) × List Char)
  | 0, _, _ => none
  | n + 1, first, text =>
    if text.head? = some '}' then some ([], text.tail)
    else do
      let text ← expect (if first then ['"'] else [',', '"']) text
      let (k, rest) ← readString text
      let rest ← expect [':'] rest
      let (v, rest) ← read n rest
      let (vs, rest) ← readEntries n false rest
      some ((k, v) :: vs, rest)

end

/-- The tree a whole text spells. -/
def parse (text : List Char) : Option JsonTree :=
  match read text.length text with
  | some (t, []) => some t
  | _ => none

mutual

/-- The steps a reader needs for a tree. -/
def steps : JsonTree → ℕ
  | .arr items => itemSteps items + 1
  | .obj entries => entrySteps entries + 1
  | _ => 1

def itemSteps : List JsonTree → ℕ
  | [] => 1
  | v :: rest => max (steps v) (itemSteps rest) + 1

def entrySteps : List (String × JsonTree) → ℕ
  | [] => 1
  | (_, v) :: rest => max (steps v) (entrySteps rest) + 1

end

mutual

/-- The strings of a tree, its keys included. -/
def texts : JsonTree → List String
  | .str s => [s]
  | .arr items => itemTexts items
  | .obj entries => entryTexts entries
  | _ => []

def itemTexts : List JsonTree → List String
  | [] => []
  | v :: rest => texts v ++ itemTexts rest

def entryTexts : List (String × JsonTree) → List String
  | [] => []
  | (k, v) :: rest => k :: (texts v ++ entryTexts rest)

end

theorem expect_append (word rest : List Char) : expect word (word ++ rest) = some rest := by
  simp [expect]

/-- A tree's text does not start as the end of an array or an object does. -/
theorem render_cons (ascii : Bool) (t : JsonTree) : ∃ c rest, render ascii t = c :: rest ∧ c ≠ ']' := by
  cases t with
  | null => exact ⟨_, _, rfl, by decide⟩
  | bool b => cases b <;> exact ⟨_, _, rfl, by decide⟩
  | int n =>
    obtain ⟨d, ds, hd, hdigit⟩ := toDigits_cons n.natAbs
    rw [render, renderInt]
    split_ifs
    · exact ⟨_, _, rfl, by decide⟩
    · refine ⟨d, ds, hd, ?_⟩
      rintro rfl
      exact absurd hdigit (by decide)
  | str s => exact ⟨_, _, rfl, by decide⟩
  | arr items => exact ⟨_, _, rfl, by decide⟩
  | obj entries => exact ⟨_, _, rfl, by decide⟩

theorem length_render_pos (ascii : Bool) (t : JsonTree) : 0 < (render ascii t).length := by
  obtain ⟨c, rest, hc, -⟩ := render_cons ascii t
  simp [hc]

theorem stops_renderItems (ascii : Bool) (items : List JsonTree) (rest : List Char) :
    Stops (renderItems ascii false items ++ rest) := by
  cases items <;> exact stops_cons (by decide)

theorem stops_renderEntries (ascii : Bool) (entries : List (String × JsonTree)) (rest : List Char) :
    Stops (renderEntries ascii false entries ++ rest) := by
  cases entries <;> exact stops_cons (by decide)

/-- A number does not start as another tree does. -/
theorem read_renderInt (k : ℤ) (n : ℕ) {rest : List Char} (h : Stops rest) :
    read (n + 1) (renderInt k ++ rest) = some (.int k, rest) := by
  have hread := readInt_renderInt k h
  obtain ⟨c, more, hc, hne⟩ : ∃ c more, renderInt k = c :: more ∧ (c = '-' ∨ c.isDigit = true) := by
    obtain ⟨d, ds, hd, hdigit⟩ := toDigits_cons k.natAbs
    unfold renderInt
    split_ifs
    · exact ⟨_, _, rfl, .inl rfl⟩
    · exact ⟨d, ds, hd, .inr hdigit⟩
  have hother : ∀ d : Char, d ≠ '-' → d.isDigit = false → c ≠ d := by
    rintro d hminus hdigit rfl
    rcases hne with h | h
    · exact hminus h
    · rw [hdigit] at h
      cases h
  rw [hc, List.cons_append] at hread ⊢
  rw [read, if_neg (hother 'n' (by decide) (by decide)), if_neg (hother 't' (by decide) (by decide)),
    if_neg (hother 'f' (by decide) (by decide)), if_neg (hother '"' (by decide) (by decide)),
    if_neg (hother '[' (by decide) (by decide)), if_neg (hother '{' (by decide) (by decide)), hread, Option.map_some]

mutual

/-- A tree is read back from its text, whatever follows it. -/
theorem read_render (ascii : Bool) (t : JsonTree) (n : ℕ) (hn : steps t ≤ n) (rest : List Char) (hrest : Stops rest) :
    read n (render ascii t ++ rest) = some (t, rest) := by
  cases n with
  | zero => cases t <;> simp [steps] at hn
  | succ n =>
    cases t with
    | null => simp [render, read, expect]
    | bool b => cases b <;> simp [render, read, expect]
    | int k => exact read_renderInt k n hrest
    | str s =>
      have hread := readString_escaped ascii s rest
      simp [render, read, quote, hread]
    | arr items =>
      have hread := readItems_renderItems ascii items true n (by simpa [steps] using hn) rest
      simp [render, read, hread]
    | obj entries =>
      have hread := readEntries_renderEntries ascii entries true n (by simpa [steps] using hn) rest
      simp [render, read, hread]

theorem readItems_renderItems (ascii : Bool) (items : List JsonTree) (first : Bool) (n : ℕ) (hn : itemSteps items ≤ n)
    (rest : List Char) : readItems n first (renderItems ascii first items ++ rest) = some (items, rest) := by
  cases n with
  | zero => cases items <;> simp [itemSteps] at hn
  | succ n =>
    cases items with
    | nil => simp [renderItems, readItems]
    | cons v items =>
      rw [itemSteps, Nat.add_le_add_iff_right, max_le_iff] at hn
      have hhead := read_render ascii v n hn.1 _ (stops_renderItems ascii items rest)
      have htail := readItems_renderItems ascii items false n hn.2 rest
      obtain ⟨c, more, hc, hne⟩ := render_cons ascii v
      have hnot : ((renderItems ascii first (v :: items)) ++ rest).head? ≠ some ']' := by
        cases first <;> simp [renderItems, hc, hne]
      rw [readItems, if_neg hnot, renderItems, List.append_assoc, expect_append]
      simp only [List.append_assoc, Option.bind_eq_bind, Option.bind_some, hhead, htail]

theorem readEntries_renderEntries (ascii : Bool) (entries : List (String × JsonTree)) (first : Bool) (n : ℕ)
    (hn : entrySteps entries ≤ n) (rest : List Char) :
    readEntries n first (renderEntries ascii first entries ++ rest) = some (entries, rest) := by
  cases n with
  | zero => cases entries <;> simp [entrySteps] at hn
  | succ n =>
    cases entries with
    | nil => simp [renderEntries, readEntries]
    | cons e entries =>
      obtain ⟨k, v⟩ := e
      rw [entrySteps, Nat.add_le_add_iff_right, max_le_iff] at hn
      have hhead := read_render ascii v n hn.1 _ (stops_renderEntries ascii entries rest)
      have htail := readEntries_renderEntries ascii entries false n hn.2 rest
      have hkey := readString_escaped ascii k (':' :: (render ascii v ++ (renderEntries ascii false entries ++ rest)))
      have hnot : ((renderEntries ascii first ((k, v) :: entries)) ++ rest).head? ≠ some '}' := by
        cases first <;> simp [renderEntries, quote]
      have htext : renderEntries ascii first ((k, v) :: entries) ++ rest = (if first then ['"'] else [',', '"']) ++
          (k.toList.flatMap (escapeChar ascii) ++ '"' :: ':' :: (render ascii v ++ (renderEntries ascii false entries ++ rest))) := by
        cases first <;> simp [renderEntries, quote]
      have hcolon : ∀ text, expect [':'] (':' :: text) = some text := fun text => expect_append [':'] text
      rw [readEntries, if_neg hnot, htext, expect_append]
      simp only [Option.bind_eq_bind, Option.bind_some, hkey, hcolon, hhead, htail]

end

mutual

/-- A text has at least a character for every step. -/
theorem steps_le_length (ascii : Bool) (t : JsonTree) : steps t ≤ (render ascii t).length := by
  have hpos := length_render_pos ascii t
  cases t with
  | arr items =>
    have h := itemSteps_le_length ascii true items
    simp only [steps, render, List.length_cons]
    omega
  | obj entries =>
    have h := entrySteps_le_length ascii true entries
    simp only [steps, render, List.length_cons]
    omega
  | _ =>
    simp only [steps]
    omega

theorem itemSteps_le_length (ascii first : Bool) (items : List JsonTree) :
    itemSteps items ≤ (renderItems ascii first items).length := by
  cases items with
  | nil => simp [itemSteps, renderItems]
  | cons v items =>
    have hv := steps_le_length ascii v
    have hrest := itemSteps_le_length ascii false items
    have hpos : 0 < (renderItems ascii false items).length := by cases items <;> simp [renderItems]
    have hpos' := length_render_pos ascii v
    simp only [itemSteps, renderItems, List.length_append]
    omega

theorem entrySteps_le_length (ascii first : Bool) (entries : List (String × JsonTree)) :
    entrySteps entries ≤ (renderEntries ascii first entries).length := by
  cases entries with
  | nil => simp [entrySteps, renderEntries]
  | cons e entries =>
    obtain ⟨k, v⟩ := e
    have hv := steps_le_length ascii v
    have hrest := entrySteps_le_length ascii false entries
    simp only [entrySteps, renderEntries, quote, List.length_append, List.length_cons]
    omega

end

section

variable {ascii : Bool} {c : Char}

/-- A character of a string that is written as it is. -/
def BareIn (ascii : Bool) (c : Char) (strings : List String) : Prop := Bare ascii c ∧ ∃ s ∈ strings, c ∈ s.toList

theorem BareIn.mono {strings strings' : List String} (h : BareIn ascii c strings) (hsub : strings ⊆ strings') :
    BareIn ascii c strings' := by
  obtain ⟨hbare, s, hs, hc⟩ := h
  exact ⟨hbare, s, hsub hs, hc⟩

theorem mem_separator {first : Bool} (h : c ∈ (if first then [] else [','])) : Printable c := by
  cases first with
  | true => simp at h
  | false =>
    obtain rfl : c = ',' := by simpa using h
    decide

mutual

/-- A text is printable ASCII but for the characters of its strings that are written as they are. -/
theorem mem_render (t : JsonTree) (h : c ∈ render ascii t) : Printable c ∨ BareIn ascii c (texts t) := by
  cases t with
  | null =>
    simp only [render, List.mem_cons, List.not_mem_nil, or_false] at h
    rcases h with rfl | rfl | rfl | rfl <;> exact .inl (by decide)
  | bool b =>
    cases b <;> simp only [render, List.mem_cons, List.not_mem_nil, or_false] at h
    · rcases h with rfl | rfl | rfl | rfl | rfl <;> exact .inl (by decide)
    · rcases h with rfl | rfl | rfl | rfl <;> exact .inl (by decide)
  | int n => exact .inl (mem_renderInt h)
  | str s =>
    rcases mem_quote h with h | ⟨hbare, hmem⟩
    · exact .inl h
    · exact .inr ⟨hbare, s, by simp [texts], hmem⟩
  | arr items =>
    rw [render, List.mem_cons] at h
    rcases h with rfl | h
    · exact .inl (by decide)
    · exact mem_renderItems items true h
  | obj entries =>
    rw [render, List.mem_cons] at h
    rcases h with rfl | h
    · exact .inl (by decide)
    · exact mem_renderEntries entries true h

theorem mem_renderItems (items : List JsonTree) (first : Bool) (h : c ∈ renderItems ascii first items) :
    Printable c ∨ BareIn ascii c (itemTexts items) := by
  cases items with
  | nil =>
    obtain rfl : c = ']' := by simpa [renderItems] using h
    exact .inl (by decide)
  | cons v items =>
    rw [renderItems, List.mem_append, List.mem_append] at h
    rcases h with h | h | h
    · exact .inl (mem_separator h)
    · exact (mem_render v h).imp_right fun hb => hb.mono (by simp [itemTexts])
    · exact (mem_renderItems items false h).imp_right fun hb => hb.mono (by simp [itemTexts])

theorem mem_renderEntries (entries : List (String × JsonTree)) (first : Bool)
    (h : c ∈ renderEntries ascii first entries) : Printable c ∨ BareIn ascii c (entryTexts entries) := by
  cases entries with
  | nil =>
    obtain rfl : c = '}' := by simpa [renderEntries] using h
    exact .inl (by decide)
  | cons e entries =>
    obtain ⟨k, v⟩ := e
    rw [renderEntries, List.mem_append, List.mem_append, List.mem_cons, List.mem_append] at h
    rcases h with h | h | rfl | h | h
    · exact .inl (mem_separator h)
    · rcases mem_quote h with h | ⟨hbare, hmem⟩
      · exact .inl h
      · exact .inr ⟨hbare, k, by simp [entryTexts], hmem⟩
    · exact .inl (by decide)
    · refine (mem_render v h).imp_right fun hb => hb.mono fun s hs => ?_
      simp [entryTexts, hs]
    · refine (mem_renderEntries entries false h).imp_right fun hb => hb.mono fun s hs => ?_
      simp [entryTexts, hs]

end

end

/-- The round trip. -/
theorem parse_render (ascii : Bool) (t : JsonTree) : parse (render ascii t) = some t := by
  have hread := read_render ascii t _ (steps_le_length ascii t) [] stops_nil
  rw [List.append_nil] at hread
  rw [parse, hread]

/-- Two trees with one text are one tree. -/
theorem render_injective (ascii : Bool) {a b : JsonTree} (h : render ascii a = render ascii b) : a = b := by
  have hparse := parse_render ascii a
  rw [h, parse_render ascii b] at hparse
  exact (Option.some.inj hparse).symm

/-! ## Sorted keys -/

mutual

/-- The tree with the entries of every object in the order of their keys. -/
def sortKeys : JsonTree → JsonTree
  | .arr items => .arr (sortKeysItems items)
  | .obj entries => .obj (sortOn Prod.fst (sortKeysEntries entries))
  | t => t

def sortKeysItems : List JsonTree → List JsonTree
  | [] => []
  | v :: rest => sortKeys v :: sortKeysItems rest

def sortKeysEntries : List (String × JsonTree) → List (String × JsonTree)
  | [] => []
  | (k, v) :: rest => (k, sortKeys v) :: sortKeysEntries rest

end

/-- `json.dumps(value, sort_keys=True, separators=(",", ":"))`. -/
def dumps (t : JsonTree) : String := String.ofList (t.sortKeys.render true)

theorem sortKeys_arr (items : List JsonTree) : (arr items).sortKeys = .arr (items.map sortKeys) := by
  have hitems : sortKeysItems items = items.map sortKeys := by
    induction items with
    | nil => rfl
    | cons v rest ih => rw [sortKeysItems, ih, List.map_cons]
  rw [sortKeys, hitems]

theorem sortKeys_obj (entries : List (String × JsonTree)) :
    (obj entries).sortKeys = .obj (sortOn Prod.fst (entries.map fun e => (e.1, e.2.sortKeys))) := by
  have hentries : sortKeysEntries entries = entries.map fun e => (e.1, e.2.sortKeys) := by
    induction entries with
    | nil => rfl
    | cons e rest ih => rw [sortKeysEntries, ih, List.map_cons]
  rw [sortKeys, hentries]

/-- Two values are written as one text exactly when they are one tree with its keys sorted. -/
theorem dumps_eq_iff {a b : JsonTree} : a.dumps = b.dumps ↔ a.sortKeys = b.sortKeys :=
  ⟨fun h => render_injective true (String.ofList_injective h), fun h => by rw [dumps, dumps, h]⟩

end JsonTree

end TradingPlatform
