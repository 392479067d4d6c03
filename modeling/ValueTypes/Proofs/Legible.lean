import ValueTypes.Proofs.Category
import ValueTypes.Proofs.Order
import ValueTypes.Proofs.TypeText
import ValueTypes.Value.Render

/-!
Values told apart by their texts. No two native values without floats are rendered alike: the first
character says of what kind the value is, and where a part ends can be seen from the part, if no digit
follows. What stands between quotes is never taken for what stands around them, as a quote in a string
comes after a backslash.
-/
namespace ValueTypes

namespace Text

/-- If what follows is not of the kind of the characters, where they end can be seen. -/
theorem span_inj {p : Char → Bool} {as bs r s : List Char} (left : ∀ c ∈ as, p c = true)
    (right : ∀ c ∈ bs, p c = true) (hr : ∀ c ∈ r.head?, p c = false) (hs : ∀ c ∈ s.head?, p c = false)
    (same : as ++ r = bs ++ s) : as = bs ∧ r = s := by
  obtain ⟨taken, dropped⟩ := Json.Number.span_append left hr
  obtain ⟨taken', dropped'⟩ := Json.Number.span_append right hs
  rw [same] at taken dropped
  exact ⟨taken.symm.trans taken', dropped.symm.trans dropped'⟩

/- Digits in a base up to sixteen are read as the number they were written for. -/

def digitValue (c : Char) : Nat :=
  if c.isDigit then c.toNat - '0'.toNat else c.toNat - 'a'.toNat + 10

def digitsValue (b : Nat) (ds : List Char) : Nat := ds.foldl (fun n c => b * n + digitValue c) 0

theorem digitValue_digitChar : ∀ d < 16, digitValue (Nat.digitChar d) = d := by decide

theorem digitsValue_toDigits {b : Nat} (low : 1 < b) (high : b ≤ 16) (n : Nat) :
    digitsValue b (Nat.toDigits b n) = n := by
  induction n using Nat.strongRecOn with
  | ind n ih =>
    by_cases small : n < b
    · have last := digitValue_digitChar n (by omega)
      simp [Nat.toDigits_of_lt_base small, digitsValue, last]
    · have front := ih (n / b) (Nat.div_lt_self (by omega) low)
      have below : n % b < b := Nat.mod_lt n (by omega)
      have last := digitValue_digitChar (n % b) (by omega)
      rw [digitsValue] at front
      rw [Nat.toDigits_of_base_le low (Nat.not_lt.mp small), digitsValue, List.foldl_append, front,
        List.foldl_cons, List.foldl_nil, last, Nat.div_add_mod]

theorem toDigits_inj {b : Nat} (low : 1 < b) (high : b ≤ 16) {m n : Nat}
    (same : Nat.toDigits b m = Nat.toDigits b n) : m = n := by
  rw [← digitsValue_toDigits low high m, same, digitsValue_toDigits low high n]

/- Numerals. -/

/-- No digit stands here, so a numeral before it has ended. -/
def Ends (cs : List Char) : Prop := ∀ c ∈ cs.head?, c.isDigit = false

theorem ends_cons {c : Char} (other : c.isDigit = false) (cs : List Char) : Ends (c :: cs) := by
  intro d hd
  cases hd
  exact other

theorem isDigit_of_mem_toDigits (n : Nat) : ∀ c ∈ Nat.toDigits 10 n, c.isDigit = true := fun _ hc =>
  Nat.isDigit_of_mem_toDigits (by decide) (by decide) hc

theorem toDigits_append_inj {m n : Nat} {r s : List Char} (hr : Ends r) (hs : Ends s)
    (same : Nat.toDigits 10 m ++ r = Nat.toDigits 10 n ++ s) : m = n ∧ r = s := by
  obtain ⟨digits, rest⟩ :=
    span_inj (isDigit_of_mem_toDigits m) (isDigit_of_mem_toDigits n) hr hs same
  exact ⟨toDigits_inj (by decide) (by decide) digits, rest⟩

/-- A sign is no digit. -/
theorem minus_ne_digits (cs s : List Char) (n : Nat) : '-' :: cs ≠ Nat.toDigits 10 n ++ s := by
  intro same
  cases digits : Nat.toDigits 10 n with
  | nil => exact Nat.toDigits_ne_nil digits
  | cons d ds =>
    have first := isDigit_of_mem_toDigits n d (by simp [digits])
    rw [digits, List.cons_append, List.cons.injEq] at same
    rw [← same.1] at first
    exact absurd first (by decide)

theorem numeral_append_inj {m n : Int} {r s : List Char} (hr : Ends r) (hs : Ends s)
    (same : (numeral m).toList ++ r = (numeral n).toList ++ s) : m = n ∧ r = s := by
  simp only [numeral, String.toList_ofList] at same
  by_cases left : m < 0
  · by_cases right : n < 0
    · rw [if_pos left, if_pos right, List.cons_append, List.cons_append, List.cons.injEq] at same
      obtain ⟨size, rest⟩ := toDigits_append_inj hr hs same.2
      exact ⟨by omega, rest⟩
    · rw [if_pos left, if_neg right] at same
      exact absurd same (minus_ne_digits _ s n.natAbs)
  · by_cases right : n < 0
    · rw [if_neg left, if_pos right] at same
      exact absurd same.symm (minus_ne_digits _ r m.natAbs)
    · rw [if_neg left, if_neg right] at same
      obtain ⟨size, rest⟩ := toDigits_append_inj hr hs same
      exact ⟨by omega, rest⟩

/- Quoted strings. -/

/-- Characters that have a name after a backslash, with the name. -/
def escapes : List (Char × Char) :=
  [('"', '"'), ('\\', '\\'), ('\x00', '0'), ('\t', 't'), ('\r', 'r'), ('\n', 'n')]

/-- What stands for a character between quotes: its name, if it has one; its number in hexadecimal, if it
is hidden; otherwise the character. -/
inductive Shown : Char → List Char → Prop
  | named {c e : Char} (name : (c, e) ∈ escapes) : Shown c ['\\', e]
  | numbered {c : Char} (unnamed : c ∉ escapes.map Prod.fst) (hidden : Hidden c) :
    Shown c ('\\' :: 'u' :: '\x7b' :: (Nat.toDigits 16 c.toNat ++ ['\x7d']))
  | plain {c : Char} (unnamed : c ∉ escapes.map Prod.fst) (shows : ¬Hidden c) : Shown c [c]

theorem invisible_of_printableAscii {c : Char} (printable : printableAscii c = true) :
    invisible c = false := by
  have apart : ∀ r ∈ invisibleRuns, r.2 < 0x20 ∨ 0x7e < r.1 := by decide +kernel
  simp only [printableAscii, Bool.and_eq_true, decide_eq_true_eq] at printable
  have low : 0x20 ≤ c.toNat := printable.1
  have high : c.toNat ≤ 0x7e := printable.2
  simp only [invisible, List.any_eq_false, Bool.and_eq_true, decide_eq_true_eq]
  intro r hr within
  have := apart r hr
  omega

theorem shown_escape (c : Char) : Shown c (escape c) := by
  unfold escape
  -- Six characters have names.
  iterate 6
    split
    · subst_vars
      exact .named (by decide)
  have unnamed : c ∉ escapes.map Prod.fst := by simp [escapes, *]
  have known := invisible_iff_hidden c
  cases shows : invisible c with
  | true =>
    have printable : ¬printableAscii c = true := by
      intro printable
      rw [invisible_of_printableAscii printable] at shows
      cases shows
    simpa [printable, byNumber] using Shown.numbered unnamed (known.mp shows)
  | false =>
    have hidden : ¬Hidden c := mt known.mpr (by simp [shows])
    simpa using Shown.plain unnamed hidden

/-- The character that stands first in a text between quotes, and the rest of the text. -/
def readShown : List Char → Option (Char × List Char)
  | [] => none
  | '\\' :: 'u' :: '\x7b' :: r =>
    let digits := r.takeWhile (· != '\x7d')
    some (Char.ofNat (digitsValue 16 digits), r.drop (digits.length + 1))
  | '\\' :: e :: r => (escapes.find? (·.2 = e)).map fun name => (name.1, r)
  | c :: r => some (c, r)

theorem brace_not_mem_toDigits (n : Nat) : ∀ c ∈ Nat.toDigits 16 n, (c != '\x7d') = true := by
  have digit : ∀ d < 16, (Nat.digitChar d != '\x7d') = true := by decide
  intro c mem
  obtain ⟨d, small, rfl⟩ := exists_digit_of_mem_toDigits (by decide) n c mem
  exact digit d small

theorem readShown_append {c : Char} {cs : List Char} (shown : Shown c cs) (r : List Char) :
    readShown (cs ++ r) = some (c, r) := by
  cases shown with
  | @named e name =>
    have found : ∀ p ∈ escapes, p.2 ≠ 'u' ∧ escapes.find? (·.2 = p.2) = some p := by decide
    obtain ⟨other, first⟩ := found _ name
    simp only [List.cons_append, List.nil_append]
    rw [readShown]
    · simp [first]
    · intro r' h
      exact absurd h other
  | numbered unnamed hidden =>
    have close : ∀ d ∈ ('\x7d' :: r).head?, (d != '\x7d') = false := by simp
    obtain ⟨taken, -⟩ := Json.Number.span_append (brace_not_mem_toDigits c.toNat) close
    have value : digitsValue 16 (Nat.toDigits 16 c.toNat) = c.toNat :=
      digitsValue_toDigits (by decide) (by decide) c.toNat
    simp [readShown, taken, value]
  | plain unnamed shows =>
    simp only [List.cons_append, List.nil_append]
    have backslash : c ≠ '\\' := by
      rintro rfl
      exact unnamed (by decide)
    rw [readShown]
    · intro r' h
      exact absurd h backslash
    · intro e r' h
      exact absurd h backslash

theorem Shown.append_inj {c d : Char} {as bs r s : List Char} (left : Shown c as) (right : Shown d bs)
    (same : as ++ r = bs ++ s) : c = d ∧ r = s := by
  have read := readShown_append left r
  rw [same, readShown_append right s, Option.some.injEq, Prod.mk.injEq] at read
  exact ⟨read.1.symm, read.2.symm⟩

theorem Shown.unique {c : Char} {as bs : List Char} (left : Shown c as) (right : Shown c bs) :
    as = bs := by
  have once : ∀ p ∈ escapes, ∀ q ∈ escapes, p.1 = q.1 → p = q := by decide
  cases left with
  | named name =>
    cases right with
    | named other => rw [(Prod.mk.inj (once _ name _ other rfl)).2]
    | numbered unnamed => exact absurd (List.mem_map_of_mem name) unnamed
    | plain unnamed => exact absurd (List.mem_map_of_mem name) unnamed
  | numbered unnamed hidden =>
    cases right with
    | named name => exact absurd (List.mem_map_of_mem name) unnamed
    | numbered => rfl
    | plain _ shows => exact absurd hidden (by simp [shows])
  | plain unnamed shows =>
    cases right with
    | named name => exact absurd (List.mem_map_of_mem name) unnamed
    | numbered _ hidden => exact absurd hidden (by simp [shows])
    | plain => rfl

theorem shown_iff (c : Char) (cs : List Char) : Shown c cs ↔ cs = escape c := by
  constructor
  · intro shown
    exact shown.unique (shown_escape c)
  · rintro rfl
    exact shown_escape c

/-- A quote never stands for a character by itself. -/
theorem Shown.ne_quote {c : Char} {cs : List Char} (shown : Shown c cs) (r s : List Char) :
    cs ++ r ≠ '"' :: s := by
  intro same
  cases shown with
  | named name => exact absurd (List.cons.inj same).1 (by decide)
  | numbered unnamed hidden => exact absurd (List.cons.inj same).1 (by decide)
  | plain unnamed shows =>
    obtain ⟨rfl, -⟩ := List.cons.inj same
    exact unnamed (by decide)

theorem escaped_inj {cs ds r s : List Char}
    (same : cs.flatMap escape ++ '"' :: r = ds.flatMap escape ++ '"' :: s) : cs = ds ∧ r = s := by
  induction cs generalizing ds with
  | nil =>
    cases ds with
    | nil => exact ⟨rfl, (List.cons.inj same).2⟩
    | cons d ds =>
      rw [List.flatMap_cons, List.append_assoc] at same
      exact absurd same.symm ((shown_escape d).ne_quote _ r)
  | cons c cs ih =>
    rw [List.flatMap_cons, List.append_assoc] at same
    cases ds with
    | nil => exact absurd same ((shown_escape c).ne_quote _ s)
    | cons d ds =>
      rw [List.flatMap_cons, List.append_assoc] at same
      obtain ⟨rfl, later⟩ := (shown_escape c).append_inj (shown_escape d) same
      obtain ⟨rfl, rest⟩ := ih later
      exact ⟨rfl, rest⟩

theorem toList_quote (s : String) :
    (quote s).toList = '"' :: (s.toList.flatMap escape ++ ['"']) := by
  simp [quote]

theorem quote_append_inj {s t : String} {r r' : List Char}
    (same : (quote s).toList ++ r = (quote t).toList ++ r') : s = t ∧ r = r' := by
  rw [toList_quote, toList_quote, List.cons_append, List.cons_append, List.append_assoc,
    List.append_assoc] at same
  obtain ⟨chars, rest⟩ := escaped_inj (List.cons.inj same).2
  exact ⟨String.toList_inj.mp chars, rest⟩

/- Sequences. -/

section

variable {α β : Type} {f : α → List Char} {g : β → List Char} {fits : α → Prop} {suits : β → Prop}

/-- What is written for `a` is told from what is written for anything else, if no digit follows. -/
def Legible (f : α → List Char) (fits : α → Prop) (a : α) : Prop :=
  ∀ b, fits b → ∀ r s, Ends r → Ends s → f a ++ r = f b ++ s → a = b ∧ r = s

theorem Legible.pair {a : α} {b : β} {c : Char} {between : List Char} (apart : c.isDigit = false)
    (first : Legible f fits a) (second : Legible g suits b) :
    Legible (fun e : α × β => f e.1 ++ (c :: between ++ g e.2)) (fun e => fits e.1 ∧ suits e.2)
      (a, b) := by
  rintro ⟨a', b'⟩ ⟨ha, hb⟩ r s hr hs same
  simp only [List.append_assoc, List.cons_append] at same
  obtain ⟨rfl, later⟩ := first a' ha _ _ (ends_cons apart _) (ends_cons apart _) same
  have later := List.append_cancel_left (List.cons.inj later).2
  obtain ⟨rfl, rest⟩ := second b' hb r s hr hs later
  exact ⟨rfl, rest⟩

/-- The parts after the first, each behind a comma. -/
def others (f : α → List Char) (as : List α) : List Char := as.flatMap fun a => ',' :: ' ' :: f a

theorem intercalate_map_cons (f : α → List Char) (a : α) (as : List α) :
    [',', ' '].intercalate ((a :: as).map f) = f a ++ others f as := by
  induction as generalizing a with
  | nil => simp [List.intercalate, others]
  | cons b as ih =>
    have split : [',', ' '].intercalate ((a :: b :: as).map f) =
        f a ++ ([',', ' '] ++ [',', ' '].intercalate ((b :: as).map f)) := by
      simp [List.intercalate]
    rw [split, ih b]
    rfl

theorem ends_others {last : Char} (closes : last.isDigit = false) (as : List α) (r : List Char) :
    Ends (others f as ++ last :: r) := by
  cases as with
  | nil => exact ends_cons closes r
  | cons a as => exact ends_cons (by decide) _

theorem Legible.others {as bs : List α} (each : ∀ a ∈ as, Legible f fits a) (suited : ∀ b ∈ bs, fits b)
    {last : Char} (closes : last.isDigit = false) (comma : ',' ≠ last) {r s : List Char}
    (same : Text.others f as ++ last :: r = Text.others f bs ++ last :: s) : as = bs ∧ r = s := by
  induction as generalizing bs with
  | nil =>
    cases bs with
    | nil => exact ⟨rfl, (List.cons.inj same).2⟩
    | cons b bs => exact absurd (List.cons.inj same).1.symm comma
  | cons a as ih =>
    cases bs with
    | nil => exact absurd (List.cons.inj same).1 comma
    | cons b bs =>
      obtain ⟨head, tail⟩ := List.forall_mem_cons.mp each
      obtain ⟨first, rest⟩ := List.forall_mem_cons.mp suited
      simp only [Text.others, List.flatMap_cons, List.cons_append, List.append_assoc, List.cons.injEq,
        true_and] at same
      obtain ⟨rfl, later⟩ := head b first _ _ (ends_others closes as r) (ends_others closes bs s) same
      obtain ⟨rfl, finish⟩ := ih tail rest later
      exact ⟨rfl, finish⟩

/-- Parts with commas between them, in brackets of which no part starts with the closing one. -/
theorem Legible.group {as bs : List α} (each : ∀ a ∈ as, Legible f fits a)
    (left : ∀ a ∈ as, fits a) (right : ∀ b ∈ bs, fits b) {first last : Char}
    (closes : last.isDigit = false) (comma : ',' ≠ last)
    (starts : ∀ a, fits a → ∀ r s, f a ++ r ≠ last :: s) {r s : List Char}
    (same : first :: ([',', ' '].intercalate (as.map f) ++ [last]) ++ r =
      first :: ([',', ' '].intercalate (bs.map f) ++ [last]) ++ s) : as = bs ∧ r = s := by
  simp only [List.cons_append, List.append_assoc, List.nil_append, List.cons.injEq, true_and] at same
  cases as with
  | nil =>
    cases bs with
    | nil => exact ⟨rfl, (List.cons.inj same).2⟩
    | cons b bs =>
      rw [intercalate_map_cons, List.append_assoc] at same
      exact absurd same.symm (starts b (List.forall_mem_cons.mp right).1 _ r)
  | cons a as =>
    rw [intercalate_map_cons, List.append_assoc] at same
    cases bs with
    | nil => exact absurd same (starts a (List.forall_mem_cons.mp left).1 _ s)
    | cons b bs =>
      obtain ⟨head, tail⟩ := List.forall_mem_cons.mp each
      obtain ⟨first, rest⟩ := List.forall_mem_cons.mp right
      rw [intercalate_map_cons, List.append_assoc] at same
      obtain ⟨rfl, later⟩ := head b first _ _ (ends_others closes as r) (ends_others closes bs s) same
      obtain ⟨rfl, finish⟩ := Legible.others tail rest closes comma later
      exact ⟨rfl, finish⟩

end

end Text

namespace Value

open Text

/-- Held by a document without loss, and without floats: nothing, truth values, integers, strings, arrays
and hashes with strings as keys. -/
structure Plain (v : Value) : Prop where
  native : v.IsNative
  free : v.FloatFree

theorem plain_str (s : String) : (str s).Plain := ⟨by simp [IsNative], .str s⟩

theorem plain_array_iff (vs : List Value) : (array vs).Plain ↔ ∀ v ∈ vs, v.Plain := by
  constructor
  · rintro ⟨native, free⟩ v hv
    rw [IsNative, nativeItems_iff] at native
    cases free with
    | array items => exact ⟨native v hv, items v hv⟩
  · intro items
    refine ⟨?_, .array fun v hv => (items v hv).free⟩
    rw [IsNative, nativeItems_iff]
    exact fun v hv => (items v hv).native

theorem plain_hash_iff (es : List (Value × Value)) :
    (hash es).Plain ↔ ∀ e ∈ es, (∃ s, e.1 = .str s) ∧ e.2.Plain := by
  constructor
  · rintro ⟨native, free⟩ e he
    rw [IsNative, nativeEntries_iff] at native
    obtain ⟨key, value⟩ := native e he
    cases free with
    | hash _ values => exact ⟨key, value, values e he⟩
  · intro entries
    refine ⟨?_, .hash (fun e he => ?_) fun e he => (entries e he).2.free⟩
    · rw [IsNative, nativeEntries_iff]
      exact fun e he => ⟨(entries e he).1, (entries e he).2.native⟩
    · obtain ⟨s, key⟩ := (entries e he).1
      exact key ▸ .str s

theorem renderItems_eq_map (vs : List Value) : renderItems vs = vs.map render := by
  induction vs with
  | nil => rfl
  | cons v vs ih => rw [renderItems, ih, List.map_cons]

def renderEntry (e : Value × Value) : String := e.1.render ++ " => " ++ e.2.render

theorem renderEntries_eq_map (es : List (Value × Value)) : renderEntries es = es.map renderEntry := by
  induction es with
  | nil => rfl
  | cons e es ih => rw [renderEntries, ih, List.map_cons, renderEntry]

def chars (v : Value) : List Char := v.render.toList

theorem chars_array (vs : List Value) :
    (array vs).chars = '[' :: ([',', ' '].intercalate (vs.map chars) ++ [']']) := by
  have items : (vs.map render).map String.toList = vs.map chars := List.map_map
  simp [chars, render, renderItems_eq_map, String.toList_intercalate, items]

def entryChars (e : Value × Value) : List Char := e.1.chars ++ (' ' :: ['=', '>', ' '] ++ e.2.chars)

theorem chars_hash (es : List (Value × Value)) :
    (hash es).chars = '\x7b' :: ([',', ' '].intercalate (es.map entryChars) ++ ['\x7d']) := by
  have entries : (es.map renderEntry).map String.toList = es.map entryChars := by
    rw [List.map_map]
    refine List.map_congr_left fun e _ => ?_
    simp [renderEntry, entryChars, chars]
  simp [chars, render, renderEntries_eq_map, String.toList_intercalate, entries]

/-- The kind of the values whose texts start so. -/
def rankOfStart (c : Char) : Option Nat :=
  if c.isDigit || c = '-' then some 2
  else [('n', 0), ('t', 1), ('f', 1), ('"', 4), ('[', 6), ('\x7b', 7)].lookup c

theorem chars_eq_cons {v : Value} (plain : v.Plain) :
    ∃ c cs, v.chars = c :: cs ∧ rankOfStart c = some v.rank := by
  obtain ⟨native, free⟩ := plain
  cases free with
  | nil => exact ⟨'n', ['i', 'l'], rfl, by decide⟩
  | bool b =>
    cases b with
    | false => exact ⟨'f', ['a', 'l', 's', 'e'], rfl, by decide⟩
    | true => exact ⟨'t', ['r', 'u', 'e'], rfl, by decide⟩
  | int n =>
    obtain ⟨some, digits⟩ := Json.Token.numeral_chars n.toInt
    obtain ⟨c, cs, numeral⟩ := List.exists_cons_of_ne_nil some
    refine ⟨c, cs, numeral, ?_⟩
    have start := digits c (by simp [numeral])
    simp [rankOfStart, start, rank]
  | str s => exact ⟨'"', _, toList_quote s, rfl⟩
  | sym s => simp [IsNative] at native
  | @array vs _ => exact ⟨'[', _, chars_array vs, rfl⟩
  | @hash es _ _ => exact ⟨'\x7b', _, chars_hash es, rfl⟩
  | object => simp [IsNative] at native

theorem chars_ne_cons {v : Value} (plain : v.Plain) {last : Char} (other : rankOfStart last = none)
    (r s : List Char) : v.chars ++ r ≠ last :: s := by
  intro same
  obtain ⟨c, cs, text, start⟩ := chars_eq_cons plain
  rw [text, List.cons_append] at same
  obtain ⟨rfl, -⟩ := List.cons.inj same
  exact absurd (other.symm.trans start) (by simp)

theorem sameKind_of_chars_eq {v w : Value} (left : v.Plain) (right : w.Plain) {r s : List Char}
    (same : v.chars ++ r = w.chars ++ s) : SameKind v w := by
  obtain ⟨c, cs, text, start⟩ := chars_eq_cons left
  obtain ⟨d, ds, text', start'⟩ := chars_eq_cons right
  rw [text, text', List.cons_append, List.cons_append] at same
  obtain ⟨rfl, -⟩ := List.cons.inj same
  exact sameKind_of_rank_eq (Option.some.inj (start.symm.trans start'))

theorem legible_key (s : String) : Legible chars (fun k => ∃ t, k = str t) (str s) := by
  rintro _ ⟨t, rfl⟩ r r' _ _ same
  obtain ⟨rfl, rest⟩ := quote_append_inj same
  exact ⟨rfl, rest⟩

theorem legible_entry {e : Value × Value} (key : ∃ s, e.1 = str s)
    (value : Legible chars Plain e.2) :
    Legible entryChars (fun e => (∃ s, e.1 = str s) ∧ e.2.Plain) e := by
  obtain ⟨k, v⟩ := e
  obtain ⟨s, rfl⟩ := key
  exact (legible_key s).pair (by decide) value

theorem entryChars_ne_cons {e : Value × Value} (key : ∃ s, e.1 = str s) (r s : List Char) :
    entryChars e ++ r ≠ '\x7d' :: s := by
  obtain ⟨t, key⟩ := key
  rw [entryChars, key, List.append_assoc]
  exact chars_ne_cons (plain_str t) (by decide) _ s

theorem legible {v : Value} (plain : v.Plain) : Legible chars Plain v := by
  obtain ⟨native, free⟩ := plain
  induction free with
  | nil =>
    intro w plain r s _ _ same
    cases sameKind_of_chars_eq ⟨native, .nil⟩ plain same
    exact ⟨rfl, List.append_cancel_left same⟩
  | bool a =>
    intro w plain r s _ _ same
    cases sameKind_of_chars_eq ⟨native, .bool a⟩ plain same with
    | bool _ b =>
      -- The first letters differ if the truth values do.
      cases a <;> cases b
      · exact ⟨rfl, List.append_cancel_left same⟩
      · exact absurd (List.cons.inj same).1 (by decide)
      · exact absurd (List.cons.inj same).1 (by decide)
      · exact ⟨rfl, List.append_cancel_left same⟩
  | int n =>
    intro w plain r s hr hs same
    cases sameKind_of_chars_eq ⟨native, .int n⟩ plain same with
    | int _ m =>
      obtain ⟨number, rest⟩ := numeral_append_inj hr hs same
      exact ⟨congrArg int (Int64.toInt_inj.mp number), rest⟩
  | str s =>
    intro w plain r r' hr hr' same
    cases sameKind_of_chars_eq (plain_str s) plain same with
    | str _ t => exact legible_key s (str t) ⟨t, rfl⟩ r r' hr hr' same
  | sym s => simp [IsNative] at native
  | @array vs free ih =>
    intro w plain r s _ _ same
    have left : (array vs).Plain := ⟨native, .array free⟩
    cases sameKind_of_chars_eq left plain same with
    | array _ ws =>
      rw [plain_array_iff] at left plain
      have each : ∀ v ∈ vs, Legible chars Plain v := fun v hv => ih v hv (left v hv).native
      rw [chars_array, chars_array] at same
      obtain ⟨rfl, rest⟩ := Legible.group each left plain (by decide) (by decide)
        (fun v hv => chars_ne_cons hv (by decide)) same
      exact ⟨rfl, rest⟩
  | @hash es keys free _ ih =>
    intro w plain r s _ _ same
    have left : (hash es).Plain := ⟨native, .hash keys free⟩
    cases sameKind_of_chars_eq left plain same with
    | hash _ fs =>
      rw [plain_hash_iff] at left plain
      have each : ∀ e ∈ es, Legible entryChars (fun e => (∃ t, e.1 = str t) ∧ e.2.Plain) e :=
        fun e he => legible_entry (left e he).1 (ih e he (left e he).2.native)
      rw [chars_hash, chars_hash] at same
      obtain ⟨rfl, rest⟩ := Legible.group each left plain (by decide) (by decide)
        (fun e he => entryChars_ne_cons he.1) same
      exact ⟨rfl, rest⟩
  | object => simp [IsNative] at native

/-- Values of this kind with one text are one value. In the text of a string, which stands between quotes,
every character is shown in one way only: by name, by number if it is hidden, or as it is. -/
theorem render_unambiguous :
    (∀ v w : Value, v.Plain → w.Plain → v.render = w.render → v = w) ∧
      (∀ c cs, Shown c cs ↔ cs = escape c) ∧
      ∀ s : String, (str s).render.toList = '"' :: (s.toList.flatMap escape ++ ['"']) := by
  refine ⟨fun v w left right same => ?_, shown_iff, toList_quote⟩
  have nothing : Ends [] := fun c hc => absurd hc (by simp)
  have text : v.chars ++ [] = w.chars ++ [] := congrArg (·.toList ++ []) same
  exact (legible left w right [] [] nothing nothing text).1

theorem render_unambiguous_separators :
    let v : Value := .array [.str "a\", \"b", .int 1, .int 23]
    let w : Value := .array [.str "a", .str "b", .int 12, .int 3]
    let x : Value := .hash [(.str "\" => nil, \"b", .nil)]
    let y : Value := .hash [(.str "", .nil), (.str "b", .nil)]
    (v.Plain ∧ w.Plain ∧ x.Plain ∧ y.Plain) ∧ v.render ≠ w.render ∧ x.render ≠ y.render := by
  intro v w x y
  have whole (n : Int64) : (Value.int n).Plain := ⟨by simp [IsNative], .int n⟩
  have nothing : Value.nil.Plain := ⟨by simp [IsNative], .nil⟩
  have hv : v.Plain := by simp [v, plain_array_iff, plain_str, whole]
  have hw : w.Plain := by simp [w, plain_array_iff, plain_str, whole]
  have hx : x.Plain := by simp [x, plain_hash_iff, nothing]
  have hy : y.Plain := by simp [y, plain_hash_iff, nothing]
  exact ⟨⟨hv, hw, hx, hy⟩, mt (render_unambiguous.1 v w hv hw) (by simp [v, w]),
    mt (render_unambiguous.1 x y hx hy) (by simp [x, y])⟩

/-- Not all that extends graphemes is given by number. -/
theorem sound_mark_not_numbered :
    ExtendsGrapheme '\uff9e' ∧ '\uff9e' ∉ escapes.map Prod.fst ∧
      (str "\uff9e").render ≠ "\"\\u\x7bff9e\x7d\"" ∧ (str "\uff9e").render = "\"\uff9e\"" := by
  have extending : ExtendsGrapheme '\uff9e' := by decide +kernel
  have text : (str "\uff9e").render = "\"\uff9e\"" := by decide +kernel
  exact ⟨extending, by decide, by rw [text]; decide, text⟩

end Value
end ValueTypes
