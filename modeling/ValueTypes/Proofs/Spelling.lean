import ValueTypes.Json.Token
import ValueTypes.Proofs.Numeral

namespace ValueTypes.Json.Token

theorem readString_named {e c : Char} (named : unescape e = some c) (r : List Char) :
    readString ('\\' :: e :: r) = (readString r).map fun s => (c :: s.1, s.2) := by
  have number : e ≠ 'u' := by
    rintro rfl
    nomatch named
  rw [readString]
  · simp only [named]
  · intro a b d f r h
    exact absurd h number

theorem readString_plain {c : Char} (quote : c ≠ '"') (backslash : c ≠ '\\') (shows : ¬c < ' ')
    (r : List Char) : readString (c :: r) = (readString r).map fun s => (c :: s.1, s.2) := by
  rw [readString]
  · simp [shows, backslash]
  · exact quote
  · intro a b d e r h
    exact absurd h backslash
  · intro e r h
    exact absurd h backslash

theorem hex?_control : ∀ n, n < 32 →
    hex? '0' '0' (Nat.digitChar (n / 16)) (Nat.digitChar (n % 16)) = some n := by
  decide

/-- One character of a string comes back from its text, whatever follows. -/
theorem readString_escape (c : Char) (r : List Char) :
    readString (escape c ++ r) = (readString r).map fun s => (c :: s.1, s.2) := by
  unfold escape
  -- Seven characters have names.
  iterate 7
    split
    · subst_vars
      exact readString_named rfl r
  split
  · rename_i control
    have small : c.toNat < 32 := control
    have digits := hex?_control c.toNat small
    have high : isHighSurrogate c.toNat = false := by
      simp [isHighSurrogate]
      omega
    have low : isLowSurrogate c.toNat = false := by
      simp [isLowSurrogate]
      omega
    simp [readString, digits, high, low]
  · rename_i quote backslash _ _ _ _ _ control
    exact readString_plain quote backslash control r

theorem readString_quoted (cs r : List Char) :
    readString (cs.flatMap escape ++ '"' :: r) = some (cs, r) := by
  induction cs with
  | nil => simp [readString]
  | cons c cs ih =>
    rw [List.flatMap_cons, List.append_assoc, readString_escape, ih]
    rfl

/- Texts before other texts. -/

/-- The text does not go on with a number that stands before it. -/
def Apart (cs : List Char) : Prop := ∀ c ∈ cs.head?, isNumeric c = false

/-- Before a text that is read, and that does not go on with a number, `cs` adds the tokens `ts`. -/
def Spells (cs : List Char) (ts : List Token) : Prop :=
  ∀ rest us, Apart rest → readAll rest = some us → readAll (cs ++ rest) = some (ts ++ us)

theorem apart_cons {c : Char} (other : isNumeric c = false) (cs : List Char) : Apart (c :: cs) := by
  intro d hd
  cases hd
  exact other

theorem isNumeric_of_isBlank {c : Char} (blank : isBlank c = true) : isNumeric c = false := by
  simp only [isBlank, Bool.or_eq_true, decide_eq_true_eq] at blank
  obtain ((rfl | rfl) | rfl) | rfl := blank <;> rfl

theorem readAll_blanks {bs : List Char} (blanks : ∀ c ∈ bs, isBlank c = true) (r : List Char) :
    readAll (bs ++ r) = readAll r := by
  induction bs with
  | nil => rfl
  | cons c bs ih =>
    obtain ⟨blank, blanks⟩ := List.forall_mem_cons.mp blanks
    rw [List.cons_append, readAll, if_pos blank, ih blanks]

theorem readAll_next {c : Char} {r rest : List Char} {t : Token} {us : List Token}
    (shows : isBlank c = false) (next : next? c r = some (t, rest)) (tail : readAll rest = some us) :
    readAll (c :: r) = some (t :: us) := by
  rw [readAll, shows]
  simp only [Bool.false_eq_true, if_false]
  split
  · rename_i none
    rw [next] at none
    exact absurd none (Option.some_ne_none _)
  · rename_i u rest' some
    rw [next] at some
    cases some
    rw [tail]
    rfl

/-- A token of one character. -/
def IsMark (t : Token) : Prop := ∃ c, t.text.toList = [c] ∧ mark? c = some t

theorem isMark_of_mark? (c : Char) {t : Token} (found : mark? c = some t) : IsMark t := by
  refine ⟨c, ?_, found⟩
  unfold mark? at found
  split at found <;> cases found <;> rfl

theorem mark_shows {c : Char} {t : Token} (found : mark? c = some t) :
    isBlank c = false ∧ isNumeric c = false := by
  unfold mark? at found
  split at found <;> first | exact ⟨rfl, rfl⟩ | nomatch found

theorem IsMark.apart {t : Token} (mark : IsMark t) (r : List Char) : Apart (t.text.toList ++ r) := by
  obtain ⟨c, text, found⟩ := mark
  rw [text]
  exact apart_cons (mark_shows found).2 r

theorem IsMark.read {t : Token} (mark : IsMark t) {r : List Char} {us : List Token}
    (tail : readAll r = some us) : readAll (t.text.toList ++ r) = some (t :: us) := by
  obtain ⟨c, text, found⟩ := mark
  rw [text]
  have next : next? c r = some (t, r) := by
    simp only [next?, found]
  exact readAll_next (mark_shows found).1 next tail

theorem read_quote (s : String) {r : List Char} {us : List Token} (tail : readAll r = some us) :
    readAll ((quote s).toList ++ r) = some (.string s :: us) := by
  have text : (quote s).toList ++ r = '"' :: (s.toList.flatMap escape ++ '"' :: r) := by
    simp [quote]
  have next : next? '"' (s.toList.flatMap escape ++ '"' :: r) = some (.string s, r) := by
    simp [next?, mark?, readString_quoted]
  rw [text]
  exact readAll_next rfl next tail

theorem spells_null : Spells (text .null).toList [.null] := by
  intro rest us _ tail
  exact readAll_next (r := ['u', 'l', 'l'] ++ rest) rfl rfl tail

theorem spells_bool (b : Bool) : Spells (text (.bool b)).toList [.bool b] := by
  intro rest us _ tail
  cases b with
  | false => exact readAll_next (r := ['a', 'l', 's', 'e'] ++ rest) rfl rfl tail
  | true => exact readAll_next (r := ['r', 'u', 'e'] ++ rest) rfl rfl tail

theorem spells_string (s : String) : Spells (text (.string s)).toList [.string s] := by
  intro rest us _ tail
  exact read_quote s tail

theorem numeral_chars (n : Int) :
    (Text.numeral n).toList ≠ [] ∧ ∀ c ∈ (Text.numeral n).toList, c.isDigit = true ∨ c = '-' := by
  have digits : ∀ c ∈ Nat.toDigits 10 n.natAbs, c.isDigit = true ∨ c = '-' := fun c hc =>
    .inl (Nat.isDigit_of_mem_toDigits (by decide) (by decide) hc)
  unfold Text.numeral
  rw [String.toList_ofList]
  split
  · exact ⟨nofun, List.forall_mem_cons.mpr ⟨.inr rfl, digits⟩⟩
  · exact ⟨Nat.toDigits_ne_nil, digits⟩

theorem starts_number {c : Char} (h : c.isDigit = true ∨ c = '-') :
    isNumeric c = true ∧ isBlank c = false ∧ mark? c = none ∧ c ≠ '"' := by
  rcases h with digit | rfl
  · have numeric : isNumeric c = true := by simp [isNumeric, digit]
    refine ⟨numeric, ?_, ?_, ?_⟩
    · apply Bool.eq_false_iff.mpr
      intro blank
      have other := isNumeric_of_isBlank blank
      simp [numeric] at other
    · apply Option.eq_none_iff_forall_ne_some.mpr
      intro t found
      have other := (mark_shows found).2
      simp [numeric] at other
    · rintro rfl
      nomatch digit
  · decide

theorem spells_whole (n : Int) (low : -0x8000000000000000 ≤ n) (high : n < 0x10000000000000000) :
    Spells (text (.number (.int n low high))).toList [.number (.int n low high)] := by
  intro rest us apart tail
  obtain ⟨nonempty, chars⟩ := numeral_chars n
  have back := Number.read_numeral n low high
  have written : (text (.number (.int n low high))).toList = (Text.numeral n).toList := rfl
  rw [written]
  cases numeral : (Text.numeral n).toList with
  | nil => exact absurd numeral nonempty
  | cons c cs =>
    rw [numeral] at chars back
    obtain ⟨head, others⟩ := List.forall_mem_cons.mp chars
    obtain ⟨numeric, shows, mark, quote⟩ := starts_number head
    have within : ∀ d ∈ cs, isNumeric d = true := fun d hd => (starts_number (others d hd)).1
    obtain ⟨taken, dropped⟩ := Number.span_append within apart
    have next : next? c (cs ++ rest) = some (.number (.int n low high), rest) := by
      simp only [next?, mark, if_neg quote, numeric, if_true, taken, dropped, back, Option.map_some]
    exact readAll_next shows next tail

/- Texts put together. -/

theorem Spells.blanks {bs cs : List Char} {ts : List Token} (h : Spells cs ts)
    (blanks : ∀ c ∈ bs, isBlank c = true) : Spells (bs ++ cs) ts := by
  intro rest us apart tail
  rw [List.append_assoc, readAll_blanks blanks]
  exact h rest us apart tail

theorem Spells.trailing {bs cs : List Char} {ts : List Token} (h : Spells cs ts)
    (blanks : ∀ c ∈ bs, isBlank c = true) : Spells (cs ++ bs) ts := by
  intro rest us apart tail
  have behind : Apart (bs ++ rest) := by
    cases bs with
    | nil => exact apart
    | cons b bs => exact apart_cons (isNumeric_of_isBlank (blanks b List.mem_cons_self)) _
  have read : readAll (bs ++ rest) = some us := by rw [readAll_blanks blanks, tail]
  rw [List.append_assoc]
  exact h _ _ behind read

theorem Spells.enclose {first last : Token} (opens : IsMark first) (closes : IsMark last)
    {bs cs : List Char} {ts : List Token} (h : Spells cs ts) (blanks : ∀ c ∈ bs, isBlank c = true) :
    Spells (first.text.toList ++ (cs ++ (bs ++ last.text.toList))) (first :: (ts ++ [last])) := by
  intro rest us _ tail
  have inner := opens.read (h.trailing blanks _ _ (closes.apart rest) (closes.read tail))
  simpa only [List.append_assoc, List.cons_append, List.nil_append] using inner

/-- Parts that are spelled are spelled together with commas between them. -/
theorem spells_intercalate {α : Type} {text : α → List Char} {tokens : α → List Token} {xs : List α}
    (parts : ∀ x ∈ xs, Spells (text x) (tokens x)) {bs : List Char}
    (blanks : ∀ c ∈ bs, isBlank c = true) :
    Spells ((Token.comma.text.toList ++ bs).intercalate (xs.map text))
      ([Token.comma].intercalate (xs.map tokens)) := by
  induction xs with
  | nil =>
    intro rest us _ tail
    exact tail
  | cons x xs ih =>
    obtain ⟨first, others⟩ := List.forall_mem_cons.mp parts
    cases xs with
    | nil => simpa [List.intercalate] using first
    | cons y xs =>
      intro rest us apart tail
      have later := ih others rest us apart tail
      rw [← readAll_blanks blanks] at later
      have comma : IsMark .comma := isMark_of_mark? ',' rfl
      have next := first _ _ (comma.apart _) (comma.read later)
      simpa [List.intercalate, List.append_assoc] using next

theorem Spells.member {cs bs : List Char} {ts : List Token} (h : Spells cs ts) (name : String)
    (blanks : ∀ c ∈ bs, isBlank c = true) :
    Spells ((quote name).toList ++ (Token.colon.text.toList ++ (bs ++ cs)))
      (.string name :: .colon :: ts) := by
  intro rest us apart tail
  have value := h.blanks blanks rest us apart tail
  have member := read_quote name ((isMark_of_mark? ':' rfl).read value)
  simpa only [List.append_assoc, List.cons_append] using member

end ValueTypes.Json.Token
