import ValueTypes.Proofs.Nesting
import ValueTypes.Proofs.Spelling

namespace ValueTypes.Json

open Token

/-- Parts between brackets, with commas after all but the last and blanks where there may be some. -/
theorem spells_group {first last : Token} (opens : IsMark first) (closes : IsMark last) {α : Type}
    {xs : List α} {text : α → List Char} {tokens : α → List Token}
    (parts : ∀ x ∈ xs, Spells (text x) (tokens x)) {front between back : List Char}
    (front_blank : ∀ c ∈ front, isBlank c = true) (between_blank : ∀ c ∈ between, isBlank c = true)
    (back_blank : ∀ c ∈ back, isBlank c = true) :
    Spells (first.text.toList ++ (front ++ (Token.comma.text.toList ++ between).intercalate
        (xs.map text) ++ (back ++ last.text.toList)))
      (first :: [Token.comma].intercalate (xs.map tokens) ++ [last]) := by
  have inner := spells_intercalate parts between_blank
  exact (inner.blanks front_blank).enclose opens closes back_blank

/- Compact texts: the tokens, with nothing between them. -/

def chars (ts : List Token) : List Char := ts.flatMap fun t => t.text.toList

theorem chars_cons (t : Token) (ts : List Token) : chars (t :: ts) = t.text.toList ++ chars ts := rfl

theorem chars_singleton (t : Token) : chars [t] = t.text.toList := List.append_nil _

theorem chars_append (ts us : List Token) : chars (ts ++ us) = chars ts ++ chars us :=
  List.flatMap_append

theorem chars_intercalate (sep : List Token) (parts : List (List Token)) :
    chars (sep.intercalate parts) = (chars sep).intercalate (parts.map chars) := by
  induction parts with
  | nil => rfl
  | cons p parts ih =>
    cases parts with
    | nil => simp [List.intercalate]
    | cons q parts =>
      have split : sep.intercalate (p :: q :: parts) = p ++ (sep ++ sep.intercalate (q :: parts)) := by
        simp [List.intercalate]
      rw [split, chars_append, chars_append, ih]
      simp [List.intercalate]

theorem chars_group (first last : Token) {α : Type} (tokens : α → List Token) (xs : List α) :
    chars (first :: [Token.comma].intercalate (xs.map tokens) ++ [last]) =
      first.text.toList ++ (Token.comma.text.toList.intercalate (xs.map fun x => chars (tokens x)) ++
        last.text.toList) := by
  rw [List.cons_append, chars_cons, chars_append, chars_intercalate, chars_singleton, chars_singleton,
    List.map_map]
  rfl

theorem toList_compact (j : Json) : j.compact.toList = chars j.tokens := by
  rw [compact, String.toList_join, List.flatMap_map]
  rfl

theorem Plain.spells_compact {j : Json} (plain : Plain j) : Spells (chars j.tokens) j.tokens := by
  have none : ∀ c ∈ ([] : List Char), isBlank c = true := nofun
  induction plain with
  | null => exact chars_singleton _ ▸ spells_null
  | bool b => exact chars_singleton _ ▸ spells_bool b
  | whole n low high => exact chars_singleton _ ▸ spells_whole n low high
  | string s => exact chars_singleton _ ▸ spells_string s
  | array _ ih =>
    have opens : IsMark .arrayOpen := isMark_of_mark? '[' rfl
    have closes : IsMark .arrayClose := isMark_of_mark? ']' rfl
    have group := spells_group opens closes ih none none none
    rw [tokens, itemTokens_eq_map, chars_group]
    simpa only [List.nil_append, List.append_nil] using group
  | @object ms _ _ ih =>
    have members : ∀ m ∈ ms, Spells (chars (tokensOfMember m)) (tokensOfMember m) := by
      intro m hm
      have member := (ih m hm).member m.1 none
      rw [tokensOfMember, chars_cons, chars_cons, text]
      exact member
    have opens : IsMark .objectOpen := isMark_of_mark? '\x7b' rfl
    have closes : IsMark .objectClose := isMark_of_mark? '\x7d' rfl
    have group := spells_group opens closes members none none none
    rw [tokens, memberTokens_eq_map, chars_group]
    simpa only [List.nil_append, List.append_nil] using group

/- Texts over several lines. -/

theorem prettyItems_eq_map (level : Nat) (js : List Json) :
    prettyItems level js = js.map (prettyAt level) := by
  induction js with
  | nil => rfl
  | cons j js ih => rw [prettyItems, ih, List.map_cons]

def prettyMember (level : Nat) (m : String × Json) : String :=
  Token.quote m.1 ++ ": " ++ prettyAt level m.2

theorem prettyMembers_eq_map (level : Nat) (ms : List (String × Json)) :
    prettyMembers level ms = ms.map (prettyMember level) := by
  induction ms with
  | nil => rfl
  | cons m ms ih => rw [prettyMembers, ih, List.map_cons, prettyMember]

theorem blank_indent (level : Nat) : ∀ c ∈ (indent level).toList, isBlank c = true := by
  intro c hc
  rw [indent, String.toList_ofList] at hc
  rw [List.eq_of_mem_replicate hc]
  rfl

theorem blank_line (level : Nat) : ∀ c ∈ '\n' :: (indent level).toList, isBlank c = true :=
  List.forall_mem_cons.mpr ⟨rfl, blank_indent level⟩

theorem toList_block (level : Nat) (first last : Token) {p : String} (ps : List String) :
    (block level first last (p :: ps)).toList =
      first.text.toList ++ (['\n'] ++ (Token.comma.text.toList ++ ['\n']).intercalate
        ((p :: ps).map fun part => (indent (level + 1)).toList ++ part.toList) ++
          ('\n' :: (indent level).toList ++ last.text.toList)) := by
  have separator : ",\n".toList = Token.comma.text.toList ++ ['\n'] := rfl
  have newline : "\n".toList = ['\n'] := rfl
  have lines : ((p :: ps).map (indent (level + 1) ++ ·)).map String.toList =
      (p :: ps).map fun part => (indent (level + 1)).toList ++ part.toList := by
    simp [Function.comp_def]
  simp only [block, List.isEmpty_cons, Bool.false_eq_true, if_false, String.toList_append,
    String.toList_intercalate, lines, separator, newline, List.append_assoc, List.cons_append,
    List.nil_append]

theorem spells_block (level : Nat) {first last : Token} (opens : IsMark first)
    (closes : IsMark last) {α : Type} {xs : List α} {text : α → String} {tokens : α → List Token}
    (parts : ∀ x ∈ xs, Spells (text x).toList (tokens x)) :
    Spells (block level first last (xs.map text)).toList
      (first :: [Token.comma].intercalate (xs.map tokens) ++ [last]) := by
  have none : ∀ c ∈ ([] : List Char), isBlank c = true := nofun
  have newline : ∀ c ∈ ['\n'], isBlank c = true := by simp [isBlank]
  cases xs with
  | nil =>
    have group := spells_group opens closes parts none none none
    simpa [block, List.intercalate] using group
  | cons x xs =>
    have lines : ∀ y ∈ x :: xs, Spells ((indent (level + 1)).toList ++ (text y).toList) (tokens y) :=
      fun y hy => (parts y hy).blanks (blank_indent (level + 1))
    have group := spells_group opens closes lines newline newline (blank_line level)
    have written : (block level first last ((x :: xs).map text)).toList =
        first.text.toList ++ (['\n'] ++ (Token.comma.text.toList ++ ['\n']).intercalate
          ((x :: xs).map fun y => (indent (level + 1)).toList ++ (text y).toList) ++
            ('\n' :: (indent level).toList ++ last.text.toList)) := by
      rw [List.map_cons, toList_block, ← List.map_cons, List.map_map]
      rfl
    rw [written]
    exact group

theorem Plain.spells_pretty {j : Json} (plain : Plain j) (level : Nat) :
    Spells (prettyAt level j).toList j.tokens := by
  induction plain generalizing level with
  | null => exact spells_null
  | bool b => exact spells_bool b
  | whole n low high => exact spells_whole n low high
  | string s => exact spells_string s
  | array _ ih =>
    rw [prettyAt, prettyItems_eq_map, tokens, itemTokens_eq_map]
    have opens : IsMark .arrayOpen := isMark_of_mark? '[' rfl
    have closes : IsMark .arrayClose := isMark_of_mark? ']' rfl
    exact spells_block level opens closes fun k hk => ih k hk (level + 1)
  | @object ms _ _ ih =>
    have blank : ∀ c ∈ [' '], isBlank c = true := by simp [isBlank]
    have members : ∀ m ∈ ms, Spells (prettyMember (level + 1) m).toList (tokensOfMember m) := by
      intro m hm
      have member := (ih m hm (level + 1)).member m.1 blank
      have written : (prettyMember (level + 1) m).toList = (quote m.1).toList ++
          (Token.colon.text.toList ++ ([' '] ++ (prettyAt (level + 1) m.2).toList)) := by
        simp [prettyMember, text]
      rw [written]
      exact member
    rw [prettyAt, prettyMembers_eq_map, tokens, memberTokens_eq_map]
    have opens : IsMark .objectOpen := isMark_of_mark? '\x7b' rfl
    have closes : IsMark .objectClose := isMark_of_mark? '\x7d' rfl
    exact spells_block level opens closes members

theorem readAll_of_spells {cs : List Char} {ts : List Token} (h : Spells cs ts) :
    readAll cs = some ts := by
  have whole := h [] [] nofun (by rw [readAll])
  rwa [List.append_nil, List.append_nil] at whole

theorem Plain.spells {j : Json} (plain : Plain j) {s : String}
    (written : s = j.compact ∨ s = j.pretty) : Spells s.toList j.tokens := by
  rcases written with rfl | rfl
  · exact j.toList_compact ▸ plain.spells_compact
  · exact plain.spells_pretty 0

theorem Plain.readWithin_of_spells {j : Json} (plain : Plain j) (limit : Nat) {s : String}
    (spelled : Spells s.toList j.tokens) :
    readWithin limit s = if j.depth ≤ limit then some j else none := by
  rw [Json.readWithin, readAll_of_spells spelled, Option.bind_some, plain.ofTokens?]

/-- A document written in either way is read again if it has no more levels than the limit, and is
refused otherwise. -/
theorem Plain.readWithin {j : Json} (plain : Plain j) (limit : Nat) {s : String}
    (written : s = j.compact ∨ s = j.pretty) :
    readWithin limit s = if j.depth ≤ limit then some j else none :=
  plain.readWithin_of_spells limit (plain.spells written)

/-- A line break may follow, as it does where a text is printed. -/
theorem spells_line {s : String} {ts : List Token} (h : Spells s.toList ts) :
    Spells (s ++ "\n").toList ts := by
  have blank : ∀ c ∈ "\n".toList, isBlank c = true := by simp [isBlank]
  rw [String.toList_append]
  exact h.trailing blank

end ValueTypes.Json
