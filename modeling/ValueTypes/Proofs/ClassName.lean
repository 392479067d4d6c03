import Mathlib.Computability.Language
import ValueTypes.Proofs.Primitive

/-!
Which texts are names of classes: those of a regular language, less the names of the built-ins. The check
is one of all pieces that a text is cut into at double colons, from the left. Where more than two colons
meet, the cut leaves an empty piece or one with a colon, and the language has no such pieces either.
-/
namespace ValueTypes.ClassName

open scoped Computability

/- The language. -/

def IsLetter (c : Char) : Prop := ('A' ≤ c ∧ c ≤ 'Z') ∨ ('a' ≤ c ∧ c ≤ 'z')

def IsWordChar (c : Char) : Prop := IsLetter c ∨ ('0' ≤ c ∧ c ≤ '9') ∨ c = '_'

def oneOf (p : Char → Prop) : Language Char := {w | ∃ c, p c ∧ w = [c]}

/-- `[A-Za-z][A-Za-z0-9_]*(::[A-Za-z0-9_]+)*` -/
def grammar : Language Char :=
  oneOf IsLetter * (oneOf IsWordChar)∗ *
    ({[':', ':']} * (oneOf IsWordChar * (oneOf IsWordChar)∗))∗

theorem isAlpha_iff (c : Char) : c.isAlpha = true ↔ IsLetter c := by
  have upper : c.isUpper = true ↔ 'A' ≤ c ∧ c ≤ 'Z' := decide_eq_true_iff
  have lower : c.isLower = true ↔ 'a' ≤ c ∧ c ≤ 'z' := by
    have both : c.isLower = (decide ('a' ≤ c) && decide (c ≤ 'z')) := rfl
    rw [both, Bool.and_eq_true, decide_eq_true_iff, decide_eq_true_iff]
  exact Bool.or_eq_true_iff.trans (or_congr upper lower)

theorem isNameChar_iff (c : Char) : isNameChar c = true ↔ IsWordChar c := by
  simp [isNameChar, Char.isAlphanum, isAlpha_iff, Char.isDigit, IsWordChar, Char.le_def, or_assoc]

theorem IsWordChar.ne_colon {c : Char} (h : IsWordChar c) : c ≠ ':' := by
  rintro rfl
  exact absurd ((isNameChar_iff ':').mpr h) (by decide)

theorem IsWordChar.toNat_lt {c : Char} (h : IsWordChar c) : c.toNat < 128 := by
  simp only [IsWordChar, IsLetter, Char.le_def, UInt32.le_iff_toNat_le] at h
  have code : c.toNat = c.val.toNat := rfl
  have last : 'Z'.val.toNat = 90 ∧ 'z'.val.toNat = 122 ∧ '9'.val.toNat = 57 := by decide
  rcases h with (h | h) | h | rfl
  · omega
  · omega
  · omega
  · decide

theorem mem_oneOf_kstar_iff {p : Char → Prop} {w : List Char} :
    w ∈ (oneOf p)∗ ↔ ∀ c ∈ w, p c := by
  rw [Language.mem_kstar]
  constructor
  · rintro ⟨us, rfl, each⟩ c hc
    obtain ⟨u, hu, hc⟩ := List.mem_flatten.mp hc
    obtain ⟨d, holds, rfl⟩ := each u hu
    cases List.mem_singleton.mp hc
    exact holds
  · intro holds
    refine ⟨w.map fun c => [c], ?_, ?_⟩
    · rw [← List.flatMap_def, List.flatMap_singleton']
    · intro u hu
      obtain ⟨c, hc, rfl⟩ := List.mem_map.mp hu
      exact ⟨c, holds c hc, rfl⟩

/-- What stands between separators. -/
def IsSegment (p : List Char) : Prop := p ≠ [] ∧ ∀ c ∈ p, IsWordChar c

theorem mem_segment_iff {w : List Char} :
    w ∈ oneOf IsWordChar * (oneOf IsWordChar)∗ ↔ IsSegment w := by
  rw [Language.mem_mul]
  constructor
  · rintro ⟨u, ⟨c, first, rfl⟩, v, rest, rfl⟩
    refine ⟨List.cons_ne_nil c v, ?_⟩
    exact List.forall_mem_cons.mpr ⟨first, mem_oneOf_kstar_iff.mp rest⟩
  · rintro ⟨filled, words⟩
    obtain ⟨c, v, rfl⟩ := List.exists_cons_of_ne_nil filled
    obtain ⟨first, rest⟩ := List.forall_mem_cons.mp words
    exact ⟨[c], ⟨c, first, rfl⟩, v, mem_oneOf_kstar_iff.mpr rest, rfl⟩

/-- The pieces with double colons before all but the first. -/
def glue (p : List Char) (ps : List (List Char)) : List Char :=
  p ++ ps.flatMap fun q => ':' :: ':' :: q

theorem mem_separated_iff {w : List Char} :
    w ∈ ({[':', ':']} * (oneOf IsWordChar * (oneOf IsWordChar)∗))∗ ↔
      ∃ ps : List (List Char), w = glue [] ps ∧ ∀ q ∈ ps, IsSegment q := by
  rw [Language.mem_kstar]
  constructor
  · rintro ⟨us, rfl, each⟩
    induction us with
    | nil => exact ⟨[], rfl, fun q hq => absurd hq List.not_mem_nil⟩
    | cons u us ih =>
      obtain ⟨head, tail⟩ := List.forall_mem_cons.mp each
      obtain ⟨ps, glued, segments⟩ := ih tail
      obtain ⟨_, rfl, q, segment, rfl⟩ := Language.mem_mul.mp head
      refine ⟨q :: ps, ?_, List.forall_mem_cons.mpr ⟨mem_segment_iff.mp segment, segments⟩⟩
      rw [List.flatten_cons, glued]
      rfl
  · rintro ⟨ps, rfl, segments⟩
    refine ⟨ps.map fun q => ':' :: ':' :: q, List.flatMap_def .., ?_⟩
    intro u hu
    obtain ⟨q, hq, rfl⟩ := List.mem_map.mp hu
    exact Language.mem_mul.mpr ⟨_, rfl, q, mem_segment_iff.mpr (segments q hq), rfl⟩

theorem mem_grammar_iff {w : List Char} :
    w ∈ grammar ↔ ∃ p ps, w = glue p ps ∧ (∀ q ∈ p :: ps, IsSegment q) ∧
      ∃ c ∈ w.head?, IsLetter c := by
  rw [grammar, Language.mem_mul]
  constructor
  · rintro ⟨_, first, _, rest, rfl⟩
    obtain ⟨_, ⟨c, letter, rfl⟩, word, within, rfl⟩ := Language.mem_mul.mp first
    obtain ⟨ps, rfl, segments⟩ := mem_separated_iff.mp rest
    refine ⟨c :: word, ps, rfl, List.forall_mem_cons.mpr ⟨⟨List.cons_ne_nil c word, ?_⟩, segments⟩,
      c, rfl, letter⟩
    exact List.forall_mem_cons.mpr ⟨.inl letter, mem_oneOf_kstar_iff.mp within⟩
  · rintro ⟨p, ps, rfl, each, c, first, letter⟩
    obtain ⟨⟨filled, words⟩, segments⟩ := List.forall_mem_cons.mp each
    obtain ⟨d, word, rfl⟩ := List.exists_cons_of_ne_nil filled
    cases Option.some.inj first
    refine ⟨c :: word, Language.mem_mul.mpr ⟨[c], ⟨c, letter, rfl⟩, word, ?_, rfl⟩, glue [] ps,
      mem_separated_iff.mpr ⟨ps, rfl, segments⟩, rfl⟩
    exact mem_oneOf_kstar_iff.mpr (List.forall_mem_cons.mp words).2

/- The check. -/

/-- What double colons cut a text into, from the left. -/
def pieces : List Char → List (List Char)
  | [] => [[]]
  | ':' :: ':' :: cs => [] :: pieces cs
  | c :: cs => (pieces cs).modifyHead (c :: ·)

theorem pieces_ne_nil (cs : List Char) : pieces cs ≠ [] := by
  fun_induction pieces cs with
  | case1 => exact List.cons_ne_nil _ _
  | case2 cs ih => exact List.cons_ne_nil _ _
  | case3 c cs _ ih => exact mt List.modifyHead_eq_nil_iff.mp ih

theorem modifyHead_nil_append (ps : List (List Char)) : ps.modifyHead ([] ++ ·) = ps :=
  congrFun List.modifyHead_id ps

theorem isSegment_iff_of_words {p : List Char} (words : ∀ c ∈ p, IsWordChar c) :
    IsSegment p ↔ (!p.isEmpty) = true := by
  rw [IsSegment, and_iff_left words]
  simp

/- The first piece may have begun before the text that is left. -/
theorem isNameRest_iff {fresh : Bool} {begun cs : List Char} (start : begun.isEmpty = fresh)
    (named : ∀ c ∈ begun, IsWordChar c) :
    isNameRest fresh cs = true ↔ ∀ q ∈ (pieces cs).modifyHead (begun ++ ·), IsSegment q := by
  fun_induction isNameRest fresh cs generalizing begun with
  | case1 fresh =>
    rw [← start, ← isSegment_iff_of_words named, pieces, List.modifyHead_cons, List.append_nil,
      List.forall_mem_singleton]
  | case2 fresh cs ih =>
    have later : isNameRest true cs = true ↔ ∀ q ∈ pieces cs, IsSegment q := by
      rw [← modifyHead_nil_append (pieces cs)]
      exact ih rfl fun c hc => absurd hc List.not_mem_nil
    rw [Bool.and_eq_true, ← start, ← isSegment_iff_of_words named, later, pieces,
      List.modifyHead_cons, List.append_nil, List.forall_mem_cons]
  | case3 fresh c cs apart ih =>
    have cut : pieces (c :: cs) = (pieces cs).modifyHead (c :: ·) := by
      rw [pieces]
      exact apart
    have joined : (pieces (c :: cs)).modifyHead (begun ++ ·) =
        (pieces cs).modifyHead ((begun ++ [c]) ++ ·) := by
      rw [cut, List.modifyHead_modifyHead]
      congr 1
      funext q
      exact List.append_cons begun c q
    rw [joined, Bool.and_eq_true, isNameChar_iff]
    by_cases word : IsWordChar c
    · have longer : ∀ d ∈ begun ++ [c], IsWordChar d :=
        List.forall_mem_append.mpr ⟨named, List.forall_mem_singleton.mpr word⟩
      rw [and_iff_right word]
      exact ih (by simp) longer
    · obtain ⟨p, ps, shape⟩ := List.exists_cons_of_ne_nil (pieces_ne_nil cs)
      rw [shape, List.modifyHead_cons, List.forall_mem_cons]
      refine iff_of_false (fun h => word h.1) (fun h => word (h.1.2 c ?_))
      simp

theorem glue_pieces (cs : List Char) : ∃ p ps, pieces cs = p :: ps ∧ glue p ps = cs := by
  fun_induction pieces cs with
  | case1 => exact ⟨[], [], rfl, rfl⟩
  | case2 cs ih =>
    obtain ⟨p, ps, cut, glued⟩ := ih
    refine ⟨[], pieces cs, rfl, ?_⟩
    rw [cut, ← glued]
    rfl
  | case3 c cs _ ih =>
    obtain ⟨p, ps, cut, glued⟩ := ih
    refine ⟨c :: p, ps, ?_, ?_⟩
    · rw [cut, List.modifyHead_cons]
    · rw [← glued]
      rfl

theorem pieces_append {p : List Char} (free : ':' ∉ p) (cs : List Char) :
    pieces (p ++ cs) = (pieces cs).modifyHead (p ++ ·) := by
  induction p with
  | nil => exact (modifyHead_nil_append _).symm
  | cons c p ih =>
    rw [List.mem_cons, not_or] at free
    have cut : pieces (c :: (p ++ cs)) = (pieces (p ++ cs)).modifyHead (c :: ·) := by
      rw [pieces]
      exact fun _ colon _ => free.1 colon.symm
    rw [List.cons_append, cut, ih free.2, List.modifyHead_modifyHead]
    rfl

theorem pieces_glue {p : List Char} {ps : List (List Char)} (free : ∀ q ∈ p :: ps, ':' ∉ q) :
    pieces (glue p ps) = p :: ps := by
  induction ps generalizing p with
  | nil =>
    have glued : glue p [] = p ++ [] := rfl
    rw [glued, pieces_append (List.forall_mem_cons.mp free).1, pieces, List.modifyHead_cons,
      List.append_nil]
  | cons q qs ih =>
    obtain ⟨first, rest⟩ := List.forall_mem_cons.mp free
    have glued : glue p (q :: qs) = p ++ ':' :: ':' :: glue q qs := rfl
    rw [glued, pieces_append first, pieces, ih rest, List.modifyHead_cons, List.append_nil]

/-- What is left of a text whose first character stands is checked piece by piece. -/
theorem isNameRest_true_iff (cs : List Char) :
    isNameRest true cs = true ↔ ∀ q ∈ pieces cs, IsSegment q := by
  rw [← modifyHead_nil_append (pieces cs)]
  exact isNameRest_iff rfl fun c hc => absurd hc List.not_mem_nil

theorem mem_grammar_iff_isNameRest {cs : List Char} :
    cs ∈ grammar ↔ (∃ c ∈ cs.head?, IsLetter c) ∧ isNameRest true cs = true := by
  rw [mem_grammar_iff, isNameRest_true_iff]
  constructor
  · rintro ⟨p, ps, rfl, segments, first⟩
    refine ⟨first, ?_⟩
    rw [pieces_glue]
    · exact segments
    · intro q hq colon
      exact ((segments q hq).2 ':' colon).ne_colon rfl
  · rintro ⟨first, segments⟩
    obtain ⟨p, ps, cut, glued⟩ := glue_pieces cs
    rw [cut] at segments
    exact ⟨p, ps, glued.symm, segments, first⟩

theorem builtin_named?_eq_none_iff (s : String) :
    Builtin.named? s = none ↔ ∀ b : Builtin, b.name ≠ s := by
  rw [Builtin.named?, List.find?_eq_none]
  constructor
  · intro unnamed b
    have listed : b ∈ Builtin.all := by cases b <;> decide
    simpa using unnamed b listed
  · intro unnamed b _
    simpa using unnamed b

theorem isClassName_iff (s : String) :
    isClassName s = true ↔ s.toList ∈ grammar ∧ ∀ b : Builtin, b.name ≠ s := by
  have first : s.toList.head?.any Char.isAlpha = true ↔ ∃ c ∈ s.toList.head?, IsLetter c := by
    simp only [Option.any_eq_true, isAlpha_iff, Option.mem_def]
  rw [isClassName, Bool.and_eq_true, Bool.and_eq_true, first, ← mem_grammar_iff_isNameRest,
    Option.isNone_iff_eq_none, builtin_named?_eq_none_iff]

/- Runs of colons. -/

/-- Colons in a row, with no further one on either side. -/
structure ColonRun (cs before after : List Char) (n : Nat) : Prop where
  split : cs = before ++ (List.replicate n ':' ++ after)
  filled : 0 < n
  left : before.getLast? ≠ some ':'
  right : after.head? ≠ some ':'

/-- Text that does not end in a colon ends within a piece. -/
theorem isNameRest_false_of_append {fresh : Bool} {before cs : List Char}
    (rest : isNameRest fresh (before ++ cs) = true) (filled : before ≠ [])
    (last : before.getLast? ≠ some ':') : isNameRest false cs = true := by
  generalize whole : before ++ cs = text at rest
  fun_induction isNameRest fresh text generalizing before with
  | case1 fresh => exact absurd (List.append_eq_nil_iff.mp whole).1 filled
  | case2 fresh text ih =>
    rw [Bool.and_eq_true] at rest
    rcases before with _ | ⟨b, _ | ⟨c, before⟩⟩
    · exact absurd rfl filled
    · cases (List.cons.inj whole).1
      exact absurd rfl last
    · obtain ⟨rfl, rfl, tail⟩ := by simpa using whole
      by_cases spent : before = []
      · rw [spent] at last
        exact absurd rfl last
      · rw [List.getLast?_cons_cons, List.getLast?_cons_of_ne_nil spent] at last
        exact ih spent last tail rest.2
  | case3 fresh c text _ ih =>
    rw [Bool.and_eq_true] at rest
    rcases before with _ | ⟨b, before⟩
    · exact absurd rfl filled
    · obtain ⟨rfl, tail⟩ := List.cons.inj whole
      by_cases spent : before = []
      · subst spent
        have ended : cs = text := tail
        exact ended ▸ rest.2
      · rw [List.getLast?_cons_of_ne_nil spent] at last
        exact ih spent last tail rest.2

theorem isNameRest_true_colon (cs : List Char) : isNameRest true (':' :: cs) = false := by
  match cs with
  | [] => rfl
  | c :: cs =>
    by_cases colon : c = ':'
    · rw [colon]
      rfl
    · rw [isNameRest]
      · rfl
      · rintro _ - ⟨⟩
        exact colon rfl

theorem of_isNameRest_replicate {n : Nat} {after : List Char}
    (rest : isNameRest false (List.replicate n ':' ++ after) = true) (filled : 0 < n)
    (right : after.head? ≠ some ':') : n = 2 ∧ after ≠ [] := by
  match n with
  | 1 =>
    have single : isNameRest false (':' :: after) = false := by
      rw [isNameRest]
      · rfl
      · rintro _ - rfl
        exact right rfl
    rw [List.replicate_one, List.singleton_append, single] at rest
    cases rest
  | 2 =>
    refine ⟨rfl, ?_⟩
    rintro rfl
    cases rest
  | n + 3 =>
    have third : isNameRest true (':' :: (List.replicate n ':' ++ after)) = true := rest
    rw [isNameRest_true_colon] at third
    cases third

theorem ColonRun.of_isNameRest {cs before after : List Char} {n : Nat}
    (run : ColonRun cs before after n) (name : isNameRest true cs = true) :
    n = 2 ∧ before ≠ [] ∧ after ≠ [] := by
  rw [run.split] at name
  have inside : before ≠ [] := by
    rintro rfl
    obtain ⟨m, rfl⟩ := Nat.exists_eq_add_one.mpr run.filled
    have start : isNameRest true (':' :: (List.replicate m ':' ++ after)) = true := name
    rw [isNameRest_true_colon] at start
    cases start
  obtain ⟨two, filled⟩ := of_isNameRest_replicate (isNameRest_false_of_append name inside run.left)
    run.filled run.right
  exact ⟨two, inside, filled⟩

/- Refusals. -/

theorem ofString_eq_ok_iff (s : String) :
    (∃ c, ofString s = .ok c ∧ c.name = s) ↔ isClassName s = true := by
  rw [ofString, ofString?]
  by_cases valid : isClassName s = true
  · rw [dif_pos valid]
    exact iff_of_true ⟨⟨s, valid⟩, rfl, rfl⟩ valid
  · rw [dif_neg valid]
    simp [valid]

theorem ofString_eq_error_iff (s : String) :
    ofString s = .error (.className s) ↔ ¬isClassName s = true := by
  rw [ofString, ofString?]
  by_cases valid : isClassName s = true
  · simp [valid]
  · simp [valid]

theorem ascii_of_isNameRest {cs : List Char} (name : isNameRest true cs = true) :
    ∀ c ∈ cs, c.toNat < 128 := by
  intro c hc
  rcases isNameChar_or_eq_colon name c hc with word | rfl
  · exact ((isNameChar_iff c).mp word).toNat_lt
  · decide

/-- The names of classes are the words of the grammar that name no built-in; any other text is refused as
it stands. -/
theorem accepted_exactly (s : String) :
    ((∃ c, ofString s = .ok c ∧ c.name = s) ↔ s.toList ∈ grammar ∧ ∀ b : Builtin, b.name ≠ s) ∧
      (ofString s = .error (.className s) ↔
        ¬(s.toList ∈ grammar ∧ ∀ b : Builtin, b.name ≠ s)) ∧
      (∀ before after n, ColonRun s.toList before after n → (n ≠ 2 ∨ before = [] ∨ after = []) →
        ofString s = .error (.className s)) ∧
      ((∃ c ∈ s.toList, 128 ≤ c.toNat) → ofString s = .error (.className s)) := by
  have rest : isClassName s = true → isNameRest true s.toList = true := by
    intro valid
    rw [isClassName, Bool.and_eq_true, Bool.and_eq_true] at valid
    exact valid.1.2
  rw [ofString_eq_ok_iff, ofString_eq_error_iff, isClassName_iff]
  refine ⟨Iff.rfl, Iff.rfl, ?_, ?_⟩
  · intro before after n run bad valid
    obtain ⟨two, inside, filled⟩ := run.of_isNameRest (rest ((isClassName_iff s).mpr valid))
    rcases bad with bad | bad | bad
    · exact bad two
    · exact inside bad
    · exact filled bad
  · rintro ⟨c, hc, high⟩ valid
    have low := ascii_of_isNameRest (rest ((isClassName_iff s).mpr valid)) c hc
    omega

theorem accepted_exactly_colons :
    ColonRun "Geo:::Point".toList "Geo".toList "Point".toList 3 ∧
      ofString "Geo:::Point" = .error (.className "Geo:::Point") ∧
      ofString "Größe" = .error (.className "Größe") ∧
      (ofString "Integer" = .error (.className "Integer") ∧ "Geo::Integer".toList ∈ grammar) := by
  have run : ColonRun "Geo:::Point".toList "Geo".toList "Point".toList 3 := by
    constructor <;> decide
  have accepted : ∃ c, ofString "Geo::Integer" = .ok c ∧ c.name = "Geo::Integer" := ⟨_, rfl, rfl⟩
  refine ⟨run, ?_, ?_, ?_, ((accepted_exactly _).1.mp accepted).1⟩
  · exact (accepted_exactly _).2.2.1 _ _ _ run (.inl (by decide))
  · exact (accepted_exactly _).2.2.2 ⟨'ö', by decide, by decide⟩
  · exact (accepted_exactly _).2.1.mpr fun named => named.2 .integer rfl

end ValueTypes.ClassName
