import ValueTypes.Proofs.Order
import ValueTypes.Value.Feed

/-!
What values feed to a hash function. Of two values, one feeds the start of what the other feeds only if
they are equal: the kind comes first, words have eight bytes, texts end with a byte that is in none, and
a sequence says how many parts follow, so no byte can pass from one part to the next.
-/
namespace ValueTypes.Value

/-- The number of lengths that a word can say. -/
def lengthLimit : Nat := 0x10000000000000000

/- No sequence is longer than a word can say, at any depth. -/
mutual

def Countable : Value → Prop
  | .array vs => vs.length < lengthLimit ∧ CountableItems vs
  | .hash es => es.length < lengthLimit ∧ CountableEntries es
  | .object _ as fs =>
    as.length < lengthLimit ∧ fs.length < lengthLimit ∧ CountableFields fs
  | _ => True

def CountableItems : List Value → Prop
  | [] => True
  | v :: vs => Countable v ∧ CountableItems vs

def CountableEntries : List (Value × Value) → Prop
  | [] => True
  | (k, v) :: es => (Countable k ∧ Countable v) ∧ CountableEntries es

def CountableFields : List (String × Value) → Prop
  | [] => True
  | (_, v) :: fs => Countable v ∧ CountableFields fs

end

theorem countableItems_iff (vs : List Value) : CountableItems vs ↔ ∀ v ∈ vs, v.Countable := by
  induction vs with
  | nil => simp [CountableItems]
  | cons v vs ih => rw [CountableItems, List.forall_mem_cons, ih]

theorem countableEntries_iff (es : List (Value × Value)) :
    CountableEntries es ↔ ∀ e ∈ es, e.1.Countable ∧ e.2.Countable := by
  induction es with
  | nil => simp [CountableEntries]
  | cons e es ih => rw [CountableEntries, List.forall_mem_cons, ih]

theorem countableFields_iff (fs : List (String × Value)) :
    CountableFields fs ↔ ∀ f ∈ fs, f.2.Countable := by
  induction fs with
  | nil => simp [CountableFields]
  | cons f fs ih => rw [CountableFields, List.forall_mem_cons, ih]

section

variable {α β : Type} {f : α → List UInt8} {g : β → List UInt8} {fits : α → Prop} {suits : β → Prop}

/-- What is written for `a` is told from what is written for anything else, whatever follows. -/
def Distinct (f : α → List UInt8) (fits : α → Prop) (a : α) : Prop :=
  ∀ b, fits b → ∀ r s, f a ++ r = f b ++ s → a = b ∧ r = s

theorem Distinct.pair {a : α} {b : β} (first : Distinct f fits a) (second : Distinct g suits b) :
    Distinct (fun e : α × β => f e.1 ++ g e.2) (fun e => fits e.1 ∧ suits e.2) (a, b) := by
  rintro ⟨c, d⟩ ⟨hc, hd⟩ r s same
  simp only [List.append_assoc] at same
  obtain ⟨rfl, later⟩ := first c hc _ _ same
  obtain ⟨rfl, rest⟩ := second d hd _ _ later
  exact ⟨rfl, rest⟩

theorem Distinct.flatMap {as bs : List α} (each : ∀ a ∈ as, Distinct f fits a)
    (others : ∀ b ∈ bs, fits b) (length : as.length = bs.length) {r s : List UInt8}
    (same : as.flatMap f ++ r = bs.flatMap f ++ s) : as = bs ∧ r = s := by
  induction as generalizing bs with
  | nil =>
    cases bs with
    | nil => exact ⟨rfl, same⟩
    | cons b bs => cases length
  | cons a as ih =>
    cases bs with
    | nil => cases length
    | cons b bs =>
      obtain ⟨head, tail⟩ := List.forall_mem_cons.mp each
      obtain ⟨first, rest⟩ := List.forall_mem_cons.mp others
      simp only [List.flatMap_cons, List.append_assoc] at same
      obtain ⟨rfl, later⟩ := head b first _ _ same
      obtain ⟨rfl, finish⟩ := ih tail rest (Nat.succ.inj length) later
      exact ⟨rfl, finish⟩

/- Words. -/

theorem length_feedWord (n : Nat) : (feedWord n).length = 8 := by
  rw [feedWord, List.length_map, List.length_range]

/-- A number is known by as many bytes as it takes. -/
theorem eq_of_bytes (k : Nat) {m n : Nat} (hm : m < Nat.pow 256 k) (hn : n < Nat.pow 256 k)
    (bytes : ∀ i < k, (m >>> (8 * i)) % 256 = (n >>> (8 * i)) % 256) : m = n := by
  induction k generalizing m n with
  | zero => exact (Nat.lt_one_iff.mp hm).trans (Nat.lt_one_iff.mp hn).symm
  | succ k ih =>
    have lowest : m % 256 = n % 256 := bytes 0 (Nat.succ_pos k)
    have fewer {x : Nat} (hx : x < Nat.pow 256 (k + 1)) : x >>> 8 < Nat.pow 256 k := by
      rw [Nat.shiftRight_eq_div_pow]
      exact Nat.div_lt_of_lt_mul (by rwa [Nat.mul_comm])
    have higher : m >>> 8 = n >>> 8 := by
      refine ih (fewer hm) (fewer hn) fun i hi => ?_
      have next := bytes (i + 1) (Nat.succ_lt_succ hi)
      rwa [Nat.mul_succ, Nat.add_comm, Nat.shiftRight_add, Nat.shiftRight_add] at next
    omega

theorem feedWord_inj {m n : Nat} (hm : m < lengthLimit) (hn : n < lengthLimit)
    (same : feedWord m = feedWord n) : m = n := by
  refine eq_of_bytes 8 hm hn fun i hi => ?_
  have byte := List.map_inj_left.mp same i (List.mem_range.mpr hi)
  simpa using congrArg UInt8.toNat byte

theorem distinct_feedWord {n : Nat} (hn : n < lengthLimit) :
    Distinct feedWord (· < lengthLimit) n := by
  intro m hm r s same
  obtain ⟨words, rest⟩ := List.append_inj same (by rw [length_feedWord, length_feedWord])
  exact ⟨feedWord_inj hn hm words, rest⟩

/-- The parts after their number. -/
theorem Distinct.sequence {as : List α} (each : ∀ a ∈ as, Distinct f fits a)
    (short : as.length < lengthLimit) :
    Distinct (fun as => feedWord as.length ++ as.flatMap f)
      (fun bs => bs.length < lengthLimit ∧ ∀ b ∈ bs, fits b) as := by
  rintro bs ⟨short', others⟩ r s same
  simp only [List.append_assoc] at same
  obtain ⟨length, same⟩ := distinct_feedWord short _ short' _ _ same
  exact Distinct.flatMap each others length same

end

/- Texts. -/

theorem not_mem_utf8EncodeChar (c : Char) : 0xff ∉ String.utf8EncodeChar c := by
  have byte (n : Nat) : (0xff : UInt8) = UInt8.ofNat n ↔ n % 256 = 255 := by
    rw [← UInt8.toNat_inj, UInt8.toNat_ofNat', eq_comm]
    rfl
  rw [String.utf8EncodeChar]
  repeat' split
  all_goals
    simp only [List.mem_cons, List.not_mem_nil, or_false, byte]
    omega

theorem toList_loop (bs : ByteArray) (i : Nat) (done : List UInt8) :
    ByteArray.toList.loop bs i done = done.reverse ++ bs.data.toList.drop i := by
  fun_induction ByteArray.toList.loop bs i done with
  | case1 i done inside ih =>
    have inside' : i < bs.data.toList.length := inside
    have byte : bs.get! i = bs.data.toList[i] := by simp [ByteArray.get!, inside]
    rw [ih, List.drop_eq_getElem_cons inside', List.reverse_cons, List.append_assoc, byte,
      List.singleton_append]
  | case2 i done outside =>
    rw [List.drop_eq_nil_of_le (Nat.le_of_not_lt outside), List.append_nil]

theorem toList_eq_data (bs : ByteArray) : bs.toList = bs.data.toList := toList_loop bs 0 []

theorem not_mem_toUTF8 (s : String) : 0xff ∉ s.toUTF8.toList := by
  have encoded : s.toUTF8 = s.toList.utf8Encode := by
    rw [← String.toByteArray_ofList, String.ofList_toList]
    rfl
  rw [encoded, toList_eq_data, List.utf8Encode, List.toList_data_toByteArray, List.mem_flatMap]
  rintro ⟨c, -, within⟩
  exact not_mem_utf8EncodeChar c within

theorem toUTF8_inj {s t : String} (same : s.toUTF8.toList = t.toUTF8.toList) : s = t := by
  rw [toList_eq_data, toList_eq_data, Array.toList_inj] at same
  exact String.toByteArray_inj.mp (ByteArray.ext same)

theorem append_cons_inj {α : Type} {x : α} {as bs r s : List α} (left : x ∉ as) (right : x ∉ bs)
    (same : as ++ x :: r = bs ++ x :: s) : as = bs ∧ r = s := by
  induction as generalizing bs with
  | nil =>
    cases bs with
    | nil => exact ⟨rfl, (List.cons.inj same).2⟩
    | cons b bs => exact absurd (List.mem_cons.mpr (.inl (List.cons.inj same).1)) right
  | cons a as ih =>
    cases bs with
    | nil => exact absurd (List.mem_cons.mpr (.inl (List.cons.inj same).1.symm)) left
    | cons b bs =>
      rw [List.mem_cons, not_or] at left right
      obtain ⟨rfl, later⟩ := List.cons.inj same
      obtain ⟨rfl, rest⟩ := ih left.2 right.2 later
      exact ⟨rfl, rest⟩

theorem distinct_feedText (s : String) : Distinct feedText (fun _ => True) s := by
  intro t _ r u same
  simp only [feedText, List.append_assoc, List.singleton_append] at same
  obtain ⟨bytes, rest⟩ := append_cons_inj (not_mem_toUTF8 s) (not_mem_toUTF8 t) same
  exact ⟨toUTF8_inj bytes, rest⟩

theorem distinct_feedName (c : ClassName) :
    Distinct (fun c : ClassName => feedText c.name) (fun _ => True) c := by
  intro d _ r s same
  obtain ⟨name, rest⟩ := distinct_feedText c.name d.name trivial r s same
  exact ⟨ClassName.ext name, rest⟩

/- Values. -/

theorem feedItems_eq (vs : List Value) : feedItems vs = vs.flatMap feed := by
  induction vs with
  | nil => rfl
  | cons v vs ih => rw [feedItems, ih, List.flatMap_cons]

theorem feedEntries_eq (es : List (Value × Value)) :
    feedEntries es = es.flatMap fun e => feed e.1 ++ feed e.2 := by
  induction es with
  | nil => rfl
  | cons e es ih => rw [feedEntries, ih, List.flatMap_cons]

theorem feedFields_eq (fs : List (String × Value)) :
    feedFields fs = fs.flatMap fun f => feedText f.1 ++ feed f.2 := by
  induction fs with
  | nil => rfl
  | cons f fs ih => rw [feedFields, ih, List.flatMap_cons]

theorem feed_array (vs : List Value) :
    feed (.array vs) = 6 :: (feedWord vs.length ++ vs.flatMap feed) := by
  rw [feed, feedItems_eq, List.cons_append]

theorem feed_hash (es : List (Value × Value)) :
    feed (.hash es) = 7 :: (feedWord es.length ++ es.flatMap fun e => feed e.1 ++ feed e.2) := by
  rw [feed, feedEntries_eq, List.cons_append]

theorem feed_object (c : ClassName) (as : List ClassName) (fs : List (String × Value)) :
    feed (.object c as fs) =
      8 :: (feedText c.name ++ ((feedWord as.length ++ as.flatMap fun a => feedText a.name) ++
        (feedWord fs.length ++ fs.flatMap fun f => feedText f.1 ++ feed f.2))) := by
  rw [feed, feedFields_eq, feedNames]
  simp only [List.cons_append, List.append_assoc]

/-- The kind of a value is its first byte. -/
theorem feed_eq_cons (v : Value) : ∃ rest, feed v = UInt8.ofNat v.rank :: rest := by
  cases v <;> exact ⟨_, rfl⟩

theorem rank_lt (v : Value) : v.rank < 9 := by
  cases v <;> simp [rank]

theorem distinct_of_sameKind {v : Value}
    (same : ∀ w, SameKind v w → w.Countable → ∀ r s, feed v ++ r = feed w ++ s → v = w ∧ r = s) :
    Distinct feed Countable v := by
  intro w hw r s equal
  obtain ⟨left, hl⟩ := feed_eq_cons v
  obtain ⟨right, hr⟩ := feed_eq_cons w
  have first : UInt8.ofNat v.rank = UInt8.ofNat w.rank := by
    rw [hl, hr] at equal
    exact (List.cons.inj equal).1
  have ranks : v.rank = w.rank := by
    have codes := congrArg UInt8.toNat first
    have := rank_lt v
    have := rank_lt w
    simp only [UInt8.toNat_ofNat'] at codes
    omega
  exact same w (sameKind_of_rank_eq ranks) hw r s equal

mutual

theorem distinct_feed : ∀ v : Value, v.Countable → Distinct feed Countable v
  | .array vs, short => distinct_of_sameKind fun w kind short' r s same => by
    cases kind with
    | array _ ws =>
      rw [Countable] at short
      rw [Countable, countableItems_iff] at short'
      rw [feed_array, feed_array] at same
      have sequence := Distinct.sequence (distinct_items vs short.2) short.1
      obtain ⟨rfl, rest⟩ := sequence ws short' r s (List.cons.inj same).2
      exact ⟨rfl, rest⟩
  | .hash es, short => distinct_of_sameKind fun w kind short' r s same => by
    cases kind with
    | hash _ fs =>
      rw [Countable] at short
      rw [Countable, countableEntries_iff] at short'
      rw [feed_hash, feed_hash] at same
      have sequence := Distinct.sequence (distinct_entries es short.2) short.1
      obtain ⟨rfl, rest⟩ := sequence fs short' r s (List.cons.inj same).2
      exact ⟨rfl, rest⟩
  | .object c as fs, short => distinct_of_sameKind fun w kind short' r s same => by
    cases kind with
    | object _ d _ bs _ gs =>
      rw [Countable] at short
      rw [Countable, countableFields_iff] at short'
      rw [feed_object, feed_object] at same
      have names := Distinct.sequence (fun a (_ : a ∈ as) => distinct_feedName a) short.1
      have fields := Distinct.sequence (distinct_fields fs short.2.2) short.2.1
      have parts := (distinct_feedText c.name).pair (names.pair fields)
      have suited : ∀ g ∈ gs, True ∧ g.2.Countable := fun g hg => ⟨trivial, short'.2.2 g hg⟩
      obtain ⟨equal, rest⟩ := parts (d.name, bs, gs)
        ⟨trivial, ⟨short'.1, fun _ _ => trivial⟩, short'.2.1, suited⟩ r s (List.cons.inj same).2
      simp only [Prod.mk.injEq] at equal
      obtain ⟨name, rfl, rfl⟩ := equal
      rw [ClassName.ext name]
      exact ⟨rfl, rest⟩
  | .nil, _ => distinct_of_sameKind fun w kind _ r s same => by
    cases kind
    exact ⟨rfl, (List.cons.inj same).2⟩
  | .bool a, _ => distinct_of_sameKind fun w kind _ r s same => by
    cases kind with
    | bool _ b =>
      obtain ⟨byte, rest⟩ := List.cons.inj (List.cons.inj same).2
      refine ⟨congrArg Value.bool ?_, rest⟩
      cases a <;> cases b <;> first | rfl | cases byte
  | .int n, _ => distinct_of_sameKind fun w kind _ r s same => by
    cases kind with
    | int _ m =>
      obtain ⟨word, rest⟩ := distinct_feedWord n.toUInt64.toNat_lt _ m.toUInt64.toNat_lt r s
        (List.cons.inj same).2
      exact ⟨congrArg Value.int (congrArg Int64.ofUInt64 (UInt64.toNat_inj.mp word)), rest⟩
  | .float x, _ => distinct_of_sameKind fun w kind _ r s same => by
    cases kind with
    | float _ y =>
      obtain ⟨word, rest⟩ := distinct_feedWord x.bits.toNat_lt _ y.bits.toNat_lt r s
        (List.cons.inj same).2
      exact ⟨congrArg (fun b => Value.float ⟨b⟩) (UInt64.toNat_inj.mp word), rest⟩
  | .str t, _ => distinct_of_sameKind fun w kind _ r s same => by
    cases kind with
    | str _ u =>
      obtain ⟨rfl, rest⟩ := distinct_feedText t u trivial r s (List.cons.inj same).2
      exact ⟨rfl, rest⟩
  | .sym t, _ => distinct_of_sameKind fun w kind _ r s same => by
    cases kind with
    | sym _ u =>
      obtain ⟨name, rest⟩ := distinct_feedText t.name u.name trivial r s (List.cons.inj same).2
      exact ⟨congrArg (fun n => Value.sym ⟨n⟩) name, rest⟩

theorem distinct_items : ∀ vs : List Value, CountableItems vs →
    ∀ v ∈ vs, Distinct feed Countable v
  | [], _ => fun v hv => absurd hv List.not_mem_nil
  | v :: vs, short => by
    rw [CountableItems] at short
    exact List.forall_mem_cons.mpr ⟨distinct_feed v short.1, distinct_items vs short.2⟩

theorem distinct_entries : ∀ es : List (Value × Value), CountableEntries es →
    ∀ e ∈ es, Distinct (fun e => feed e.1 ++ feed e.2) (fun e => e.1.Countable ∧ e.2.Countable) e
  | [], _ => fun e he => absurd he List.not_mem_nil
  | (k, v) :: es, short => by
    rw [CountableEntries] at short
    have entry := (distinct_feed k short.1.1).pair (distinct_feed v short.1.2)
    exact List.forall_mem_cons.mpr ⟨entry, distinct_entries es short.2⟩

theorem distinct_fields : ∀ fs : List (String × Value), CountableFields fs →
    ∀ f ∈ fs, Distinct (fun f => feedText f.1 ++ feed f.2) (fun f => True ∧ f.2.Countable) f
  | [], _ => fun f hf => absurd hf List.not_mem_nil
  | (n, v) :: fs, short => by
    rw [CountableFields] at short
    have field := (distinct_feedText n).pair (distinct_feed v short.1)
    exact List.forall_mem_cons.mpr ⟨field, distinct_fields fs short.2⟩

end

theorem eq_of_prefix_feed {v w : Value} (left : v.Countable) (right : w.Countable)
    (start : v.feed <+: w.feed) : v = w := by
  obtain ⟨rest, whole⟩ := start
  rw [← List.append_nil (feed w)] at whole
  exact (distinct_feed v left w right rest [] whole).1

/-- Values feed the same, or one the start of the other, if and only if they compare equal. So equal values
hash equally however bytes are taken in, and no two others feed the same. -/
theorem feed_prefix_iff {v w : Value} (left : v.Countable) (right : w.Countable) :
    (v.feed <+: w.feed ↔ v.cmp w = .eq) ∧ (v.feed = w.feed ↔ v.cmp w = .eq) ∧
      ∀ {σ : Type} (step : σ → UInt8 → σ) (start : σ), v.cmp w = .eq →
        v.feed.foldl step start = w.feed.foldl step start := by
  rw [cmp_eq_iff]
  refine ⟨⟨eq_of_prefix_feed left right, ?_⟩, ⟨fun same => ?_, ?_⟩, ?_⟩
  · rintro rfl
    exact List.prefix_rfl
  · have start : v.feed <+: w.feed := same ▸ List.prefix_rfl
    exact eq_of_prefix_feed left right start
  · rintro rfl
    rfl
  · rintro σ step start rfl
    rfl

theorem feed_prefix_iff_shifted :
    let point : ClassName := ⟨"Point", by decide⟩
    let v : Value := .array [.str "ab", .str "c", .object point [point] []]
    let w : Value := .array [.str "a", .str "bc", .object point [] [("Point", .nil)]]
    (v.Countable ∧ w.Countable) ∧ ¬v.feed <+: w.feed ∧ v.feed ≠ w.feed := by
  intro point v w
  have left : v.Countable := by simp [v, Countable, CountableItems, CountableFields, lengthLimit]
  have right : w.Countable := by simp [w, Countable, CountableItems, CountableFields, lengthLimit]
  have apart : v.cmp w ≠ .eq := by
    rw [ne_eq, cmp_eq_iff]
    simp [v, w]
  exact ⟨⟨left, right⟩, mt (feed_prefix_iff left right).1.mp apart,
    mt (feed_prefix_iff left right).2.1.mp apart⟩

end ValueTypes.Value
