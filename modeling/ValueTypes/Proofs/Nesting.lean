import ValueTypes.Json.Printer
import ValueTypes.Json.Reader
import ValueTypes.Proofs.Entries

namespace ValueTypes.Json

/-- Whole numbers only, and members in ascending order, at every depth. -/
inductive Plain : Json → Prop
  | null : Plain .null
  | bool (b : Bool) : Plain (.bool b)
  | whole (n : Int) (low : -0x8000000000000000 ≤ n) (high : n < 0x10000000000000000) :
    Plain (.number (.int n low high))
  | string (s : String) : Plain (.string s)
  | array {items : List Json} (parts : ∀ j ∈ items, Plain j) : Plain (.array items)
  | object {ms : List (String × Json)} (ascending : Entries.Ascending compare ms)
    (parts : ∀ m ∈ ms, Plain m.2) : Plain (.object ms)

theorem plain_ofMembers {ms : List (String × Json)} (parts : ∀ m ∈ ms, m.2.Plain) :
    (ofMembers ms).Plain :=
  .object (Entries.ascending_ofList ms) fun m hm => parts m (Entries.mem_of_mem_ofList hm)

theorem itemTokens_eq_map (js : List Json) : itemTokens js = js.map tokens := by
  induction js with
  | nil => rfl
  | cons j js ih => rw [itemTokens, ih, List.map_cons]

def tokensOfMember (m : String × Json) : List Token := .string m.1 :: .colon :: m.2.tokens

theorem memberTokens_eq_map (ms : List (String × Json)) : memberTokens ms = ms.map tokensOfMember := by
  induction ms with
  | nil => rfl
  | cons m ms ih => rw [memberTokens, ih, List.map_cons, tokensOfMember]

namespace Reader

def run (limit : Nat) (r : Reader) (ts : List Token) : Option Reader := ts.foldlM (step limit) r

theorem run_cons (limit : Nat) (r : Reader) (t : Token) (ts : List Token) :
    run limit r (t :: ts) = (step limit r t).bind fun r => run limit r ts :=
  List.foldlM_cons

theorem run_append (limit : Nat) (r : Reader) (ts us : List Token) :
    run limit r (ts ++ us) = (run limit r ts).bind fun r => run limit r us :=
  List.foldlM_append

theorem step_value (limit : Nat) (closable : Bool) (fs : List Frame) (t : Token)
    (starts : t ≠ .arrayClose) : step limit (.value closable fs) t = start limit fs t := by
  simp only [step]
  split
  · exact absurd rfl starts
  · rfl

/-- Where a value may stand, its tokens are read as that value if the levels still open leave room
for its own, and are refused otherwise. -/
def Reads (limit : Nat) (j : Json) : Prop :=
  ∀ closable fs, fs.length ≤ limit →
    run limit (.value closable fs) j.tokens =
      if fs.length + j.depth ≤ limit then some (.after j fs) else none

/- The parts of an array or object: what is read of one part decides what is read of all. -/
section Parts

variable {α σ : Type} {limit level : Nat} {tokens : α → List Token} {depth : α → Nat}
  (before : Bool → σ → Reader) (behind : α → σ → Reader) (add : σ → α → σ) (closed : σ → Reader)
  (last : Token)

theorem run_parts (x : α) (xs : List α) (closable : Bool) (s : σ)
    (part : ∀ y ∈ x :: xs, ∀ closable s, run limit (before closable s) (tokens y) =
      if level + depth y ≤ limit then some (behind y s) else none)
    (next : ∀ y s, step limit (behind y s) .comma = some (before false (add s y)))
    (close : ∀ y s, step limit (behind y s) last = some (closed (add s y))) :
    run limit (before closable s) ([Token.comma].intercalate ((x :: xs).map tokens) ++ [last]) =
      if ∀ y ∈ x :: xs, level + depth y ≤ limit
      then some (closed ((x :: xs).foldl add s)) else none := by
  obtain ⟨first, others⟩ := List.forall_mem_cons.mp part
  induction xs generalizing x closable s with
  | nil =>
    have single : [Token.comma].intercalate ([x].map tokens) = tokens x := by
      simp [List.intercalate]
    rw [single, run_append, first]
    by_cases deep : level + depth x ≤ limit
    · simp [deep, run, close]
    · simp [deep]
  | cons y xs ih =>
    have split : [Token.comma].intercalate ((x :: y :: xs).map tokens) =
        tokens x ++ .comma :: [Token.comma].intercalate ((y :: xs).map tokens) := by
      simp [List.intercalate]
    obtain ⟨second, later⟩ := List.forall_mem_cons.mp others
    have rest := ih y false (add s x) others second later
    rw [split, List.append_assoc, run_append, first]
    by_cases deep : level + depth x ≤ limit
    · rw [if_pos deep, Option.bind_some, List.cons_append, run_cons, next, Option.bind_some, rest]
      simp only [List.forall_mem_cons, deep, true_and, List.foldl_cons]
    · simp [deep]

end Parts

/-- An array or object is refused at its first token if there is no room for a level more. -/
theorem run_open {limit : Nat} {t : Token} {fs : List Frame} {opened closed : Reader}
    {ts : List Token} {levels : Nat} (closable : Bool) (other : t ≠ .arrayClose)
    (opens : start limit fs t = if fs.length < limit then some opened else none)
    (inside : fs.length < limit → run limit opened ts =
      if fs.length + (levels + 1) ≤ limit then some closed else none) :
    run limit (.value closable fs) (t :: ts) =
      if fs.length + (levels + 1) ≤ limit then some closed else none := by
  rw [run_cons, step_value limit closable fs t other, opens]
  by_cases room : fs.length < limit
  · rw [if_pos room, Option.bind_some, inside room]
  · have full : ¬fs.length + (levels + 1) ≤ limit := by omega
    rw [if_neg room, if_neg full, Option.bind_none]

theorem fits_items_iff {level limit : Nat} (room : level < limit) (js : List Json) :
    level + (depthOfItems js + 1) ≤ limit ↔ ∀ j ∈ js, level + 1 + j.depth ≤ limit := by
  induction js with
  | nil => simp [depthOfItems, Nat.succ_le_of_lt room]
  | cons j js ih =>
    rw [depthOfItems, List.forall_mem_cons, ← ih]
    omega

theorem depthOfMembers_eq (ms : List (String × Json)) :
    depthOfMembers ms = depthOfItems (ms.map (·.2)) := by
  induction ms with
  | nil => rfl
  | cons m ms ih => rw [depthOfMembers, ih, List.map_cons, depthOfItems]

theorem fits_members_iff {level limit : Nat} (room : level < limit) (ms : List (String × Json)) :
    level + (depthOfMembers ms + 1) ≤ limit ↔ ∀ m ∈ ms, level + 1 + m.2.depth ≤ limit := by
  rw [depthOfMembers_eq, fits_items_iff room, List.forall_mem_map]

theorem reads_array {limit : Nat} {items : List Json} (parts : ∀ j ∈ items, Reads limit j) :
    Reads limit (.array items) := by
  intro closable fs _
  rw [tokens, itemTokens_eq_map, List.cons_append, depth]
  refine run_open closable nofun rfl fun inside => ?_
  have fits := fits_items_iff inside items
  cases items with
  | nil =>
    rw [if_pos (fits.mpr nofun)]
    rfl
  | cons j js =>
    have read := run_parts (fun closable acc => .value closable (.items acc :: fs))
      (fun j acc => .after j (.items acc :: fs)) (fun acc j => j :: acc)
      (fun acc => .after (.array acc.reverse) fs) .arrayClose j js true []
      (fun k hk closable acc => parts k hk closable (.items acc :: fs) inside)
      (fun _ _ => rfl) (fun _ _ => rfl)
    have collected : (j :: js).foldl (fun acc j => j :: acc) [] = (j :: js).reverse := by simp
    simp only [collected, List.reverse_reverse] at read
    simp only [fits]
    exact read

theorem reads_member {limit : Nat} {m : String × Json} (value : Reads limit m.2) (closable : Bool)
    (ms : List (String × Json)) {fs : List Frame} (inside : fs.length < limit) :
    run limit (.name closable ms fs) (tokensOfMember m) =
      if fs.length + 1 + m.2.depth ≤ limit then some (.after m.2 (.members ms m.1 :: fs))
      else none := by
  have named : step limit (.name closable ms fs) (.string m.1) = some (.colon ms m.1 fs) := by
    cases closable <;> rfl
  have divided : step limit (.colon ms m.1 fs) .colon = some (.value false (.members ms m.1 :: fs)) :=
    rfl
  rw [tokensOfMember, run_cons, named, Option.bind_some, run_cons, divided, Option.bind_some]
  exact value false (.members ms m.1 :: fs) inside

theorem reads_object {limit : Nat} {ms : List (String × Json)}
    (ascending : Entries.Ascending compare ms) (parts : ∀ m ∈ ms, Reads limit m.2) :
    Reads limit (.object ms) := by
  intro closable fs _
  rw [tokens, memberTokens_eq_map, List.cons_append, depth]
  refine run_open closable nofun rfl fun inside => ?_
  have fits := fits_members_iff inside ms
  cases ms with
  | nil =>
    rw [if_pos (fits.mpr nofun)]
    rfl
  | cons m ms =>
    have read := run_parts (fun closable ms => .name closable ms fs)
      (fun m ms => .after m.2 (.members ms m.1 :: fs))
      (fun ms m => Entries.insert compare m.1 m.2 ms) (fun ms => .after (.object ms) fs)
      .objectClose m ms true []
      (fun n hn closable ms => reads_member (parts n hn) closable ms inside)
      (fun _ _ => rfl) (fun _ _ => rfl)
    -- Members that ascend are gathered in the order they come in.
    have collected : (m :: ms).foldl (fun ms m => Entries.insert compare m.1 m.2 ms) [] = m :: ms :=
      Entries.ofList_eq_self ascending
    simp only [collected] at read
    simp only [fits]
    exact read

theorem reads_scalar {limit : Nat} {j : Json} {t : Token} (single : j.tokens = [t])
    (flat : j.depth = 0) (starts : ∀ fs, start limit fs t = some (.after j fs)) : Reads limit j := by
  intro closable fs room
  have other : t ≠ .arrayClose := by
    rintro rfl
    nomatch starts []
  have fits : fs.length + j.depth ≤ limit := by omega
  rw [single, run_cons, step_value limit closable fs t other, starts, if_pos fits]
  rfl

end Reader

open Reader in
theorem Plain.reads {j : Json} (plain : Plain j) (limit : Nat) : Reads limit j := by
  induction plain with
  | null => exact reads_scalar rfl rfl fun _ => rfl
  | bool b => exact reads_scalar rfl rfl fun _ => rfl
  | whole n low high => exact reads_scalar rfl rfl fun _ => rfl
  | string s => exact reads_scalar rfl rfl fun _ => rfl
  | array _ ih => exact reads_array ih
  | object ascending _ ih => exact reads_object ascending ih

theorem Plain.ofTokens? {j : Json} (plain : Plain j) (limit : Nat) :
    ofTokens? limit j.tokens = if j.depth ≤ limit then some j else none := by
  have read := plain.reads limit false [] (Nat.zero_le limit)
  rw [Json.ofTokens?, ← Reader.run, read, List.length_nil, Nat.zero_add]
  split <;> rfl

end ValueTypes.Json
