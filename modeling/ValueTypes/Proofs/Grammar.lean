import ValueTypes.Ast.Document
import ValueTypes.Proofs.Except
import ValueTypes.Proofs.Primitive

namespace ValueTypes.Ast

inductive Describes : Json → Ast → Prop
  | nominal {s : String} {p : Primitive} (ms : List (String × Json)) (rest : List Json)
    (named : Primitive.named? s = some p) :
    Describes (node "nominal" (.string s :: .object ms :: rest)) (.nominal p (.ofMembers ms))
  | array {j : Json} {m : Ast} (ms : List (String × Json)) (rest : List Json)
    (member : Describes j m) :
    Describes (node "array" (j :: .object ms :: rest)) (.array m (.ofMembers ms))
  | hash (os ms : List (String × Json)) (rest : List Json) :
    Describes (node "hash" (.object os :: .object ms :: rest))
      (.hash (.ofMembers os) (.ofMembers ms))
  | map {j j' : Json} {k v : Ast} (ms : List (String × Json)) (rest : List Json)
    (key : Describes j k) (value : Describes j' v) :
    Describes (node "map" (j :: j' :: .object ms :: rest)) (.map k v (.ofMembers ms))

theorem primitiveOfJson_eq_ok_iff {j : Json} {p : Primitive} :
    primitiveOfJson j = .ok p ↔ ∃ s, j = .string s ∧ Primitive.named? s = some p := by
  cases j <;> simp [primitiveOfJson, Primitive.named_eq_ok_iff]

theorem optionsOfJson_eq_ok_iff {j : Json} {m : OptionMap} :
    optionsOfJson j = .ok m ↔ ∃ ms, j = .object ms ∧ m = .ofMembers ms := by
  cases j <;> simp [optionsOfJson, eq_comm]

/- The cases are those of the reader: one for each tag, then the four kinds of faults of a node. -/
theorem describes_of_ofJson {j : Json} {a : Ast} (accepted : ofJson j = .ok a) : Describes j a := by
  fun_induction ofJson j generalizing a with
  | case1 p ns rest =>
    simp only [bind_eq_ok_iff, primitiveOfJson_eq_ok_iff, optionsOfJson_eq_ok_iff,
      pure_eq_ok_iff] at accepted
    obtain ⟨p, ⟨s, rfl, named⟩, _, ⟨ms, rfl, rfl⟩, rfl⟩ := accepted
    exact .nominal ms rest named
  | case2 m ns rest ih =>
    simp only [bind_eq_ok_iff, optionsOfJson_eq_ok_iff, pure_eq_ok_iff] at accepted
    obtain ⟨m, member, _, ⟨ms, rfl, rfl⟩, rfl⟩ := accepted
    exact .array ms rest (ih member)
  | case3 options ns rest =>
    simp only [bind_eq_ok_iff, optionsOfJson_eq_ok_iff, pure_eq_ok_iff] at accepted
    obtain ⟨_, ⟨os, rfl, rfl⟩, _, ⟨ms, rfl, rfl⟩, rfl⟩ := accepted
    exact .hash os ms rest
  | case4 k v ns rest ihk ihv =>
    simp only [bind_eq_ok_iff, optionsOfJson_eq_ok_iff, pure_eq_ok_iff] at accepted
    obtain ⟨k, key, v, value, _, ⟨ms, rfl, rfl⟩, rfl⟩ := accepted
    exact .map ms rest (ihk key) (ihv value)
  | case5 => nomatch accepted
  | case6 => nomatch accepted
  | case7 => nomatch accepted
  | case8 => nomatch accepted

theorem ofJson_of_describes {j : Json} {a : Ast} (h : Describes j a) : ofJson j = .ok a := by
  induction h with
  | nominal ms rest named =>
    rw [node, ofJson]
    simp only [bind_eq_ok_iff, primitiveOfJson_eq_ok_iff, optionsOfJson_eq_ok_iff, pure_eq_ok_iff]
    exact ⟨_, ⟨_, rfl, named⟩, _, ⟨ms, rfl, rfl⟩, rfl⟩
  | array ms rest member ih =>
    rw [node, ofJson]
    simp only [bind_eq_ok_iff, optionsOfJson_eq_ok_iff, pure_eq_ok_iff]
    exact ⟨_, ih, _, ⟨ms, rfl, rfl⟩, rfl⟩
  | hash os ms rest =>
    rw [node, ofJson]
    simp only [bind_eq_ok_iff, optionsOfJson_eq_ok_iff, pure_eq_ok_iff]
    exact ⟨_, ⟨os, rfl, rfl⟩, _, ⟨ms, rfl, rfl⟩, rfl⟩
  | map ms rest key value ihk ihv =>
    rw [node, ofJson]
    simp only [bind_eq_ok_iff, optionsOfJson_eq_ok_iff, pure_eq_ok_iff]
    exact ⟨_, ihk, _, ihv, _, ⟨ms, rfl, rfl⟩, rfl⟩

theorem ofJson_eq_ok_iff {j : Json} {a : Ast} : ofJson j = .ok a ↔ Describes j a :=
  ⟨describes_of_ofJson, ofJson_of_describes⟩

end ValueTypes.Ast
