import ValueTypes.Command
import ValueTypes.Proofs.Grammar

namespace ValueTypes.Ast

/-- The second document is the first with entries added to the payloads of some of its nodes. -/
inductive Extended : Json → Json → Prop
  | unchanged (j : Json) : Extended j j
  | node (tag : String) (payload added : List Json) :
    Extended (node tag payload) (node tag (payload ++ added))
  | array {m m' : Json} (rest added : List Json) (member : Extended m m') :
    Extended (node "array" (m :: rest)) (node "array" (m' :: (rest ++ added)))
  | map {k k' v v' : Json} (rest added : List Json) (key : Extended k k') (value : Extended v v') :
    Extended (node "map" (k :: v :: rest)) (node "map" (k' :: v' :: (rest ++ added)))

theorem node_inj {tag tag' : String} {payload payload' : List Json}
    (same : node tag payload = node tag' payload') : tag = tag' ∧ payload = payload' := by
  simpa [node] using same

/- No rule looks at the end of a payload. -/

theorem describes_append {tag : String} {payload : List Json} {a : Ast}
    (described : Describes (node tag payload) a) (added : List Json) :
    Describes (node tag (payload ++ added)) a := by
  generalize whole : node tag payload = j at described
  cases described with
  | nominal ms rest named =>
    obtain ⟨rfl, rfl⟩ := node_inj whole
    exact .nominal ms (rest ++ added) named
  | array ms rest member =>
    obtain ⟨rfl, rfl⟩ := node_inj whole
    exact .array ms (rest ++ added) member
  | hash os ms rest =>
    obtain ⟨rfl, rfl⟩ := node_inj whole
    exact .hash os ms (rest ++ added)
  | map ms rest key value =>
    obtain ⟨rfl, rfl⟩ := node_inj whole
    exact .map ms (rest ++ added) key value

theorem describes_array {j : Json} {payload : List Json} {a : Ast}
    (described : Describes (node "array" (j :: payload)) a) :
    ∃ m ms rest, payload = .object ms :: rest ∧ Describes j m ∧ a = .array m (.ofMembers ms) := by
  generalize whole : node "array" (j :: payload) = d at described
  cases described with
  | array ms rest member =>
    obtain ⟨-, parts⟩ := node_inj whole
    cases parts
    exact ⟨_, ms, rest, rfl, member, rfl⟩
  | _ => exact absurd (node_inj whole).1 (by decide)

theorem describes_map {j j' : Json} {payload : List Json} {a : Ast}
    (described : Describes (node "map" (j :: j' :: payload)) a) :
    ∃ k v ms rest, payload = .object ms :: rest ∧ Describes j k ∧ Describes j' v ∧
      a = .map k v (.ofMembers ms) := by
  generalize whole : node "map" (j :: j' :: payload) = d at described
  cases described with
  | map ms rest key value =>
    obtain ⟨-, parts⟩ := node_inj whole
    cases parts
    exact ⟨_, _, ms, rest, rfl, key, value, rfl⟩
  | _ => exact absurd (node_inj whole).1 (by decide)

theorem describes_of_extended {j j' : Json} {a : Ast} (extended : Extended j j')
    (described : Describes j a) : Describes j' a := by
  induction extended generalizing a with
  | unchanged j => exact described
  | node tag payload added => exact describes_append described added
  | array rest added member ih =>
    obtain ⟨m, ms, rest, rfl, inner, rfl⟩ := describes_array described
    exact .array ms (rest ++ added) (ih inner)
  | map rest added key value ihk ihv =>
    obtain ⟨k, v, ms, rest, rfl, at_key, at_value, rfl⟩ := describes_map described
    exact .map ms (rest ++ added) (ihk at_key) (ihv at_value)

/-- What is added to a document that is accepted changes neither its description nor the type built
from it. -/
theorem extension_harmless {j j' : Json} {a : Ast} (accepted : ofJson j = .ok a)
    (extended : Extended j j') :
    ofJson j' = .ok a ∧ (Command.compileJson j).2 = .ok a.compile ∧
      Command.compileJson j' = Command.compileJson j := by
  have described := describes_of_extended extended (ofJson_eq_ok_iff.mp accepted)
  have accepted' : ofJson j' = .ok a := ofJson_eq_ok_iff.mpr described
  refine ⟨accepted', ?_, ?_⟩
  · rw [Command.compileJson, accepted]
  · rw [Command.compileJson, Command.compileJson, accepted, accepted']

theorem extension_harmless_scores :
    ofJson (node "map" [node "nominal" [.string "String", .object []],
        node "array" [node "nominal" [.string "Integer", .object []], .object []], .object []]) =
      .ok (.map (.nominal (.builtin .string) .empty)
        (.array (.nominal (.builtin .integer) .empty) .empty) .empty) ∧
    ofJson (node "map" [node "nominal" [.string "String", .object [], .object []],
        node "array" [node "nominal" [.string "Integer", .object []], .object [],
          node "nominal" [.string "Float", .object []]], .object [], .null]) =
      .ok (.map (.nominal (.builtin .string) .empty)
        (.array (.nominal (.builtin .integer) .empty) .empty) .empty) := by
  have accepted : ofJson (node "map" [node "nominal" [.string "String", .object []],
      node "array" [node "nominal" [.string "Integer", .object []], .object []], .object []]) =
    .ok (.map (.nominal (.builtin .string) .empty)
      (.array (.nominal (.builtin .integer) .empty) .empty) .empty) := rfl
  refine ⟨accepted, (extension_harmless accepted ?_).1⟩
  exact .map [.object []] [.null] (.node "nominal" [.string "String", .object []] [.object []])
    (.array [.object []] [node "nominal" [.string "Float", .object []]] (.unchanged _))

end ValueTypes.Ast
