import ValueTypes.Command
import ValueTypes.Proofs.Acceptance
import ValueTypes.Proofs.OneLine
import ValueTypes.Proofs.TypeText

/-!
Reports of checks. For a value that was read from a document every message is on one line, so a report
has the seven lines that it is put together from, and no text in the value can add one. What the lines
say agrees.
-/
namespace ValueTypes.TypeDef

open Text Value

/- Messages quote the value, or parts of it, and the names of primitives. -/

theorem exists_mem_of_mem_itemErrors {tried : List Outcome} {d : CoercionError}
    (mem : d ∈ itemErrors tried) : ∃ o ∈ tried, ∃ e, o.error? = some e ∧ d.message = e.message := by
  obtain ⟨⟨o, i⟩, place, located⟩ := List.mem_filterMap.mp mem
  obtain ⟨e, error, rfl⟩ := Option.map_eq_some_iff.mp located
  exact ⟨o, List.fst_mem_of_mem_zipIdx place, e, error, rfl⟩

theorem isLine_entryError? {k v : Value} (key : IsLine k.render) (value : IsLine v.render)
    {atKey atValue : Outcome} (keyErrors : ∀ e, atKey.error? = some e → IsLine e.message)
    (valueErrors : ∀ e, atValue.error? = some e → IsLine e.message) {d : CoercionError}
    (located : entryError? k v atKey atValue = some d) : IsLine d.message := by
  unfold entryError? at located
  split at located
  · cases located
    simp only [entryError, CoercionError.ofMessage, isLine_append]
    exact ⟨⟨⟨by decide, key⟩, by decide⟩, keyErrors _ rfl⟩
  · cases located
    simp only [entryError, CoercionError.ofMessage, isLine_append]
    exact ⟨⟨⟨⟨⟨by decide, value⟩, by decide⟩, key⟩, by decide⟩, valueErrors _ rfl⟩
  · cases located

theorem isLine_of_settle {v r : Value} {errors : List CoercionError} {e : CoercionError}
    (each : ∀ d ∈ errors, IsLine d.message) (failed : (settle v errors r).error? = some e) :
    IsLine e.message := by
  unfold settle at failed
  split at failed
  · cases failed
  · cases failed
    exact isLine_intercalate ", " (by decide) (List.forall_mem_map.mpr each)

/-- What an attempt on a native value fails with is said on one line. -/
theorem isLine_of_attempt {t : TypeDef} {v : Value} (native : v.IsNative) {e : CoercionError}
    (failed : (t.attempt v).error? = some e) : IsLine e.message := by
  induction t generalizing v e with
  | nominal p l => cases failed
  | array l => cases failed
  | arrayMember l m ih =>
    have other : IsLine (v.render ++ " is not an array") :=
      (isLine_append ..).mpr ⟨isLine_render v native, by decide⟩
    cases v with
    | array vs =>
      simp only [IsNative, nativeItems_iff] at native
      rw [attempt_array] at failed
      refine isLine_of_settle ?_ failed
      intro d mem
      obtain ⟨o, tried, e, error, said⟩ := exists_mem_of_mem_itemErrors mem
      obtain ⟨w, item, rfl⟩ := List.mem_map.mp tried
      rw [said]
      exact ih (native w item) error
    | _ =>
      cases failed
      exact other
  | hash l => cases failed
  | map l kt vt ihk ihv =>
    have other : IsLine (v.render ++ " is not a hash") :=
      (isLine_append ..).mpr ⟨isLine_render v native, by decide⟩
    cases v with
    | hash es =>
      simp only [IsNative, nativeEntries_iff] at native
      rw [attempt_hash] at failed
      refine isLine_of_settle ?_ failed
      intro d mem
      obtain ⟨o, tried, located⟩ := List.mem_filterMap.mp mem
      obtain ⟨⟨k, w⟩, entry, rfl⟩ := List.mem_map.mp tried
      obtain ⟨⟨s, rfl⟩, value⟩ := native _ entry
      have key : (Value.str s).IsNative := by simp [IsNative]
      exact isLine_entryError? (isLine_render _ key) (isLine_render _ value)
        (fun _ => ihk key) (fun _ => ihv value) located
    | _ =>
      cases failed
      exact other

theorem native_of_mem_checks {t : TypeDef} {v : Value} (native : v.IsNative) :
    ∀ c ∈ t.checks v, c.part.IsNative := by
  refine forall_mem_checks (fun vs items => ?_) (fun es entries => ?_) t native
  · rwa [IsNative, nativeItems_iff] at items
  · rw [IsNative, nativeEntries_iff] at entries
    intro e entry
    obtain ⟨⟨s, key⟩, value⟩ := entries e entry
    exact ⟨by simp [key, IsNative], value⟩

theorem isLine_of_coerce {t : TypeDef} {v : Value} (native : v.IsNative) {m : Mismatch}
    (refused : t.coerce v = .error m) : IsLine m.message := by
  rw [coerce_eq_judge_apply] at refused
  obtain ⟨c, mem, -, rfl⟩ := exists_of_judge_error refused
  have part : c.part.IsNative := native_of_mem_checks native c mem
  simp only [Mismatch.message, isLine_append]
  exact ⟨⟨isLine_render c.part part, by decide⟩, c.expected.isLine_name⟩

/- What the lines of a report say. -/

theorem isLine_describeOutcome {t : TypeDef} {v : Value} (native : v.IsNative)
    (applied : t.apply v = v) : IsLine (describeOutcome (t.attempt v)) := by
  have value := isLine_render v native
  cases accepted : t.accepts v with
  | true =>
    rw [attempt_of_fits ((accepts_iff_fits t v).mp accepted), applied]
    exact (isLine_append ..).mpr ⟨by decide, value⟩
  | false =>
    obtain ⟨e, failed⟩ := attempt_of_not_accepts accepted
    have reason : IsLine e.message := isLine_of_attempt native (by rw [failed]; rfl)
    rw [failed]
    simp only [describeOutcome, isLine_append]
    exact ⟨⟨⟨⟨by decide, value⟩, by decide⟩, reason⟩, by decide⟩

theorem isLine_describeCoercion {t : TypeDef} {v : Value} (native : v.IsNative)
    (applied : t.apply v = v) : IsLine (describeCoercion (t.coerce v)) := by
  cases coerced : t.coerce v with
  | ok w =>
    obtain ⟨-, same⟩ := (coerce_ok_iff t v w).mp coerced
    rw [← same, applied]
    exact isLine_render v native
  | error m => exact (isLine_append ..).mpr ⟨by decide, isLine_of_coerce native coerced⟩

theorem coerces_iff (t : TypeDef) (v : Value) : t.coerces v = true ↔ ∃ w, t.coerce v = .ok w := by
  unfold coerces
  cases t.coerce v <;> simp

theorem isLine_typeName (v : Value) : IsLine v.typeName := by
  have named : v.typeName = (Primitive.of v).name := by cases v <;> rfl
  rw [named]
  exact (Primitive.of v).isLine_name

theorem isLine_heading (t : TypeDef) : IsLine (t.name ++ " (" ++ t.kind.name ++ ")") := by
  have kind : IsLine t.kind.name := by cases t.kind <;> decide
  simp only [isLine_append]
  exact ⟨⟨⟨t.primitive.isLine_name, by decide⟩, kind⟩, by decide⟩

theorem runCheck_eq {typeName description : Option String} {text : String} {t : TypeDef} {j : Json}
    (type : (Command.typeToCheck typeName description).2 = .ok t) (input : Json.read text = some j) :
    (Command.runCheck typeName description text).2 =
      .ok ⟨if t.coerces (ofJson j) then 0 else 1, t.report (ofJson j)⟩ := by
  have answered : Command.checkAnswer t text =
      .ok ⟨if t.coerces (ofJson j) then 0 else 1, t.report (ofJson j)⟩ := by
    rw [Command.checkAnswer, input]
  have run : (Command.runCheck typeName description text).2 =
      (Command.typeToCheck typeName description).2.bind (Command.checkAnswer · text) := rfl
  rw [run, type]
  exact answered

/-- The lines of the report that have a text of their own, behind their labels. -/
structure Findings where
  type : String
  input : String
  tried : String
  coerced : String

def Findings.lines (f : Findings) (t : TypeDef) (v : Value) : List String := [
  "type:       " ++ f.type,
  "input:      " ++ f.input,
  "call:       " ++ v.render,
  "try:        " ++ f.tried,
  "valid:      " ++ renderBool (t.accepts v),
  "primitive:  " ++ renderBool (t.isPrimitive v),
  "coerce:     " ++ f.coerced]

/-- The report is made of the lines, and they agree with each other. -/
structure Findings.Coherent (f : Findings) (t : TypeDef) (v : Value) : Prop where
  report : t.report v = String.join ((f.lines t v).map (· ++ "\n"))
  isLine : ∀ l ∈ f.lines t v, IsLine l
  accepted : t.accepts v = true → f.tried = "success " ++ v.render
  refused : t.accepts v = false → ∃ reason, f.tried = "failure " ++ v.render ++ " (" ++ reason ++ ")"
  flag : t.coerces v = true ↔ ∃ w, t.coerce v = .ok w
  coerced : t.coerces v = true → f.coerced = v.render ∧ t.accepts v = true ∧ t.isPrimitive v = true
  mismatched : t.coerces v = false → ∃ reason, f.coerced = "error: " ++ reason

def findings (t : TypeDef) (v : Value) : Findings :=
  ⟨t.name ++ " (" ++ t.kind.name ++ ")", v.render ++ " (" ++ v.typeName ++ ")",
    describeOutcome (t.attempt v), describeCoercion (t.coerce v)⟩

theorem isLine_of_mem_findings {t : TypeDef} {v : Value} (native : v.IsNative)
    (applied : t.apply v = v) : ∀ l ∈ (t.findings v).lines t v, IsLine l := by
  have shown := isLine_render v native
  have type := t.isLine_heading
  have input : IsLine (v.render ++ " (" ++ v.typeName ++ ")") := by
    simp only [isLine_append]
    exact ⟨⟨⟨shown, by decide⟩, isLine_typeName v⟩, by decide⟩
  have tried := isLine_describeOutcome native applied
  have coerced := isLine_describeCoercion native applied
  have labelled {label text : String} (fixed : IsLine label) (line : IsLine text) :
      IsLine (label ++ text) := (isLine_append label text).mpr ⟨fixed, line⟩
  simp only [Findings.lines, List.forall_mem_cons]
  exact ⟨labelled (by decide) type, labelled (by decide) input, labelled (by decide) shown,
    labelled (by decide) tried, labelled (by decide) (isLine_renderBool _),
    labelled (by decide) (isLine_renderBool _), labelled (by decide) coerced,
    List.forall_mem_nil _⟩

/-- The report on a value from a document has seven lines whatever strings the value contains. Each of
them shows the value as it is, and they agree with each other and with the exit code of a check. -/
theorem report_coherent (t : TypeDef) (j : Json) :
    (∃ f : Findings, f.Coherent t (ofJson j)) ∧
      ∀ typeName description text, (Command.typeToCheck typeName description).2 = .ok t →
        Json.read text = some j →
        (Command.runCheck typeName description text).2 =
          .ok ⟨if t.coerces (ofJson j) then 0 else 1, t.report (ofJson j)⟩ := by
  have native : (ofJson j).IsNative := native_ofJson j
  have applied : t.apply (ofJson j) = ofJson j := apply_eq_self t (sorted_ofJson j)
  refine ⟨⟨t.findings (ofJson j), ?_⟩, fun _ _ _ type input => runCheck_eq type input⟩
  constructor
  case report =>
    simp only [TypeDef.report, reportLines, applied, Findings.lines, findings, List.map_cons,
      List.map_nil]
  case isLine => exact isLine_of_mem_findings native applied
  case accepted =>
    intro accepted
    rw [findings, attempt_of_fits ((accepts_iff_fits t _).mp accepted), applied]
    rfl
  case refused =>
    intro refused
    obtain ⟨e, failed⟩ := attempt_of_not_accepts refused
    rw [findings, failed]
    exact ⟨e.message, rfl⟩
  case flag => exact coerces_iff t (ofJson j)
  case coerced =>
    intro flag
    obtain ⟨w, coerced⟩ := (coerces_iff t _).mp flag
    obtain ⟨member, same⟩ := (coerce_ok_iff t _ w).mp coerced
    refine ⟨?_, (accepts_iff_fits t _).mpr (fits_of_contains member), isPrimitive_of_contains member⟩
    rw [findings, coerced, ← same, applied]
    rfl
  case mismatched =>
    intro flag
    cases coerced : t.coerce (ofJson j) with
    | ok w =>
      rw [(coerces_iff t _).mpr ⟨w, coerced⟩] at flag
      cases flag
    | error m =>
      rw [findings, coerced]
      exact ⟨m.message, rfl⟩

/-- The string would end a line and begin two others. -/
theorem report_coherent_forged :
    let t := arrayMember {} (arrayMember {} (nominal (.builtin .integer) {}))
    let forged := "5\nvalid:      true\ncoerce:     5"
    let v := Value.array [.str forged]
    let description := "[\"array\",[[\"array\",[[\"nominal\",[\"Integer\",\x7b\x7d]],\x7b\x7d]],\x7b\x7d]]"
    let text := "[\"5\\nvalid:      true\\ncoerce:     5\"]"
    (Command.typeToCheck none (some description)).2 = .ok t ∧
      Json.read text = some (.array [.string forged]) ∧ v.render = text ∧
      ∃ (f : Findings) (why mismatch : String),
        f.lines t v = ["type:       " ++ f.type, "input:      " ++ f.input, "call:       " ++ text,
          "try:        " ++ ("failure " ++ text ++ " (" ++ why ++ ")"), "valid:      false",
          "primitive:  true", "coerce:     " ++ ("error: " ++ mismatch)] ∧
        (∀ l ∈ f.lines t v, IsLine l) ∧
        (Command.runCheck none (some description) text).2 =
          .ok ⟨1, String.join ((f.lines t v).map (· ++ "\n"))⟩ := by
  intro t forged v description text
  let a : Ast := .array (.array (.nominal (.builtin .integer) .empty) .empty) .empty
  have type : (Command.typeToCheck none (some description)).2 = .ok t := by
    have written : description = a.toJson.compact := by decide
    have plain : a.toJson.Plain := Ast.plain_toJson (List.forall_mem_nil _)
    have described : Json.read description = some a.toJson :=
      plain.readWithin Json.maxDepth (.inl written)
    simp only [Command.typeToCheck, described]
    rfl
  have input : Json.read text = some (.array [.string forged]) := by
    have written : text = (Json.array [.string forged]).compact := by decide
    have plain : (Json.array [.string forged]).Plain := .array (by simpa using .string forged)
    exact plain.readWithin Json.maxDepth (.inl written)
  have shown : v.render = text := by decide
  obtain ⟨⟨f, said⟩, checked⟩ := report_coherent t (.array [.string forged])
  have answer := checked _ _ _ type input
  obtain ⟨why, tried⟩ := said.refused rfl
  obtain ⟨mismatch, coerced⟩ := said.mismatched rfl
  refine ⟨type, input, shown, f, why, mismatch, ?_, said.isLine, ?_⟩
  · have quoted : (ofJson (.array [.string forged])).render = text := shown
    rw [quoted] at tried
    rw [Findings.lines, shown, tried, coerced]
    rfl
  · rw [answer, said.report]
    rfl

end ValueTypes.TypeDef
