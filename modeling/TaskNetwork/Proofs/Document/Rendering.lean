import TaskNetwork.Document.Basic
import TaskNetwork.Proofs.CommandLine.Files
import TaskNetwork.Proofs.CommandLine.Reading
import TaskNetwork.Proofs.Induction
import TaskNetwork.Proofs.Json.RoundTrip
import TaskNetwork.Proofs.Term.Elements

/-!
# The text of documents

Documents hold no numbers and have their keys in order, so the text of a document is read back as
long as its nesting is within the limit of the reader, and is refused for its depth otherwise.
-/

namespace TaskNetwork

open Json

theorem Json.plain_strings (items : List String) : (Json.strings items).Plain :=
  .arr (by simpa using fun s _ => Plain.str s)

theorem Json.Plain.arr_map {α : Type} {xs : List α} {node : α → Json}
    (h : ∀ x ∈ xs, (node x).Plain) : (Json.arr (xs.map node)).Plain :=
  .arr (by simpa using h)

theorem Fault.plain_node (f : Fault) : f.node.Plain :=
  .obj (by grind) (by simpa using ⟨.str _, .str _⟩)

namespace Encoder

variable (enc : Encoder)

theorem plain_named (name kind : String) : (named name kind).Plain :=
  .obj (by grind) (by simpa using ⟨.str _, .str _⟩)

theorem plain_variableNodes (indices : List Nat) : (enc.variableNodes indices).Plain :=
  .arr_map fun index _ => plain_named (enc.variableName index) "Variable"

/-- What is written in place of something that lies too deep is plain as well. -/
theorem plain_written {depth : Nat} {v : Json} (h : v.Plain) :
    (if enc.allows depth then v else enc.tooDeep).Plain := by
  split
  · exact h
  · exact Fault.plain_node _

end Encoder

/-! ## Terms, expressions and effects -/

variable (enc : Encoder)

namespace Term

theorem plain_leafAt (depth : Nat) (t : Term) : (t.leafAt enc depth).Plain := by
  refine enc.plain_written ?_
  cases t with
  | num x =>
    dsimp only
    split
    · exact Encoder.plain_named _ _
    · exact Fault.plain_node _
  | nil | cons head tail => exact .arr (by simp)
  | _ => exact Encoder.plain_named _ _

theorem plain_encodeAt (depth : Nat) (t : Term) : (t.encodeAt enc depth).Plain := by
  induction t using Term.elements_induction generalizing depth with
  | leaf t h =>
    rw [encodeAt_of_isList_eq_false h]
    exact plain_leafAt enc depth t
  | list t h ih =>
    rw [encodeAt_of_isList h]
    exact enc.plain_written (.arr_map fun e he => ih e he (depth + 1))

theorem plain_parametersAt (depth : Nat) (t : Term) : (t.parametersAt enc depth).Plain := by
  rw [parametersAt_eq]
  exact .arr_map fun e _ => plain_encodeAt enc (depth + 1) e

end Term

theorem Predicate.plain_encodeAt (c : Category) (depth : Nat) (p : Predicate) :
    (p.encodeAt enc c depth).Plain := by
  refine enc.plain_written (.obj (by grind) ?_)
  simpa using ⟨.str _, p.params.plain_parametersAt enc depth, .str _⟩

namespace Expression

theorem plain_conjunctionNode {operands : List Json} (h : ∀ operand ∈ operands, operand.Plain) :
    (conjunctionNode operands).Plain := by
  unfold conjunctionNode
  split
  · exact .obj (by grind) (by simpa using ⟨h _ (by simp), h _ (by simp), .str _⟩)
  · split
    · exact Fault.plain_node _
    · exact .obj (by grind) (by simpa using ⟨.arr h, .str _⟩)

theorem plain_disjunctionNode {operands : List Json} (h : ∀ operand ∈ operands, operand.Plain) :
    (disjunctionNode operands).Plain := by
  unfold disjunctionNode
  split
  · exact Fault.plain_node _
  · exact .obj (by grind) (by simpa using ⟨.arr h, .str _⟩)

theorem plain_encodeAt (depth : Nat) (e : Expression) : (e.encodeAt enc depth).Plain := by
  induction e generalizing depth with
  | atom p =>
    rw [encodeAt]
    exact enc.plain_written (p.plain_encodeAt enc .constant depth)
  | and operands ih =>
    rw [encodeAt, encodeListAt_eq_map]
    refine enc.plain_written (plain_conjunctionNode ?_)
    simpa using fun e he => ih e he (depth + 1)
  | or operands ih =>
    rw [encodeAt, encodeListAt_eq_map]
    refine enc.plain_written (plain_disjunctionNode ?_)
    simpa using fun e he => ih e he (depth + 1)
  | not e ih =>
    rw [encodeAt]
    exact enc.plain_written (.obj (by grind) (by simpa using ⟨ih _, .str _⟩))
  | all premise consequence ihp ihc =>
    rw [encodeAt]
    refine enc.plain_written (.obj (by grind) ?_)
    simpa using ⟨ihp _, ihc _, .str _, enc.plain_variableNodes _⟩
  | call function args =>
    rw [encodeAt]
    refine enc.plain_written (.obj (by grind) ?_)
    simpa using ⟨.arr_map fun t _ => t.plain_encodeAt enc (depth + 1), .str _, .str _⟩
  | assign i value =>
    rw [encodeAt]
    refine enc.plain_written (.obj (by grind) ?_)
    simpa using ⟨.str _, .str _, .str _, value.plain_encodeAt enc (depth + 1)⟩
  | nil =>
    rw [encodeAt]
    exact enc.plain_written (.obj (by grind) (by simpa using .str _))
  | unknown kind =>
    rw [encodeAt]
    exact enc.plain_written (.obj (by grind) (by simpa using ⟨.str _, .str _⟩))

theorem plain_encodeOption (e : Option Expression) : (encodeOption enc e).Plain := by
  cases e with
  | none => exact .null
  | some e => exact e.plain_encodeAt enc 0

end Expression

theorem Predicate.plain_encodeEffectAt (mode : EffectMode) (depth : Nat) (p : Predicate) :
    (p.encodeEffectAt enc mode depth).Plain := by
  cases mode with
  | add => exact p.plain_encodeAt enc .constant depth
  | delete =>
    refine .obj (by grind) ?_
    simpa using ⟨.arr (by simpa using p.plain_encodeAt enc .constant (depth + 1)), .str _⟩

theorem Effect.plain_encodeAt (mode : EffectMode) (depth : Nat) (e : Effect) :
    (e.encodeAt enc mode depth).Plain := by
  refine enc.plain_written ?_
  cases e with
  | atom p => exact p.plain_encodeEffectAt enc mode depth
  | all premise templates =>
    refine .obj (by grind) ?_
    simpa using ⟨.bool _, premise.plain_encodeAt enc _,
      .arr_map fun p _ => p.plain_encodeEffectAt enc mode (depth + 1), .str _,
      enc.plain_variableNodes _⟩
  | protect target =>
    refine .obj (by grind) ?_
    simpa using ⟨.str _, target.plain_encodeAt enc .constant _, .str _⟩
  | unknown kind => exact .obj (by grind) (by simpa using ⟨.str _, .str _, .str _⟩)

theorem EffectLists.plain_encode (effects : EffectLists) : (effects.encode enc).Plain :=
  .arr_map fun x _ => x.2.plain_encodeAt enc x.1 1

/-! ## Tasks and constructs -/

theorem TaskAtom.plain_encodeAt (depth : Nat) (a : TaskAtom) : (a.encodeAt enc depth).Plain := by
  refine .obj (by grind) ?_
  simpa using ⟨.str _, a.head.params.plain_parametersAt enc depth, .str _⟩

theorem TaskList.plain_of_mem_nodesAt {depth : Nat} {list : TaskList} :
    ∀ v ∈ list.nodesAt enc depth, v.Plain := by
  induction list generalizing depth with
  | empty =>
    rw [nodesAt]
    split <;> simp [Fault.plain_node, Encoder.tooDeep]
  | atom a =>
    rw [nodesAt]
    split <;> simp [Fault.plain_node, Encoder.tooDeep, a.plain_encodeAt enc]
  | sequence children ih =>
    rw [nodesAt, nodesListAt_eq_flatMap]
    split
    · intro v hv
      obtain ⟨child, hchild, hmem⟩ := List.mem_flatMap.mp hv
      exact ih child hchild v hmem
    · simp [Fault.plain_node, Encoder.tooDeep]

theorem TaskList.plain_encode (list : TaskList) : (list.encode enc).Plain :=
  .arr (list.plain_of_mem_nodesAt enc)

theorem Operator.plain_encode (op : Operator) : (op.encode enc).Plain := by
  have hfields : (op.effects.encode enc).Plain ∧ (op.head.params.parameters enc).Plain ∧
      (Expression.encodeOption enc op.precondition).Plain :=
    ⟨op.effects.plain_encode enc, op.head.params.plain_parametersAt enc 0,
      Expression.plain_encodeOption enc _⟩
  unfold encode
  cases op.cost with
  | none => exact .obj (by grind) (by simpa using ⟨hfields.1, .str _, hfields.2⟩)
  | some t =>
    exact .obj (by grind) (by simpa using ⟨t.plain_encodeAt enc 1, hfields.1, .str _, hfields.2⟩)

theorem MethodBranch.plain_encode (branch : MethodBranch) : (branch.encode enc).Plain := by
  refine .obj (by grind) ?_
  simpa using ⟨.str _, Expression.plain_encodeOption enc _, branch.tasks.plain_encode enc⟩

theorem Method.plain_encode (method : Method) : (method.encode enc).Plain := by
  refine .obj (by grind) ?_
  simpa using ⟨.arr_map fun branch _ => branch.plain_encode enc, .str _,
    method.head.params.plain_parametersAt enc 0⟩

theorem AxiomBranch.plain_encode (branch : AxiomBranch) : (branch.encode enc).Plain := by
  refine .obj (by grind) ?_
  simpa using ⟨.str _, Expression.plain_encodeOption enc _⟩

theorem Axiom.plain_encode (rule : Axiom) : (rule.encode enc).Plain := by
  refine .obj (by grind) ?_
  simpa using ⟨.arr_map fun branch _ => branch.plain_encode enc, .str _,
    rule.head.params.plain_parametersAt enc 0⟩

/-! ## Documents -/

theorem Domain.plain_encode (options : EncoderOptions) (domain : Domain) :
    (domain.encode options).Plain := by
  refine .obj (by grind) ?_
  simpa using ⟨.arr_map fun rule _ => rule.plain_encode _,
    .arr_map fun method _ => method.plain_encode _, .str _,
    .arr_map fun op _ => op.plain_encode _, plain_strings _⟩

theorem Predicate.plain_encodeFact (fact : Predicate) : (fact.encodeFact enc).Plain := by
  refine .obj (by grind) ?_
  simpa using ⟨plain_strings _, .str _⟩

theorem Problem.plain_encode (options : EncoderOptions) (problem : Problem) :
    (problem.encode options).Plain := by
  refine .obj (by grind) ?_
  simpa using ⟨plain_strings _, .obj (by grind) (by simpa using problem.goal.plain_encode _),
    .arr_map fun fact _ => fact.plain_encodeFact _, .str _⟩

namespace Document

/-- Documents hold no numbers and have their keys in order. -/
theorem plain_build (domain : Domain) (problem : Option Problem) (options : EncoderOptions) :
    (build domain problem options).toJson.Plain := by
  have hdomain := domain.plain_encode options
  have hrequirements := plain_strings domain.requirements.tags
  cases problem with
  | none => exact .obj (by grind [build, withRequirements]) (by
      simpa [build, withRequirements] using ⟨hdomain, hrequirements⟩)
  | some p => exact .obj (by grind [build, withRequirements]) (by
      simpa [build, withRequirements] using ⟨hdomain, p.plain_encode options, hrequirements⟩)

variable (domain : Domain) (problem : Option Problem) (options : EncoderOptions)
  (layout : Json.Layout)

theorem sorted_build : (build domain problem options).toJson.Sorted :=
  (plain_build domain problem options).sorted

theorem parse_render (h : (build domain problem options).toJson.nesting ≤ Json.nestingLimit) :
    Json.parse ((build domain problem options).render layout) =
      .ok (build domain problem options).toJson :=
  (plain_build domain problem options).parseWithin_render layout h

theorem parse_render_of_lt
    (h : Json.nestingLimit < (build domain problem options).toJson.nesting) :
    ∃ position, Json.parse ((build domain problem options).render layout) =
      .error ⟨.tooDeep, position⟩ :=
  (plain_build domain problem options).parseWithin_render_of_lt layout h

/-- A file with the text of a document is read as the document exactly if its nesting is within the
limit of the reader, and otherwise it is refused for its depth. -/
theorem readJson_render_iff {d : Directory} {host : Host} {path : String}
    (hpath : '\x00' ∉ path.toList)
    (hread : d.read path host = .ok ((build domain problem options).render layout).toUTF8) :
    let v := (build domain problem options).toJson
    (((Action.readJson path).on d host).1 = .ok v ↔ v.nesting ≤ Json.nestingLimit) ∧
      (Json.nestingLimit < v.nesting → ∃ position, ((Action.readJson path).on d host).1 =
        .error (.fileMalformed path ⟨.tooDeep, position⟩)) := by
  intro v
  rw [Action.on_readJson hpath hread]
  by_cases hfits : v.nesting ≤ Json.nestingLimit
  · have hparse := parse_render domain problem options layout hfits
    refine ⟨iff_of_true ?_ hfits, fun hdeep => absurd hdeep (Nat.not_lt.mpr hfits)⟩
    rw [hparse]
    rfl
  · obtain ⟨position, hparse⟩ :=
      parse_render_of_lt domain problem options layout (Nat.not_le.mp hfits)
    refine ⟨iff_of_false ?_ hfits, fun _ => ⟨position, ?_⟩⟩
    · rw [hparse]
      exact nofun
    · rw [hparse]
      rfl

theorem readJson_render_empty :
    let doc := build (DomainBuilder.new "d").finish none {}
    let d : Directory := ⟨[(["f"], (doc.render .compact).toUTF8)]⟩
    '\x00' ∉ "f".toList ∧ d.read "f" = .ok (doc.render .compact).toUTF8 ∧
      ((Action.readJson "f").on d).1 = .ok doc.toJson := by
  intro doc d
  have hfile (contents : ByteArray) :
      (Directory.mk [(["f"], contents)]).read "f" = .ok contents := by
    rw [Directory.read, Directory.place_eq]
    rfl
  have hpath : '\x00' ∉ "f".toList := by decide
  have hread := hfile (doc.render .compact).toUTF8
  exact ⟨hpath, hread, (readJson_render_iff _ none {} .compact hpath hread).1.mpr (by decide)⟩

end Document

end TaskNetwork
