import TaskNetwork.Compilation
import TaskNetwork.Proofs.Dispatch.Buckets
import TaskNetwork.Proofs.Domain.Run
import TaskNetwork.Proofs.Operator.Lossless

/-!
# Dispatch tables and documents

A dispatch table finds the constructs of a symbol by its index, a reader of the document by its
name. The two find the same constructs unless one of them implements a homonym: another symbol that
is written with the same name, because marks of tasks are left out or because it is not in the table
and its placeholder is the name of one that is.
-/

namespace TaskNetwork

/-! ## Marks of tasks -/

def IsMarked (name : String) : Prop := name.toList.head? = some '!'

instance (name : String) : Decidable (IsMarked name) :=
  inferInstanceAs (Decidable (name.toList.head? = some '!'))

/-- A name without its mark. -/
def unmark (name : String) : String :=
  match name.toList with
  | '!' :: rest => String.ofList rest
  | _ => name

/-- One of the names has no mark, and the other one is the same with a mark. -/
def DifferByMark (a b : String) : Prop :=
  ¬ IsMarked a ∧ b = "!" ++ a ∨ ¬ IsMarked b ∧ a = "!" ++ b

instance (a b : String) : Decidable (DifferByMark a b) :=
  inferInstanceAs (Decidable (¬ IsMarked a ∧ b = "!" ++ a ∨ ¬ IsMarked b ∧ a = "!" ++ b))

theorem unmark_mark (name : String) : unmark ("!" ++ name) = name := by
  simp [unmark]

theorem unmark_of_not_isMarked {name : String} (h : ¬ IsMarked name) : unmark name = name := by
  unfold unmark
  split
  · rename_i rest hname
    simp [IsMarked, hname] at h
  · rfl

theorem mark_unmark {name : String} (h : IsMarked name) : "!" ++ unmark name = name := by
  obtain ⟨rest, hname⟩ := List.head?_eq_some_iff.mp h
  apply String.toList_inj.mp
  simp [unmark, hname]

/-- Different names that are the same without marks differ by a mark. -/
theorem unmark_eq_iff {a b : String} (hne : a ≠ b) : unmark a = unmark b ↔ DifferByMark a b := by
  constructor
  · intro h
    by_cases ha : IsMarked a
    · by_cases hb : IsMarked b
      · exact absurd (by rw [← mark_unmark ha, h, mark_unmark hb]) hne
      · rw [unmark_of_not_isMarked hb] at h
        exact .inr ⟨hb, by rw [← h, mark_unmark ha]⟩
    · by_cases hb : IsMarked b
      · rw [unmark_of_not_isMarked ha] at h
        exact .inl ⟨ha, by rw [h, mark_unmark hb]⟩
      · rw [unmark_of_not_isMarked ha, unmark_of_not_isMarked hb] at h
        exact absurd h hne
  · rintro (⟨ha, rfl⟩ | ⟨hb, rfl⟩)
    · rw [unmark_of_not_isMarked ha, unmark_mark]
    · rw [unmark_of_not_isMarked hb, unmark_mark]

theorem DifferByMark.ne {a b : String} (h : DifferByMark a b) : a ≠ b := by
  rintro rfl
  have hlength : a.length = ("!" ++ a).length := by
    obtain ⟨-, h⟩ | ⟨-, h⟩ := h <;> exact congrArg String.length h
  simp at hlength

/-! ## Homonyms -/

/-- Another index `j` of a category is written with the name of the symbol `i` when marks of tasks
are left out. -/
inductive SymbolTable.Homonym (t : SymbolTable) (c : Category) (i j : Nat) : Prop where
  /-- An index that the table does not have, with a placeholder that is the name of `i`. -/
  | placeholder (outside : t.size c ≤ j) (h : t.resolve c i = t.resolve c j)
  | mark (task : c.isTask = true) (h : DifferByMark (t.resolve c i) (t.resolve c j))

theorem SymbolTable.homonym_iff {t : SymbolTable} {c : Category} {i j : Nat} :
    t.Homonym c i j ↔ t.size c ≤ j ∧ t.resolve c i = t.resolve c j ∨
      c.isTask = true ∧ DifferByMark (t.resolve c i) (t.resolve c j) := by
  constructor
  · rintro (⟨outside, h⟩ | ⟨task, h⟩)
    · exact .inl ⟨outside, h⟩
    · exact .inr ⟨task, h⟩
  · rintro (⟨outside, h⟩ | ⟨task, h⟩)
    · exact .placeholder outside h
    · exact .mark task h

instance (t : SymbolTable) (c : Category) (i j : Nat) : Decidable (t.Homonym c i j) :=
  decidable_of_iff _ SymbolTable.homonym_iff.symm

theorem SymbolTable.Homonym.ne {t : SymbolTable} {c : Category} {i j : Nat} (hi : i < t.size c)
    (h : t.Homonym c i j) : i ≠ j := by
  rintro rfl
  cases h with
  | placeholder outside h => omega
  | mark task h => exact h.ne rfl

namespace Encoder

variable {enc : Encoder} {c : Category}

theorem symbolName_eq (strip : enc.options.stripTaskBang = true) (i : Nat) :
    enc.symbolName c i =
      if c.isTask then unmark (enc.symbols.resolve c i) else enc.symbols.resolve c i := by
  unfold symbolName unmark
  cases c.isTask with
  | true =>
    rw [if_pos rfl, strip]
    rfl
  | false =>
    simp only [Bool.false_and, Bool.false_eq_true, if_false]
    split <;> rfl

/-- A symbol of the table shares the name that is written with its homonyms only. -/
theorem symbolName_eq_iff (distinct : (enc.symbols.names c).Nodup)
    (strip : enc.options.stripTaskBang = true) {i : Nat} (hi : i < enc.symbols.size c) (j : Nat) :
    enc.symbolName c i = enc.symbolName c j ↔ i = j ∨ enc.symbols.Homonym c i j := by
  rw [symbolName_eq strip, symbolName_eq strip]
  by_cases hsame : enc.symbols.resolve c i = enc.symbols.resolve c j
  · refine iff_of_true (by rw [hsame]) ?_
    by_cases hj : j < enc.symbols.size c
    · exact .inl (SymbolTable.resolve_inj distinct hi hj hsame)
    · exact .inr (.placeholder (Nat.not_lt.mp hj) hsame)
  · have hne : i ≠ j := by
      rintro rfl
      exact hsame rfl
    cases htask : c.isTask with
    | true =>
      rw [if_pos rfl, if_pos rfl, unmark_eq_iff hsame]
      constructor
      · intro h
        exact .inr (.mark htask h)
      · rintro (h | ⟨-, h⟩ | ⟨-, h⟩)
        · exact absurd h hne
        · exact absurd h hsame
        · exact h
    | false =>
      rw [if_neg Bool.false_ne_true, if_neg Bool.false_ne_true]
      refine iff_of_false hsame ?_
      rintro (h | ⟨-, h⟩ | ⟨task, -⟩)
      · exact hne h
      · exact hsame h
      · simp [htask] at task

end Encoder

/-! ## Positions in a document -/

/-- The positions of the items that have a name. -/
def Json.positionsOf (name : String) (items : List Json) : List Nat :=
  (items.zipIdx.filter fun (item, _) => (item.get? "name").bind str? == some name).map Prod.snd

/-- The positions of the constructs of a kind that have a name in the document. -/
def Compilation.positionsOf (out : Compilation) (kind name : String) : List Nat :=
  Json.positionsOf name ((((out.document.toJson.get? "domain").bind (Json.get? kind)).bind
    Json.arr?).getD [])

section Constructs

variable {α : Type} {constructs : List α} {number head : α → Nat} {encode : α → Json}
  {nameOf : Nat → String}

theorem zipIdx_eq_map (numbered : constructs.map number = List.range constructs.length) :
    constructs.zipIdx = constructs.map fun x => (x, number x) := by
  apply List.ext_getElem
  · simp
  · intro k hk _
    have hlt : k < constructs.length := by simpa using hk
    have hnumber : (constructs.map number)[k]? = some k := by
      rw [numbered]
      exact List.getElem?_range hlt
    simpa [hlt, eq_comm] using hnumber

theorem positionsOf_map (numbered : constructs.map number = List.range constructs.length)
    (named : ∀ x, (encode x).get? "name" = some (.str (nameOf (head x)))) (name : String) :
    Json.positionsOf name (constructs.map encode) =
      (constructs.filter fun x => nameOf (head x) == name).map number := by
  have hpairs : (constructs.map encode).zipIdx = constructs.map fun x => (encode x, number x) := by
    rw [List.zipIdx_map, zipIdx_eq_map numbered, List.map_map]
    rfl
  rw [Json.positionsOf, hpairs, List.filter_map, List.map_map]
  simp [Function.comp_def, named, Json.str?]

/-- Constructs found by name are those found by index exactly if no other index that is in use has
the name. -/
theorem filter_name_eq_filter_head_iff
    (numbered : constructs.map number = List.range constructs.length) (i : Nat) :
    (constructs.filter fun x => nameOf (head x) == nameOf i).map number =
        (constructs.filter fun x => head x == i).map number ↔
      ∀ x ∈ constructs, nameOf i = nameOf (head x) → i = head x := by
  have distinct : (constructs.map number).Nodup := by
    rw [numbered]
    exact List.nodup_range
  constructor
  · intro h x hx hname
    have hmem : number x ∈ (constructs.filter fun x => nameOf (head x) == nameOf i).map number :=
      List.mem_map_of_mem (List.mem_filter.mpr ⟨hx, by simp [hname]⟩)
    rw [h, List.mem_map] at hmem
    obtain ⟨y, hy, hnumber⟩ := hmem
    obtain ⟨hy, hhead⟩ := List.mem_filter.mp hy
    obtain rfl : y = x := List.inj_on_of_nodup_map distinct hy hx hnumber
    exact (beq_iff_eq.mp hhead).symm
  · intro h
    congr 1
    apply List.filter_congr
    intro x hx
    by_cases hname : nameOf i = nameOf (head x)
    · obtain rfl := h x hx hname
      simp
    · have hhead : head x ≠ i := by
        rintro rfl
        exact hname rfl
      simp [hhead, Ne.symm hname]

/-- Positions by the name of a symbol against numbers by its index, for constructs of one kind. -/
theorem positionsOf_symbolName_iff {enc : Encoder} {c : Category}
    (distinct : (enc.symbols.names c).Nodup) (strip : enc.options.stripTaskBang = true)
    (numbered : constructs.map number = List.range constructs.length)
    (named : ∀ x, (encode x).get? "name" = some (.str (enc.symbolName c (head x)))) {i : Nat}
    (hi : i < enc.symbols.size c) :
    Json.positionsOf (enc.symbolName c i) (constructs.map encode) =
        (constructs.filter fun x => head x == i).map number ↔
      ∀ x ∈ constructs, ¬ enc.symbols.Homonym c i (head x) := by
  rw [positionsOf_map numbered named, filter_name_eq_filter_head_iff numbered]
  refine forall₂_congr fun x _ => ?_
  rw [Encoder.symbolName_eq_iff distinct strip hi]
  constructor
  · intro h homonym
    exact homonym.ne hi (h (.inr homonym))
  · rintro h (heq | homonym)
    · exact heq
    · exact absurd homonym h

end Constructs

/-! ## Agreement -/

theorem Domain.get?_encode (options : EncoderOptions) (domain : Domain) :
    let enc : Encoder := ⟨domain.symbols, options⟩
    (domain.encode options).get? "axioms" = some (.arr (domain.axioms.map (Axiom.encode enc))) ∧
      (domain.encode options).get? "compound_tasks" =
        some (.arr (domain.methods.map (Method.encode enc))) ∧
      (domain.encode options).get? "primitive_tasks" =
        some (.arr (domain.operators.map (Operator.encode enc))) := by
  simp [encode, List.lookup_cons]

namespace Compilation

theorem positionsOf_compile {domain : Domain} {options : EncoderOptions} {kind : String}
    {items : List Json} (h : (domain.encode options).get? kind = some (.arr items))
    (problem : Option Problem) (name : String) :
    (domain.compile problem options).positionsOf kind name = Json.positionsOf name items := by
  have hdomain : (domain.compile problem options).document.toJson.get? "domain" =
      some (domain.encode options) := Document.get?_toJson_domain _
  rw [positionsOf, hdomain, Option.bind_some, h]
  rfl

/-- The constructs that show the name of a symbol in the document are those that the dispatch table
has for it, in the same order, exactly if no construct implements a homonym of the symbol. -/
theorem positions_eq_dispatched_iff (name : String) (calls : List DomainBuilder.Call)
    (problem : Option Problem) :
    let domain := ((DomainBuilder.new name).run calls).finish
    let out := domain.compile problem {}
    let enc : Encoder := ⟨domain.symbols, {}⟩
    (∀ i < domain.symbols.size .primitiveTask,
      out.positionsOf "primitive_tasks" (enc.symbolName .primitiveTask i) =
          (out.dispatch.operatorsFor i).map Operator.id ↔
        ∀ op ∈ domain.operators, ¬ domain.symbols.Homonym .primitiveTask i op.head.head) ∧
      (∀ i < domain.symbols.size .compoundTask,
        out.positionsOf "compound_tasks" (enc.symbolName .compoundTask i) =
            (out.dispatch.methodsFor i).map Method.id ↔
          ∀ method ∈ domain.methods,
            ¬ domain.symbols.Homonym .compoundTask i method.head.head) ∧
      ∀ i < domain.symbols.size .constant,
        out.positionsOf "axioms" (enc.symbolName .constant i) =
            (out.dispatch.axiomsFor i).map Axiom.id ↔
          ∀ rule ∈ domain.axioms, ¬ domain.symbols.Homonym .constant i rule.head.head := by
  intro domain out enc
  have numbered := DomainBuilder.numbered_finish name calls
  have distinct := DomainBuilder.nodup_names_finish name calls
  obtain ⟨haxioms, hmethods, hoperators⟩ := domain.get?_encode {}
  refine ⟨?_, ?_, ?_⟩
  · intro i hi
    have hids : out.dispatch.operatorsFor i = _ := DispatchTable.operatorsFor_ofDomain domain i
    have named (op : Operator) : (op.encode enc).get? "name" =
        some (.str (enc.symbolName .primitiveTask op.head.head)) := (op.get?_encode enc).2.2.1
    rw [positionsOf_compile hoperators, hids]
    exact positionsOf_symbolName_iff (distinct _) rfl numbered.operators named hi
  · intro i hi
    have hids : out.dispatch.methodsFor i = _ := DispatchTable.methodsFor_ofDomain domain i
    have named (method : Method) : (method.encode enc).get? "name" =
        some (.str (enc.symbolName .compoundTask method.head.head)) := rfl
    rw [positionsOf_compile hmethods, hids]
    exact positionsOf_symbolName_iff (distinct _) rfl numbered.methods named hi
  · intro i hi
    have hids : out.dispatch.axiomsFor i = _ := DispatchTable.axiomsFor_ofDomain domain i
    have named (rule : Axiom) : (rule.encode enc).get? "name" =
        some (.str (enc.symbolName .constant rule.head.head)) := rfl
    rw [positionsOf_compile haxioms, hids]
    exact positionsOf_symbolName_iff (distinct _) rfl numbered.axioms named hi

/-- A domain in which nothing is called like something else, although one head is outside of the
table. -/
theorem positions_eq_dispatched_of_distinct :
    let calls : List DomainBuilder.Call := [.intern .primitiveTask "!move",
      .intern .primitiveTask "!lift", .addOperator ⟨1, .nil⟩ none {} none,
      .addOperator ⟨0, .nil⟩ none {} none, .addOperator ⟨7, .nil⟩ none {} none,
      .addOperator ⟨1, .nil⟩ none {} none]
    let domain := ((DomainBuilder.new "d").run calls).finish
    let out := domain.compile none {}
    let enc : Encoder := ⟨domain.symbols, {}⟩
    1 < domain.symbols.size .primitiveTask ∧
      out.positionsOf "primitive_tasks" (enc.symbolName .primitiveTask 1) =
        (out.dispatch.operatorsFor 1).map Operator.id := by
  intro calls domain out enc
  have hsize : 1 < domain.symbols.size .primitiveTask := by decide
  have hnone : ∀ op ∈ domain.operators,
      ¬ domain.symbols.Homonym .primitiveTask 1 op.head.head := by decide +kernel
  exact ⟨hsize, ((positions_eq_dispatched_iff "d" calls none).1 1 hsize).mpr hnone⟩

/-- A task with a mark, one of the same name without it, and a placeholder that is a name. -/
theorem positions_ne_dispatched_of_homonyms :
    let calls : List DomainBuilder.Call := [.intern .primitiveTask "!move",
      .intern .primitiveTask "move", .intern .constant "constant_1",
      .addOperator ⟨0, .nil⟩ none {} none, .addOperator ⟨1, .nil⟩ none {} none,
      .addAxiom ⟨0, .nil⟩ [⟨"b", none⟩], .addAxiom ⟨1, .nil⟩ [⟨"b", none⟩]]
    let domain := ((DomainBuilder.new "d").run calls).finish
    let out := domain.compile none {}
    let enc : Encoder := ⟨domain.symbols, {}⟩
    (0 < domain.symbols.size .primitiveTask ∧
      out.positionsOf "primitive_tasks" (enc.symbolName .primitiveTask 0) = [0, 1] ∧
      (out.dispatch.operatorsFor 0).map Operator.id = [0]) ∧
      0 < domain.symbols.size .constant ∧
      out.positionsOf "axioms" (enc.symbolName .constant 0) = [0, 1] ∧
      (out.dispatch.axiomsFor 0).map Axiom.id = [0] := by
  refine ⟨⟨?_, ?_, ?_⟩, ?_, ?_, ?_⟩
  · decide
  · decide +kernel
  · rfl
  · decide
  · decide +kernel
  · rfl

end Compilation

end TaskNetwork
