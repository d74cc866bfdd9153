import TaskNetwork.Domain.Encoding
import TaskNetwork.Proofs.Effect.Mode
import TaskNetwork.Proofs.Expression.Lossless

/-!
# Operators from their encodings

Two operators without faults that are encoded alike are the same operator, up to their identifiers
and what terms do not show.
-/

namespace TaskNetwork

/-! ## Effects -/

namespace Effect

/-- Every symbol, number and call in the effect has the property. -/
def Forall (p : Term → Prop) : Effect → Prop
  | atom q => q.Forall p
  | all premise templates => premise.Forall p ∧ ∀ q ∈ templates, q.Forall p
  | protect target => target.Forall p
  | unknown _ => True

/-- Equality of effects up to what their terms do not show. -/
inductive Alike : Effect → Effect → Prop where
  | atom {p q : Predicate} (h : p.Alike q) : Alike (atom p) (atom q)
  | all {premise premise' : Expression} {templates templates' : List Predicate}
      (hp : premise.Alike premise') (ht : List.Forall₂ Predicate.Alike templates templates') :
      Alike (all premise templates) (all premise' templates')
  | protect {p q : Predicate} (h : p.Alike q) : Alike (protect p) (protect q)
  | unknown (kind : String) : Alike (unknown kind) (unknown kind)

end Effect

theorem Predicate.alike_of_encodeEffectAt_eq {enc : Encoder} {mode : EffectMode} {depth : Nat}
    {p q : Predicate} (hf : enc.Faithful) (hp : p.Forall (Term.Legible enc.symbols))
    (hq : q.Forall (Term.Legible enc.symbols))
    (faultless : (p.encodeEffectAt enc mode depth).Faultless)
    (heq : p.encodeEffectAt enc mode depth = q.encodeEffectAt enc mode depth) : p.Alike q := by
  cases mode with
  | add => exact alike_of_encodeAt_eq hf hp hq faultless heq
  | delete =>
    have hitems : ∀ v ∈ [p.encodeAt enc .constant (depth + 1)], v.Faultless :=
      faultless.items "expression" (by simp)
    have hfp := hitems _ (List.mem_singleton_self _)
    have hpq : p.encodeAt enc .constant (depth + 1) = q.encodeAt enc .constant (depth + 1) := by
      simpa [encodeEffectAt] using heq
    exact alike_of_encodeAt_eq hf hp hq hfp hpq

namespace Effect

variable {enc : Encoder} {mode : EffectMode} {depth : Nat} {e e' : Effect}

theorem allows_of_faultless (h : (e.encodeAt enc mode depth).Faultless) :
    enc.allows depth = true := by
  by_contra hdeep
  rw [encodeAt.eq_def, if_neg hdeep] at h
  exact Fault.not_faultless_node _ h

/-- The type of the node of an effect. -/
def nodeType (mode : EffectMode) : Effect → String
  | atom _ => if mode.isAdd then "predicate" else "not"
  | all _ _ => "forall"
  | protect _ => "protection"
  | unknown _ => "unknown"

theorem get?_type_encodeAt (h : (e.encodeAt enc mode depth).Faultless) :
    (e.encodeAt enc mode depth).get? "type" = some (.str (e.nodeType mode)) := by
  have hallows := allows_of_faultless h
  rw [encodeAt.eq_def, if_pos hallows]
  cases e with
  | atom p =>
    cases mode <;>
      simp [Predicate.encodeEffectAt, Predicate.encodeAt, hallows, nodeType, EffectMode.isAdd,
        List.lookup_cons]
  | _ => simp [nodeType, List.lookup_cons]

theorem alike_of_encodeAt_eq (hf : enc.Faithful) (h : e.Forall (Term.Legible enc.symbols))
    (h' : e'.Forall (Term.Legible enc.symbols)) (faultless : (e.encodeAt enc mode depth).Faultless)
    (heq : e.encodeAt enc mode depth = e'.encodeAt enc mode depth) : e.Alike e' := by
  have hallows := allows_of_faultless faultless
  have htype : e.nodeType mode = e'.nodeType mode := by
    have htype := get?_type_encodeAt faultless
    rw [heq, get?_type_encodeAt (heq ▸ faultless)] at htype
    simpa using htype.symm
  cases e with
  | atom p =>
    cases e' with
    | atom q =>
      simp only [encodeAt, hallows, if_true] at faultless heq
      exact .atom (Predicate.alike_of_encodeEffectAt_eq hf h h' faultless heq)
    | _ => cases mode <;> simp [nodeType, EffectMode.isAdd] at htype
  | all premise templates =>
    cases e' with
    | all premise' templates' =>
      simp only [encodeAt, hallows, if_true] at faultless heq
      have hfp : (premise.encodeAt enc (depth + 1)).Faultless :=
        faultless.value "expression" (by simp)
      have hft : ∀ v ∈ templates.map (Predicate.encodeEffectAt enc mode (depth + 1)),
          v.Faultless := faultless.items "predicates" (by simp)
      obtain ⟨hpp, htt, -⟩ : premise.encodeAt enc (depth + 1) =
            premise'.encodeAt enc (depth + 1) ∧
          templates.map (Predicate.encodeEffectAt enc mode (depth + 1)) =
            templates'.map (Predicate.encodeEffectAt enc mode (depth + 1)) ∧ _ := by
        simpa using heq
      refine .all (Expression.alike_of_encodeAt_eq hf h.1 h'.1 hfp hpp)
        (forall₂_of_map_eq hft htt fun p hp q hq hfaultless hpq => ?_)
      exact Predicate.alike_of_encodeEffectAt_eq hf (h.2 p hp) (h'.2 q hq) hfaultless hpq
    | _ => cases mode <;> simp [nodeType, EffectMode.isAdd] at htype
  | protect target =>
    cases e' with
    | protect target' =>
      simp only [encodeAt, hallows, if_true] at faultless heq
      have hft : (target.encodeAt enc .constant (depth + 1)).Faultless :=
        faultless.value "predicate" (by simp)
      have htt : target.encodeAt enc .constant (depth + 1) =
          target'.encodeAt enc .constant (depth + 1) := by
        simpa using heq
      exact .protect (Predicate.alike_of_encodeAt_eq hf h h' hft htt)
    | _ => cases mode <;> simp [nodeType, EffectMode.isAdd] at htype
  | unknown kind =>
    cases e' with
    | unknown kind' =>
      simp only [encodeAt, hallows, if_true] at heq
      obtain rfl : kind = kind' := by simpa using heq
      exact .unknown kind
    | _ => cases mode <;> simp [nodeType, EffectMode.isAdd] at htype

end Effect

namespace EffectLists

variable {enc : Encoder} {effects effects' : EffectLists}

theorem faultless_of_mem_ofMode {mode : EffectMode} {e : Effect}
    (faultless : (effects.encode enc).Faultless) (h : e ∈ effects.ofMode mode) :
    (e.encodeAt enc mode 1).Faultless := by
  refine Json.faultless_arr.mp faultless _ (List.mem_map.mpr ⟨(mode, e), ?_, rfl⟩)
  cases mode <;> simpa [entries, ofMode] using h

/-- Both lists are shown by the one array. -/
theorem alike_of_encode_eq (hf : enc.Faithful) (mode : EffectMode)
    (h : ∀ e ∈ effects.ofMode mode, e.Forall (Term.Legible enc.symbols))
    (h' : ∀ e ∈ effects'.ofMode mode, e.Forall (Term.Legible enc.symbols))
    (faultless : (effects.encode enc).Faultless)
    (heq : effects.encode enc = effects'.encode enc) :
    List.Forall₂ Effect.Alike (effects.ofMode mode) (effects'.ofMode mode) := by
  by_cases hallows : enc.allows 1 = true
  · have hmap : (effects.ofMode mode).map (Effect.encodeAt enc mode 1) =
        (effects'.ofMode mode).map (Effect.encodeAt enc mode 1) := by
      rw [encode, encode, Json.arr.injEq] at heq
      rw [← filter_effectMode? hallows, ← filter_effectMode? hallows, heq]
    have hnodes : ∀ v ∈ (effects.ofMode mode).map (Effect.encodeAt enc mode 1), v.Faultless :=
      List.forall_mem_map.mpr fun e he => faultless_of_mem_ofMode faultless he
    refine forall₂_of_map_eq hnodes hmap fun e he e' he' hfe hee => ?_
    exact Effect.alike_of_encodeAt_eq hf (h e he) (h' e' he') hfe hee
  · -- Then no effect at all could be written.
    have none {effects : EffectLists} (faultless : (effects.encode enc).Faultless) :
        effects.ofMode mode = [] := by
      refine List.eq_nil_iff_forall_not_mem.mpr fun e he => hallows ?_
      exact Effect.allows_of_faultless (faultless_of_mem_ofMode faultless he)
    rw [none faultless, none (heq ▸ faultless)]
    exact .nil

end EffectLists

/-! ## Operators -/

namespace Operator

/-- Every symbol, number and call in the operator has the property. -/
structure Forall (p : Term → Prop) (op : Operator) : Prop where
  head : op.head.params.Forall p
  precondition : ∀ e ∈ op.precondition, e.Forall p
  effects : ∀ mode, ∀ e ∈ op.effects.ofMode mode, e.Forall p
  cost : ∀ t ∈ op.cost, t.Forall p

/-- Equality of operators up to their identifiers and what their terms do not show. -/
structure Alike (op op' : Operator) : Prop where
  head : op.head.Alike op'.head
  precondition : Option.Rel Expression.Alike op.precondition op'.precondition
  delete : List.Forall₂ Effect.Alike op.effects.delete op'.effects.delete
  add : List.Forall₂ Effect.Alike op.effects.add op'.effects.add
  cost : Option.Rel Term.Alike op.cost op'.cost

variable {enc : Encoder} {op op' : Operator}

theorem get?_encode (enc : Encoder) (op : Operator) :
    (op.encode enc).get? "cost" = op.cost.map (Term.encodeAt enc 1) ∧
      (op.encode enc).get? "effect" = some (op.effects.encode enc) ∧
      (op.encode enc).get? "name" = some (.str (enc.symbolName .primitiveTask op.head.head)) ∧
      (op.encode enc).get? "parameters" = some (op.head.params.parameters enc) ∧
      (op.encode enc).get? "preconditions" =
        some (Expression.encodeOption enc op.precondition) := by
  cases h : op.cost <;> simp [encode, h, List.lookup_cons]

theorem precondition_alike {e e' : Option Expression} (hf : enc.Faithful)
    (h : ∀ x ∈ e, x.Forall (Term.Legible enc.symbols))
    (h' : ∀ x ∈ e', x.Forall (Term.Legible enc.symbols))
    (faultless : (Expression.encodeOption enc e).Faultless)
    (heq : Expression.encodeOption enc e = Expression.encodeOption enc e') :
    Option.Rel Expression.Alike e e' := by
  cases e with
  | none =>
    rw [Expression.encodeOption_eq_null_iff.mpr rfl, eq_comm,
      Expression.encodeOption_eq_null_iff] at heq
    rw [heq]
    exact .none
  | some x =>
    cases e' with
    | none =>
      have hnone := Expression.encodeOption_eq_null_iff.mp heq
      cases hnone
    | some x' => exact .some (Expression.alike_of_encodeAt_eq hf (h x rfl) (h' x' rfl) faultless heq)

theorem cost_alike {c c' : Option Term} (hf : enc.Faithful)
    (h : ∀ t ∈ c, t.Forall (Term.Legible enc.symbols))
    (h' : ∀ t ∈ c', t.Forall (Term.Legible enc.symbols))
    (faultless : ∀ t ∈ c, (t.encodeAt enc 1).Faultless)
    (heq : c.map (Term.encodeAt enc 1) = c'.map (Term.encodeAt enc 1)) :
    Option.Rel Term.Alike c c' := by
  cases c with
  | none =>
    rw [Option.map_none, eq_comm, Option.map_eq_none_iff] at heq
    rw [heq]
    exact .none
  | some t =>
    cases c' with
    | none => cases heq
    | some t' =>
      have htt : t.encodeAt enc 1 = t'.encodeAt enc 1 := Option.some.inj heq
      exact .some (Term.alike_of_encodeAt_eq hf (h t rfl) (h' t' rfl) (faultless t rfl) htt)

theorem alike_of_faithful (hf : enc.Faithful)
    (hhead : op.head.head < enc.symbols.size .primitiveTask)
    (hhead' : op'.head.head < enc.symbols.size .primitiveTask)
    (h : op.Forall (Term.Legible enc.symbols)) (h' : op'.Forall (Term.Legible enc.symbols))
    (faultless : (op.encode enc).Faultless) (heq : op.encode enc = op'.encode enc) :
    op.Alike op' := by
  obtain ⟨hcost, heffect, hname, hparams, hpre⟩ := op.get?_encode enc
  obtain ⟨hcost', heffect', hname', hparams', hpre'⟩ := op'.get?_encode enc
  rw [← heq] at hcost' heffect' hname' hparams' hpre'
  have heffects := Option.some.inj (heffect.symm.trans heffect')
  have hnames := Json.str.inj (Option.some.inj (hname.symm.trans hname'))
  have hlists (mode : EffectMode) := EffectLists.alike_of_encode_eq hf mode (h.effects mode)
    (h'.effects mode) (faultless.of_get? heffect) heffects
  refine ⟨⟨hf.symbolName_inj hhead hhead' hnames, ?_⟩, ?_, hlists .delete, hlists .add, ?_⟩
  · exact Term.elements_alike_of_parametersAt_eq hf h.head h'.head (faultless.of_get? hparams)
      (Option.some.inj (hparams.symm.trans hparams'))
  · exact precondition_alike hf h.precondition h'.precondition (faultless.of_get? hpre)
      (Option.some.inj (hpre.symm.trans hpre'))
  · refine cost_alike hf h.cost h'.cost (fun t ht => ?_) (hcost.symm.trans hcost')
    exact faultless.of_get? (hcost.trans (congrArg _ ht))

/-- Every index is one of the table, and no call is among the terms. -/
structure Legible (table : SymbolTable) (op : Operator) : Prop where
  head : op.head.head < table.size .primitiveTask
  parts : op.Forall (Term.Legible table)

/-- What is written of an operator without faults shows the operator, if the names of variables
start with a question mark and tasks keep their mark. -/
theorem encode_lossless {operations : List SymbolTable.Operation} {table : SymbolTable}
    {options : EncoderOptions} {op op' : Operator} (run : SymbolTable.empty.run operations = table)
    (marked : ∀ name ∈ table.names .var, name.toList.head? = some '?')
    (unstripped : options.stripTaskBang = false) (h : op.Legible table) (h' : op'.Legible table)
    (faultless : (op.encode ⟨table, options⟩).errorCount = 0)
    (heq : op.encode ⟨table, options⟩ = op'.encode ⟨table, options⟩) : op.Alike op' := by
  have hf : Encoder.Faithful ⟨table, options⟩ := by
    refine ⟨fun c => ?_, marked, unstripped⟩
    rw [← run]
    exact SymbolTable.nodup_names_run operations c
  exact alike_of_faithful hf h.head h'.head h.parts h'.parts faultless heq

/-- A list of one parameter and the parameter alone are written in the same way. -/
theorem encode_lossless_singleton :
    let table := SymbolTable.empty.run
      [.intern .primitiveTask "!visit", .intern .constant "seen", .intern .var "?x"]
    let enc : Encoder := ⟨table, { stripTaskBang := false }⟩
    let one : Operator :=
      ⟨0, ⟨0, .ofList [.var 0]⟩, some (.not (.atom ⟨0, .var 0⟩)), ⟨[], [.atom ⟨0, .var 0⟩]⟩, none⟩
    let other : Operator :=
      ⟨1, ⟨0, .var 0⟩, some (.not (.atom ⟨0, .ofList [.var 0]⟩)), ⟨[], [.atom ⟨0, .var 0⟩]⟩, none⟩
    one.encode enc = other.encode enc ∧ one.Alike other := by
  intro table enc one other
  have heq : one.encode enc = other.encode enc := rfl
  have hx : (Term.var 0).Forall (Term.Legible table) := show 0 < table.size .var by decide
  have hseen : Term.Legible table (.const 0) := show 0 < table.size .constant by decide
  have list : (Term.ofList [.var 0]).Forall (Term.Legible table) := ⟨hx, trivial⟩
  have legible : one.Legible table := by
    refine ⟨by decide, list, ?_, ?_, nofun⟩
    · rintro _ ⟨⟩
      exact ⟨hseen, hx⟩
    · rintro (_ | _) _ ⟨⟩
      · exact ⟨hseen, hx⟩
      · contradiction
  have legible' : other.Legible table := by
    refine ⟨by decide, hx, ?_, ?_, nofun⟩
    · rintro _ ⟨⟩
      exact ⟨hseen, list⟩
    · rintro (_ | _) _ ⟨⟩
      · exact ⟨hseen, hx⟩
      · contradiction
  exact ⟨heq, encode_lossless rfl (by decide) rfl legible legible' rfl heq⟩

end Operator

end TaskNetwork
