import TaskNetwork.Proofs.Induction
import TaskNetwork.Proofs.Term.Lossless

/-!
# Expressions from their encodings

The type of a node names the constructor of the expression, and the fields of the node show its
parts.
-/

namespace TaskNetwork

namespace Expression

mutual

/-- Every symbol, number and call in the expression has the property. -/
def Forall (p : Term → Prop) : Expression → Prop
  | atom q => q.Forall p
  | and operands => ForallList p operands
  | or operands => ForallList p operands
  | not e => e.Forall p
  | all premise consequence => premise.Forall p ∧ consequence.Forall p
  | call _ args => ∀ t ∈ args, t.Forall p
  | assign i value => p (.var i) ∧ value.Forall p
  | nil => True
  | unknown _ => True

def ForallList (p : Term → Prop) : List Expression → Prop
  | [] => True
  | e :: rest => e.Forall p ∧ ForallList p rest

end

theorem forallList_iff {p : Term → Prop} {es : List Expression} :
    ForallList p es ↔ ∀ e ∈ es, e.Forall p := by
  induction es with
  | nil => simp [ForallList]
  | cons e rest ih => simp [ForallList, ih]

/-- Equality of expressions up to what their terms do not show. -/
inductive Alike : Expression → Expression → Prop where
  | atom {p q : Predicate} (h : p.Alike q) : Alike (atom p) (atom q)
  | and {es es' : List Expression} (h : List.Forall₂ Alike es es') : Alike (and es) (and es')
  | or {es es' : List Expression} (h : List.Forall₂ Alike es es') : Alike (or es) (or es')
  | not {e e' : Expression} (h : Alike e e') : Alike (not e) (not e')
  | all {premise premise' consequence consequence' : Expression} (hp : Alike premise premise')
      (hc : Alike consequence consequence') :
      Alike (all premise consequence) (all premise' consequence')
  | call (function : String) {args args' : List Term} (h : List.Forall₂ Term.Alike args args') :
      Alike (call function args) (call function args')
  | assign (i : Nat) {value value' : Term} (h : value.Alike value') :
      Alike (assign i value) (assign i value')
  | nil : Alike nil nil
  | unknown (kind : String) : Alike (unknown kind) (unknown kind)

/-! ## Nodes -/

theorem conjunctionNode_of_faultless {operands : List Json}
    (h : (conjunctionNode operands).Faultless) :
    (∃ left right, operands = [left, right] ∧ conjunctionNode operands =
      .obj [("left", left), ("right", right), ("type", .str "and")]) ∨
      conjunctionNode operands = .obj [("conjuncts", .arr operands), ("type", .str "and")] := by
  match operands, h with
  | [], h => exact absurd h (Fault.not_faultless_node _)
  | [_], h => exact absurd h (Fault.not_faultless_node _)
  | [left, right], _ => exact .inl ⟨left, right, rfl, rfl⟩
  | _ :: _ :: _ :: rest, _ =>
    have hlength : ¬ rest.length + 1 + 1 + 1 < 2 := by omega
    exact .inr (by simp only [conjunctionNode, List.length_cons, hlength, if_false])

theorem disjunctionNode_of_faultless {operands : List Json}
    (h : (disjunctionNode operands).Faultless) :
    disjunctionNode operands = .obj [("disjuncts", .arr operands), ("type", .str "or")] := by
  rw [disjunctionNode] at h ⊢
  split at h
  · exact absurd h (Fault.not_faultless_node _)
  · rename_i hlength
    rw [if_neg hlength]

/-- A conjunction of two operands and a longer one have different fields. -/
theorem conjunctionNode_inj {xs ys : List Json} (h : (conjunctionNode xs).Faultless)
    (heq : conjunctionNode xs = conjunctionNode ys) : xs = ys := by
  have h' := heq ▸ h
  obtain ⟨left, right, rfl, hxs⟩ | hxs := conjunctionNode_of_faultless h
  · obtain ⟨left', right', rfl, hys⟩ | hys := conjunctionNode_of_faultless h'
    · rw [hxs, hys] at heq
      simpa using heq
    · rw [hxs, hys] at heq
      simp at heq
  · obtain ⟨left', right', rfl, hys⟩ | hys := conjunctionNode_of_faultless h'
    · rw [hxs, hys] at heq
      simp at heq
    · rw [hxs, hys] at heq
      simpa using heq

theorem faultless_of_conjunctionNode {operands : List Json}
    (h : (conjunctionNode operands).Faultless) : ∀ operand ∈ operands, operand.Faultless := by
  obtain ⟨left, right, rfl, heq⟩ | heq := conjunctionNode_of_faultless h
  · rw [heq] at h
    simpa using ⟨h.value "left" (by simp), h.value "right" (by simp)⟩
  · rw [heq] at h
    exact h.items "conjuncts" (by simp)

theorem disjunctionNode_inj {xs ys : List Json} (h : (disjunctionNode xs).Faultless)
    (heq : disjunctionNode xs = disjunctionNode ys) : xs = ys := by
  have h' := heq ▸ h
  rw [disjunctionNode_of_faultless h, disjunctionNode_of_faultless h'] at heq
  simpa using heq

theorem faultless_of_disjunctionNode {operands : List Json}
    (h : (disjunctionNode operands).Faultless) : ∀ operand ∈ operands, operand.Faultless := by
  rw [disjunctionNode_of_faultless h] at h
  exact h.items "disjuncts" (by simp)

/-- The type of the node of an expression. -/
def nodeType : Expression → String
  | atom _ => "predicate"
  | and _ => "and"
  | or _ => "or"
  | not _ => "not"
  | all _ _ => "forall"
  | call _ _ => "call"
  | assign _ _ => "assignment"
  | nil => "nil"
  | unknown _ => "unknown"

variable {enc : Encoder} {depth : Nat} {e e' : Expression}

theorem allows_of_faultless (h : (e.encodeAt enc depth).Faultless) : enc.allows depth = true := by
  by_contra hdeep
  rw [encodeAt.eq_def, if_neg hdeep] at h
  exact Fault.not_faultless_node _ h

theorem get?_type_encodeAt (h : (e.encodeAt enc depth).Faultless) :
    (e.encodeAt enc depth).get? "type" = some (.str e.nodeType) := by
  have hallows := allows_of_faultless h
  rw [encodeAt.eq_def, if_pos hallows] at h ⊢
  cases e with
  | atom p => simp [Predicate.encodeAt, hallows, nodeType, List.lookup_cons]
  | and operands =>
    obtain ⟨left, right, -, heq⟩ | heq := conjunctionNode_of_faultless h <;>
      simp [heq, nodeType, List.lookup_cons]
  | or operands => simp [disjunctionNode_of_faultless h, nodeType, List.lookup_cons]
  | _ => simp [nodeType, List.lookup_cons]

/-- Expressions that are written alike are of one type, and not too deep. -/
theorem allows_and_nodeType_eq (faultless : (e.encodeAt enc depth).Faultless)
    (heq : e.encodeAt enc depth = e'.encodeAt enc depth) :
    enc.allows depth = true ∧ e.nodeType = e'.nodeType := by
  have htype := get?_type_encodeAt faultless
  rw [heq, get?_type_encodeAt (heq ▸ faultless)] at htype
  exact ⟨allows_of_faultless faultless, by simpa using htype.symm⟩

theorem alike_of_encodeAt_eq (hf : enc.Faithful) (h : e.Forall (Term.Legible enc.symbols))
    (h' : e'.Forall (Term.Legible enc.symbols)) (faultless : (e.encodeAt enc depth).Faultless)
    (heq : e.encodeAt enc depth = e'.encodeAt enc depth) : e.Alike e' := by
  induction e generalizing e' depth with
  | atom p =>
    obtain ⟨hallows, htype⟩ := allows_and_nodeType_eq faultless heq
    cases e' with
    | atom q =>
      simp only [encodeAt, hallows, if_true] at faultless heq
      exact .atom (Predicate.alike_of_encodeAt_eq hf h h' faultless heq)
    | _ => simp [nodeType] at htype
  | and es ih =>
    obtain ⟨hallows, htype⟩ := allows_and_nodeType_eq faultless heq
    cases e' with
    | and es' =>
      simp only [encodeAt, hallows, if_true, encodeListAt_eq_map] at faultless heq
      refine .and (forall₂_of_map_eq (faultless_of_conjunctionNode faultless)
        (conjunctionNode_inj faultless heq) fun e he e' he' hfe hee => ?_)
      exact ih e he (forallList_iff.mp h e he) (forallList_iff.mp h' e' he') hfe hee
    | _ => simp [nodeType] at htype
  | or es ih =>
    obtain ⟨hallows, htype⟩ := allows_and_nodeType_eq faultless heq
    cases e' with
    | or es' =>
      simp only [encodeAt, hallows, if_true, encodeListAt_eq_map] at faultless heq
      refine .or (forall₂_of_map_eq (faultless_of_disjunctionNode faultless)
        (disjunctionNode_inj faultless heq) fun e he e' he' hfe hee => ?_)
      exact ih e he (forallList_iff.mp h e he) (forallList_iff.mp h' e' he') hfe hee
    | _ => simp [nodeType] at htype
  | not e ih =>
    obtain ⟨hallows, htype⟩ := allows_and_nodeType_eq faultless heq
    cases e' with
    | not e' =>
      simp only [encodeAt, hallows, if_true] at faultless heq
      have hfe : (e.encodeAt enc (depth + 1)).Faultless := faultless.value "expression" (by simp)
      have hee : e.encodeAt enc (depth + 1) = e'.encodeAt enc (depth + 1) := by simpa using heq
      exact .not (ih h h' hfe hee)
    | _ => simp [nodeType] at htype
  | all premise consequence ihp ihc =>
    obtain ⟨hallows, htype⟩ := allows_and_nodeType_eq faultless heq
    cases e' with
    | all premise' consequence' =>
      simp only [encodeAt, hallows, if_true] at faultless heq
      have hfp : (premise.encodeAt enc (depth + 1)).Faultless :=
        faultless.value "expression" (by simp)
      have hfc : (consequence.encodeAt enc (depth + 1)).Faultless :=
        faultless.value "predicates" (by simp)
      obtain ⟨hpp, hcc, -⟩ : premise.encodeAt enc (depth + 1) = premise'.encodeAt enc (depth + 1) ∧
          consequence.encodeAt enc (depth + 1) = consequence'.encodeAt enc (depth + 1) ∧ _ := by
        simpa using heq
      exact .all (ihp h.1 h'.1 hfp hpp) (ihc h.2 h'.2 hfc hcc)
    | _ => simp [nodeType] at htype
  | call f args =>
    obtain ⟨hallows, htype⟩ := allows_and_nodeType_eq faultless heq
    cases e' with
    | call f' args' =>
      simp only [encodeAt, hallows, if_true] at faultless heq
      have hargs : ∀ v ∈ args.map (Term.encodeAt enc (depth + 1)), v.Faultless :=
        faultless.items "arguments" (by simp)
      obtain ⟨hmap, rfl⟩ : args.map (Term.encodeAt enc (depth + 1)) =
          args'.map (Term.encodeAt enc (depth + 1)) ∧ f = f' := by
        simpa using heq
      refine .call f (forall₂_of_map_eq hargs hmap fun t ht t' ht' hft htt => ?_)
      exact Term.alike_of_encodeAt_eq hf (h t ht) (h' t' ht') hft htt
    | _ => simp [nodeType] at htype
  | assign i value =>
    obtain ⟨hallows, htype⟩ := allows_and_nodeType_eq faultless heq
    cases e' with
    | assign j value' =>
      simp only [encodeAt, hallows, if_true] at faultless heq
      have hfv : (value.encodeAt enc (depth + 1)).Faultless := faultless.value "value" (by simp)
      obtain ⟨hname, hvv⟩ : enc.variableName i = enc.variableName j ∧
          value.encodeAt enc (depth + 1) = value'.encodeAt enc (depth + 1) := by
        simpa using heq
      obtain rfl := hf.variableName_inj h.1 h'.1 hname
      exact .assign i (Term.alike_of_encodeAt_eq hf h.2 h'.2 hfv hvv)
    | _ => simp [nodeType] at htype
  | nil =>
    obtain ⟨hallows, htype⟩ := allows_and_nodeType_eq faultless heq
    cases e' with
    | nil => exact .nil
    | _ => simp [nodeType] at htype
  | unknown kind =>
    obtain ⟨hallows, htype⟩ := allows_and_nodeType_eq faultless heq
    cases e' with
    | unknown kind' =>
      simp only [encodeAt, hallows, if_true] at heq
      obtain rfl : kind = kind' := by simpa using heq
      exact .unknown kind
    | _ => simp [nodeType] at htype

end Expression

end TaskNetwork
