import Mathlib.Data.List.Forall2
import TaskNetwork.Proofs.Json.ErrorCount
import TaskNetwork.Proofs.Symbol.Run
import TaskNetwork.Proofs.Term.Elements

/-!
# Terms from their encodings

An encoded list shows its elements and an encoded number its text. Nothing else is lost of a term
whose symbols are in the table and which holds no call.
-/

namespace TaskNetwork

/-! ## Names -/

/-- Different symbols of a category are written differently. -/
structure Encoder.Faithful (enc : Encoder) : Prop where
  distinct : ∀ c, (enc.symbols.names c).Nodup
  /-- No question mark is put in front of a variable. -/
  marked : ∀ name ∈ enc.symbols.names .var, name.toList.head? = some '?'
  /-- No mark is taken away from a task. -/
  unstripped : enc.options.stripTaskBang = false

namespace Encoder.Faithful

variable {enc : Encoder} (hf : enc.Faithful) {i j : Nat}

include hf

theorem symbolName_inj {c : Category} (hi : i < enc.symbols.size c) (hj : j < enc.symbols.size c)
    (h : enc.symbolName c i = enc.symbolName c j) : i = j := by
  have whole (k : Nat) : enc.symbolName c k = enc.symbols.resolve c k := by
    simp only [Encoder.symbolName, hf.unstripped, Bool.and_false, Bool.false_eq_true, if_false]
    split <;> rfl
  rw [whole, whole] at h
  exact SymbolTable.resolve_inj (hf.distinct c) hi hj h

theorem variableName_inj (hi : i < enc.symbols.size .var) (hj : j < enc.symbols.size .var)
    (h : enc.variableName i = enc.variableName j) : i = j := by
  have whole {k : Nat} (hk : k < enc.symbols.size .var) :
      enc.variableName k = enc.symbols.resolve .var k := by
    have hname := hf.marked _ (List.getElem_mem hk)
    rw [← SymbolTable.resolve_of_lt hk] at hname
    simp [Encoder.variableName, hname]
  rw [whole hi, whole hj] at h
  exact SymbolTable.resolve_inj (hf.distinct .var) hi hj h

end Encoder.Faithful

namespace Term

/-! ## Parts -/

mutual

/-- Every part of the term that is no cell has the property. -/
def Forall (p : Term → Prop) : Term → Prop
  | cons head tail => head.Forall p ∧ tail.Forall p
  | call f args => p (call f args) ∧ ForallArgs p args
  | t => p t

def ForallArgs (p : Term → Prop) : List Term → Prop
  | [] => True
  | t :: rest => t.Forall p ∧ ForallArgs p rest

end

theorem Forall.elements {p : Term → Prop} {t : Term} (h : t.Forall p) :
    ∀ e ∈ t.elements, e.Forall p := by
  cases hlist : t.isList with
  | false =>
    rw [elements_of_isList_eq_false hlist]
    simpa using h
  | true =>
    cases t with
    | nil => simp
    | cons head tail =>
      rw [elements_cons, List.forall_mem_cons]
      exact ⟨h.1, Forall.elements h.2⟩
    | _ => cases hlist

/-- An encoding shows which term this is: it is no call, and the table has its name. -/
def Legible (table : SymbolTable) : Term → Prop
  | var i => i < table.size .var
  | const i => i < table.size .constant
  | call _ _ => False
  | _ => True

/-- Equality of terms in which a list is the sequence of its elements and a number its text. -/
inductive Alike : Term → Term → Prop where
  | var (i : Nat) : Alike (var i) (var i)
  | const (i : Nat) : Alike (const i) (const i)
  | num {x y : Binary64} (h : x.plain = y.plain) : Alike (num x) (num y)
  | call (function : String) (args : List Term) : Alike (call function args) (call function args)
  | list {s t : Term} (hs : s.isList = true) (ht : t.isList = true)
      (h : List.Forall₂ Alike s.elements t.elements) : Alike s t

/-! ## Encodings -/

variable {enc : Encoder} {depth : Nat} {t t' : Term}

theorem allows_of_faultless (h : (t.encodeAt enc depth).Faultless) : enc.allows depth = true := by
  by_contra hdeep
  cases hlist : t.isList with
  | false =>
    rw [encodeAt_of_isList_eq_false hlist, leafAt.eq_def, if_neg hdeep] at h
    exact Fault.not_faultless_node _ h
  | true =>
    rw [encodeAt_of_isList hlist, if_neg hdeep] at h
    exact Fault.not_faultless_node _ h

/-- The type of the node of a term that has no elements. -/
def kind : Term → String
  | var _ => "Variable"
  | const _ => "Constant"
  | num _ => "Number"
  | call _ _ => "Call"
  | cons _ _ | nil => ""

theorem encodeAt_eq_named (hleaf : t.isList = false) (h : (t.encodeAt enc depth).Faultless) :
    t.encodeAt enc depth = Encoder.named (t.text enc) t.kind := by
  have hallows := allows_of_faultless h
  rw [encodeAt_of_isList_eq_false hleaf] at h ⊢
  cases t with
  | num x =>
    simp only [leafAt, hallows, if_true] at h ⊢
    split at h
    · rename_i hfinite
      simp [hfinite, text, atomText, kind]
    · exact absurd h (Fault.not_faultless_node _)
  | cons head tail => cases hleaf
  | nil => cases hleaf
  | _ => simp [leafAt, hallows, text, atomText, kind]

theorem encodeAt_eq_arr (hlist : t.isList = true) (h : (t.encodeAt enc depth).Faultless) :
    t.encodeAt enc depth = .arr (t.elements.map (encodeAt enc (depth + 1))) := by
  rw [encodeAt_of_isList hlist, if_pos (allows_of_faultless h)]

/-- Lists are shown as arrays and nothing else is. -/
theorem isList_eq_of_encodeAt_eq (h : (t.encodeAt enc depth).Faultless)
    (heq : t.encodeAt enc depth = t'.encodeAt enc depth) : t'.isList = t.isList := by
  have h' := heq ▸ h
  cases hs : t.isList <;> cases ht : t'.isList
  · rfl
  · rw [encodeAt_eq_named hs h, encodeAt_eq_arr ht h'] at heq
    cases heq
  · rw [encodeAt_eq_arr hs h, encodeAt_eq_named ht h'] at heq
    cases heq
  · rfl

end Term

/-- Lists that are written alike item by item have alike items. -/
theorem forall₂_of_map_eq {α : Type} {write : α → Json} {R : α → α → Prop} {xs ys : List α}
    (faultless : ∀ v ∈ xs.map write, v.Faultless) (heq : xs.map write = ys.map write)
    (h : ∀ x ∈ xs, ∀ y ∈ ys, (write x).Faultless → write x = write y → R x y) :
    List.Forall₂ R xs ys := by
  induction xs generalizing ys with
  | nil =>
    rw [List.map_nil, eq_comm, List.map_eq_nil_iff] at heq
    rw [heq]
    exact .nil
  | cons x rest ih =>
    cases ys with
    | nil => cases heq
    | cons y rest' =>
      rw [List.map_cons, List.map_cons, List.cons.injEq] at heq
      rw [List.map_cons, List.forall_mem_cons] at faultless
      refine .cons (h x (by simp) y (by simp) faultless.1 heq.1) ?_
      refine ih faultless.2 heq.2 fun a ha b hb => ?_
      exact h a (List.mem_cons_of_mem x ha) b (List.mem_cons_of_mem y hb)

namespace Term

variable {enc : Encoder} {depth : Nat} {t t' : Term}

theorem alike_of_encodeAt_eq (hf : enc.Faithful) (h : t.Forall (Legible enc.symbols))
    (h' : t'.Forall (Legible enc.symbols)) (faultless : (t.encodeAt enc depth).Faultless)
    (heq : t.encodeAt enc depth = t'.encodeAt enc depth) : t.Alike t' := by
  have hlist' := isList_eq_of_encodeAt_eq faultless heq
  have faultless' := heq ▸ faultless
  induction t using elements_induction generalizing t' depth with
  | leaf t hleaf =>
    rw [hleaf] at hlist'
    rw [encodeAt_eq_named hleaf faultless, encodeAt_eq_named hlist' faultless'] at heq
    obtain ⟨htext, hkind⟩ : t.text enc = t'.text enc ∧ t.kind = t'.kind := by
      simpa [Encoder.named] using heq
    cases t with
    | var i =>
      cases t' with
      | var j =>
        obtain rfl := hf.variableName_inj h h' htext
        exact .var i
      | _ => simp [kind] at hkind
    | const i =>
      cases t' with
      | const j =>
        obtain rfl := SymbolTable.resolve_inj (hf.distinct .constant) h h' htext
        exact .const i
      | _ => simp [kind] at hkind
    | num x =>
      cases t' with
      | num y => exact .num htext
      | _ => simp [kind] at hkind
    | call f args => exact h.1.elim
    | cons head tail => cases hleaf
    | nil => cases hleaf
  | list t hlist ih =>
    rw [hlist] at hlist'
    rw [encodeAt_eq_arr hlist faultless, encodeAt_eq_arr hlist' faultless', Json.arr.injEq] at heq
    rw [encodeAt_eq_arr hlist faultless, Json.faultless_arr] at faultless
    refine .list hlist hlist' (forall₂_of_map_eq faultless heq fun e he e' he' hfe hee => ?_)
    exact ih e he (h.elements e he) (h'.elements e' he') hfe hee (isList_eq_of_encodeAt_eq hfe hee)
      (hee ▸ hfe)

/-- Parameters are an array, so only their elements are shown. -/
theorem elements_alike_of_parametersAt_eq (hf : enc.Faithful)
    (h : t.Forall (Legible enc.symbols)) (h' : t'.Forall (Legible enc.symbols))
    (faultless : (t.parametersAt enc depth).Faultless)
    (heq : t.parametersAt enc depth = t'.parametersAt enc depth) :
    List.Forall₂ Alike t.elements t'.elements := by
  rw [parametersAt_eq, parametersAt_eq, Json.arr.injEq] at heq
  rw [parametersAt_eq, Json.faultless_arr] at faultless
  refine forall₂_of_map_eq faultless heq fun e he e' he' hfe hee => ?_
  exact alike_of_encodeAt_eq hf (h.elements e he) (h'.elements e' he') hfe hee

end Term

/-! ## Predicates -/

namespace Predicate

/-- Every part of the parameters, and the head as a constant, has the property. -/
def Forall (p : Term → Prop) (q : Predicate) : Prop := p (.const q.head) ∧ q.params.Forall p

/-- The same head, and parameters that are alike one by one. -/
def Alike (p q : Predicate) : Prop :=
  p.head = q.head ∧ List.Forall₂ Term.Alike p.params.elements q.params.elements

variable {enc : Encoder} {depth : Nat} {p q : Predicate}

theorem allows_of_faultless {c : Category} (h : (p.encodeAt enc c depth).Faultless) :
    enc.allows depth = true := by
  by_contra hdeep
  rw [encodeAt, if_neg hdeep] at h
  exact Fault.not_faultless_node _ h

theorem alike_of_encodeAt_eq (hf : enc.Faithful) (hp : p.Forall (Term.Legible enc.symbols))
    (hq : q.Forall (Term.Legible enc.symbols)) (faultless : (p.encodeAt enc .constant depth).Faultless)
    (heq : p.encodeAt enc .constant depth = q.encodeAt enc .constant depth) : p.Alike q := by
  have hallows := allows_of_faultless faultless
  simp only [encodeAt, hallows, if_true] at faultless heq
  obtain ⟨hhead, hparams⟩ : enc.symbolName .constant p.head = enc.symbolName .constant q.head ∧
      p.params.parametersAt enc depth = q.params.parametersAt enc depth := by
    simpa using heq
  have hparams' : (p.params.parametersAt enc depth).Faultless :=
    faultless.value "parameters" (by simp)
  exact ⟨hf.symbolName_inj hp.1 hq.1 hhead,
    Term.elements_alike_of_parametersAt_eq hf hp.2 hq.2 hparams' hparams⟩

end Predicate

end TaskNetwork
