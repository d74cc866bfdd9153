import TaskNetwork.Proofs.Domain.Renumbering
import TaskNetwork.Proofs.Requirement.Features

/-!
# Domains do not depend on the order of their symbols

A domain over renumbered symbols is written as the same JSON, needs the same features, and
dispatches the new index of a symbol to the constructs of its old one.
-/

namespace TaskNetwork

variable {index : Category → Nat → Nat}

/-! ## Requirements -/

theorem Expression.features_renumber (e : Expression) :
    (e.renumber index).features = e.features := by
  induction e with
  | and operands ih | or operands ih =>
    simp [renumber, features, renumberList_eq_map, featuresList_eq_flatMap, List.flatMap_map,
      List.flatMap_congr ih]
  | not e ih => simp only [renumber, features, ih]
  | all premise consequence ihp ihc => simp only [renumber, features, ihp, ihc]
  | _ => rfl

theorem Expression.featuresOfOption_renumber (e : Option Expression) :
    featuresOfOption (e.map (renumber index)) = featuresOfOption e := by
  cases e with
  | none => rfl
  | some e => exact e.features_renumber

theorem Effect.features_renumber (e : Effect) : (e.renumber index).features = e.features := by
  cases e with
  | all premise templates => simp only [renumber, features, premise.features_renumber]
  | _ => rfl

theorem Operator.features_renumber (op : Operator) :
    (op.renumber index).features = op.features := by
  simp [features, renumber, EffectLists.renumber, Expression.featuresOfOption_renumber,
    List.flatMap_map, Effect.features_renumber]

theorem Method.features_renumber (method : Method) :
    (method.renumber index).features = method.features := by
  simp [features, renumber, MethodBranch.renumber, Expression.featuresOfOption_renumber,
    List.flatMap_map]

theorem Axiom.features_renumber (rule : Axiom) :
    (rule.renumber index).features = rule.features := by
  simp [features, renumber, AxiomBranch.renumber, Expression.featuresOfOption_renumber,
    List.flatMap_map]

namespace Domain

variable (domain : Domain) (ρ : domain.symbols.Renumbering)

theorem features_renumber : (domain.renumber ρ).features = domain.features := by
  simp [features, renumber, List.flatMap_map, Operator.features_renumber, Method.features_renumber,
    Axiom.features_renumber]

theorem requirements_renumber : (domain.renumber ρ).requirements = domain.requirements := by
  apply RequirementSet.ext_contains
  intro r
  rw [Bool.eq_iff_iff, contains_requirements, contains_requirements, features_renumber]

/-! ## Documents -/

theorem encode_renumber (options : EncoderOptions) :
    (domain.renumber ρ).encode options = domain.encode options := by
  have h : Encoder.Renumbered ρ.index ⟨domain.symbols, options⟩ ⟨ρ.table, options⟩ :=
    ⟨ρ.index_injective, ρ.resolve_index, rfl⟩
  have hop (op : Operator) := op.encode_renumber h
  have hmethod (method : Method) := method.encode_renumber h
  have hrule (rule : Axiom) := rule.encode_renumber h
  simp only [encode, renumber, List.map_map, Function.comp_def, hop, hmethod, hrule]

/-! ## Dispatch -/

/-- Items whose keys are mapped along with them are found at the new key by the same identifiers. -/
theorem ids_filter_map {α : Type} (key ident : α → Nat) (f : α → α) {g : Nat → Nat}
    (hg : Function.Injective g) (hkey : ∀ a, key (f a) = g (key a))
    (hident : ∀ a, ident (f a) = ident a) (items : List α) (i : Nat) :
    ((items.map f).filter (key · == g i)).map ident = (items.filter (key · == i)).map ident := by
  have hfilter : items.filter ((key · == g i) ∘ f) = items.filter (key · == i) := by
    apply List.filter_congr
    intro a _
    simp [hkey, hg.eq_iff]
  rw [List.filter_map, List.map_map, hfilter]
  apply List.map_congr_left
  intro a _
  exact hident a

theorem ids_operatorsFor_renumber (i : Nat) :
    ((DispatchTable.ofDomain (domain.renumber ρ)).operatorsFor (ρ.index .primitiveTask i)).map
        Operator.id =
      ((DispatchTable.ofDomain domain).operatorsFor i).map Operator.id := by
  rw [DispatchTable.operatorsFor_ofDomain, DispatchTable.operatorsFor_ofDomain]
  exact ids_filter_map (fun op : Operator => op.head.head) Operator.id (Operator.renumber ρ.index)
    (ρ.index_injective .primitiveTask) (fun _ => rfl) (fun _ => rfl) domain.operators i

theorem ids_methodsFor_renumber (i : Nat) :
    ((DispatchTable.ofDomain (domain.renumber ρ)).methodsFor (ρ.index .compoundTask i)).map
        Method.id =
      ((DispatchTable.ofDomain domain).methodsFor i).map Method.id := by
  rw [DispatchTable.methodsFor_ofDomain, DispatchTable.methodsFor_ofDomain]
  exact ids_filter_map (fun method : Method => method.head.head) Method.id (Method.renumber ρ.index)
    (ρ.index_injective .compoundTask) (fun _ => rfl) (fun _ => rfl) domain.methods i

theorem ids_axiomsFor_renumber (i : Nat) :
    ((DispatchTable.ofDomain (domain.renumber ρ)).axiomsFor (ρ.index .constant i)).map Axiom.id =
      ((DispatchTable.ofDomain domain).axiomsFor i).map Axiom.id := by
  rw [DispatchTable.axiomsFor_ofDomain, DispatchTable.axiomsFor_ofDomain]
  exact ids_filter_map (fun rule : Axiom => rule.head.head) Axiom.id (Axiom.renumber ρ.index)
    (ρ.index_injective .constant) (fun _ => rfl) (fun _ => rfl) domain.axioms i

/-- The order of the symbols cannot be seen in the JSON of a domain, in its requirements, or in
which constructs implement a symbol and in what order. -/
theorem order_independent :
    (∀ options, (domain.renumber ρ).encode options = domain.encode options) ∧
      (domain.renumber ρ).requirements = domain.requirements ∧
      ∀ i,
        ((DispatchTable.ofDomain (domain.renumber ρ)).operatorsFor (ρ.index .primitiveTask i)).map
            Operator.id =
          ((DispatchTable.ofDomain domain).operatorsFor i).map Operator.id ∧
        ((DispatchTable.ofDomain (domain.renumber ρ)).methodsFor (ρ.index .compoundTask i)).map
            Method.id =
          ((DispatchTable.ofDomain domain).methodsFor i).map Method.id ∧
        ((DispatchTable.ofDomain (domain.renumber ρ)).axiomsFor (ρ.index .constant i)).map
            Axiom.id =
          ((DispatchTable.ofDomain domain).axiomsFor i).map Axiom.id := by
  refine ⟨?_, ?_, ?_⟩
  · exact domain.encode_renumber ρ
  · exact domain.requirements_renumber ρ
  · intro i
    refine ⟨?_, ?_, ?_⟩
    · exact domain.ids_operatorsFor_renumber ρ i
    · exact domain.ids_methodsFor_renumber ρ i
    · exact domain.ids_axiomsFor_renumber ρ i

end Domain

end TaskNetwork
