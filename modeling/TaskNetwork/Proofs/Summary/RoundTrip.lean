import TaskNetwork.Proofs.Summary.Reading
import TaskNetwork.Proofs.Summary.Fields
import TaskNetwork.Summary.Codec

/-!
# Summaries written and read back

A record is read from an object exactly if each of its fields is. So a summary that was written is
read back field by field, and all of it is there again but for one thing: a cost that is null is
written like any other, and then read as no cost.
-/

namespace TaskNetwork

namespace Json

/-! ## Records -/

namespace Record

variable {α β : Type} {fields : List (String × Json)} {name : String} {decoder : Decoder α}

theorem decoder_obj_eq_ok_iff {r : Record α} {value : α} :
    r.decoder name (.obj fields) = .ok value ↔ r.ofFields fields = .ok value := by
  rw [Record.decoder]
  cases r.ofFields fields with
  | ok found => simp
  | error fault => cases fault <;> simp

theorem ofFields_none_eq_ok_iff {a b : α} : (none a).ofFields fields = .ok b ↔ a = b := by
  simp [none]

theorem ofFields_and_eq_ok_iff {f : Record (α → β)} {x : Record α} {value : β} :
    (f.and x).ofFields fields = .ok value ↔
      ∃ g a, f.ofFields fields = .ok g ∧ x.ofFields fields = .ok a ∧ g a = value := by
  simp only [and]
  cases f.ofFields fields <;> cases x.ofFields fields <;> simp

theorem ofFields_required_eq_ok_iff {value : α} :
    (required name decoder).ofFields fields = .ok value ↔
      ∃ v, fields.lookup name = some v ∧ decoder v = .ok value := by
  simp only [required, field]
  cases fields.lookup name with
  | none => simp
  | some v => simp [mapError_eq_ok_iff]

theorem ofFields_optional_eq_ok_iff {value : Option α} :
    (optional name decoder).ofFields fields = .ok value ↔
      (fields.lookup name = .none ∧ value = .none) ∨
        ∃ v, fields.lookup name = some v ∧ decoder.option v = .ok value := by
  simp only [optional, field]
  cases fields.lookup name with
  | none => simp [eq_comm]
  | some v => simp [mapError_eq_ok_iff]

end Record

/-- The value, unless it is null. -/
def nonNull? : Json → Option Json
  | null => none
  | v => some v

theorem any_eq_ok (v : Json) : Decoder.any v = .ok v := rfl

theorem option_any (v : Json) : Decoder.any.option v = .ok v.nonNull? := by
  cases v <;> rfl

theorem bind_nonNull?_eq_self_iff {v : Option Json} : v.bind nonNull? = v ↔ v ≠ some null := by
  cases v with
  | none => simp
  | some v => cases v <;> simp [nonNull?]

/-- A list that was written item by item is read item by item. -/
theorem list_map {α β : Type} {decoder : Decoder β} {write : α → Json} {back : α → β}
    (h : ∀ x, decoder (write x) = .ok (back x)) (xs : List α) :
    decoder.list (.arr (xs.map write)) = .ok (xs.map back) :=
  mapM_map_ok h xs

theorem list_map_self {α : Type} {decoder : Decoder α} {write : α → Json}
    (h : ∀ x, decoder (write x) = .ok x) (xs : List α) :
    decoder.list (.arr (xs.map write)) = .ok xs := by
  rw [list_map h, List.map_id']

theorem list_strings (items : List String) : Decoder.string.list (strings items) = .ok items := by
  have hitem (s : String) : Decoder.string (.str s) = .ok s := rfl
  exact list_map_self hitem items

end Json

open Json Record

attribute [local simp] decoder_obj_eq_ok_iff ofFields_none_eq_ok_iff ofFields_and_eq_ok_iff
  ofFields_required_eq_ok_iff ofFields_optional_eq_ok_iff Decoder.string Decoder.size any_eq_ok
  option_any list_strings List.lookup_cons

/-! ## Parts of summaries -/

theorem TaskKind.decoder_label (k : TaskKind) : decoder (.str k.label) = .ok k := by
  cases k <;> rfl

theorem TaskReference.decoder_toJson (t : TaskReference) : decoder t.toJson = .ok t := by
  simp [decoder, toJson, TaskKind.decoder_label]

theorem BranchSummary.decoder_toJson (s : BranchSummary) : decoder s.toJson = .ok s := by
  have htasks := list_map_self TaskReference.decoder_toJson s.tasks
  simp [decoder, toJson, htasks]

theorem MethodSummary.decoder_toJson (s : MethodSummary) : decoder s.toJson = .ok s := by
  have hbranches := list_map_self BranchSummary.decoder_toJson s.branches
  simp [decoder, toJson, hbranches]

theorem AxiomSummary.decoder_toJson (s : AxiomSummary) : decoder s.toJson = .ok s := by
  simp [decoder, toJson]

theorem FactSummary.decoder_toJson (s : FactSummary) : decoder s.toJson = .ok s := by
  simp [decoder, toJson]

theorem ProblemSummary.decoder_toJson (s : ProblemSummary) : decoder s.toJson = .ok s := by
  have hgoal := list_map_self TaskReference.decoder_toJson s.goal
  have hinit := list_map_self FactSummary.decoder_toJson s.init
  simp [decoder, toJson, hgoal, hinit]

namespace OperatorSummary

/-- What is read back of an operator. -/
def withoutNullCost (s : OperatorSummary) : OperatorSummary := { s with cost := s.cost.bind nonNull? }

theorem decoder_toJson (s : OperatorSummary) : decoder s.toJson = .ok s.withoutNullCost := by
  cases hcost : s.cost with
  | none => simp [decoder, toJson, withoutNullCost, hcost]
  | some cost => simp [decoder, toJson, withoutNullCost, hcost]

theorem withoutNullCost_eq_self_iff {s : OperatorSummary} :
    s.withoutNullCost = s ↔ s.cost ≠ some .null := by
  rw [← bind_nonNull?_eq_self_iff]
  exact ⟨congrArg cost, fun h => by rw [withoutNullCost, h]⟩

end OperatorSummary

namespace DomainSummary

def withoutNullCosts (s : DomainSummary) : DomainSummary :=
  { s with operators := s.operators.map OperatorSummary.withoutNullCost }

theorem decoder_toJson (s : DomainSummary) : decoder s.toJson = .ok s.withoutNullCosts := by
  have hoperators := list_map OperatorSummary.decoder_toJson s.operators
  have hmethods := list_map_self MethodSummary.decoder_toJson s.methods
  have haxioms := list_map_self AxiomSummary.decoder_toJson s.axioms
  simp [decoder, toJson, withoutNullCosts, hoperators, hmethods, haxioms]

theorem withoutNullCosts_eq_self_iff {s : DomainSummary} :
    s.withoutNullCosts = s ↔ ∀ op ∈ s.operators, op.cost ≠ some .null := by
  have hmap : s.withoutNullCosts = s ↔
      s.operators.map OperatorSummary.withoutNullCost = s.operators.map id := by
    rw [List.map_id]
    exact ⟨congrArg operators, fun h => by rw [withoutNullCosts, h]⟩
  rw [hmap, List.map_inj_left]
  simp only [id, OperatorSummary.withoutNullCost_eq_self_iff]

end DomainSummary

/-! ## Summaries -/

namespace Summary

/-- What is read back of a summary. -/
def withoutNullCosts (s : Summary) : Summary :=
  { s with domain := s.domain.map DomainSummary.withoutNullCosts }

theorem decoder_toJson (s : Summary) : decoder s.toJson = .ok s.withoutNullCosts := by
  obtain ⟨requirements, domain, problem⟩ := s
  have hdomain (d : DomainSummary) :
      DomainSummary.decoder.option d.toJson = .ok (some d.withoutNullCosts) := by
    change (DomainSummary.decoder d.toJson).map some = _
    rw [DomainSummary.decoder_toJson]
    rfl
  have hproblem (p : ProblemSummary) :
      ProblemSummary.decoder.option p.toJson = .ok (some p) := by
    change (ProblemSummary.decoder p.toJson).map some = _
    rw [ProblemSummary.decoder_toJson]
    rfl
  cases domain <;> cases problem <;>
    simp [decoder, toJson, withoutNullCosts, hdomain, hproblem]

theorem withoutNullCosts_eq_self_iff {s : Summary} :
    s.withoutNullCosts = s ↔
      ∀ d, s.domain = some d → ∀ op ∈ d.operators, op.cost ≠ some .null := by
  obtain ⟨requirements, domain, problem⟩ := s
  cases domain with
  | none => simp [withoutNullCosts]
  | some d => simp [withoutNullCosts, DomainSummary.withoutNullCosts_eq_self_iff]

end Summary

/-! ## Documents -/

/-- An operator in the document states null as its cost. -/
def Json.HasNullCost (v : Json) : Prop :=
  ∃ domain operators op, v.get? "domain" = some domain ∧
    domain.get? "primitive_tasks" = some (.arr operators) ∧ op ∈ operators ∧
    op.get? "cost" = some .null

theorem OperatorSummary.cost_of_read {v : Json} {s : OperatorSummary} (h : read v = .ok s) :
    s.cost = v.get? "cost" := by
  simp only [read, bind_eq_ok_iff, pure_eq_ok_iff] at h
  obtain ⟨_, -, _, -, _, -, _, -, rfl⟩ := h
  rfl

/-- The costs of the operators are those that the document states. -/
theorem DomainSummary.costs_of_read {v : Json} {s : DomainSummary} (h : read v = .ok s) :
    ∃ items, v.get? "primitive_tasks" = some (.arr items) ∧
      s.operators.map OperatorSummary.cost = items.map (get? "cost") := by
  simp only [read, bind_eq_ok_iff, pure_eq_ok_iff, requiredArray_eq_ok_iff, mapM_eq_ok_iff] at h
  obtain ⟨_, -, items, hitems, operators, hread, _, -, _, -, _, -, _, -, _, -, _, -, rfl⟩ := h
  refine ⟨items, hitems, ?_⟩
  have hcosts : List.Forall₂ (fun item op => op.cost = item.get? "cost") items operators :=
    hread.imp fun _ _ => OperatorSummary.cost_of_read
  rw [← List.forall₂_eq_eq_eq, List.forall₂_map_left_iff, List.forall₂_map_right_iff]
  exact hcosts.flip

/-- A summary has an operator whose cost is null exactly if its document has. -/
theorem Summary.exists_null_cost_iff {v : Json} {s : Summary} (h : read v = .ok s) :
    (∃ d, s.domain = some d ∧ ∃ op ∈ d.operators, op.cost = some .null) ↔ v.HasNullCost := by
  cases v with
  | obj fields =>
    obtain ⟨hdomain, -⟩ := read_eq_ok_iff.mp h
    have hmem {d : DomainSummary} {items : List Json}
        (hcosts : d.operators.map OperatorSummary.cost = items.map (get? "cost")) :
        (∃ op ∈ d.operators, op.cost = some .null) ↔ ∃ op ∈ items, op.get? "cost" = some .null := by
      rw [← List.mem_map, hcosts, List.mem_map]
    obtain ⟨hnone, hs⟩ | ⟨w, d, hget, hread, hs⟩ := readSection_eq_ok_iff.mp hdomain
    · simp [HasNullCost, hs, hnone]
    · obtain ⟨items, hitems, hcosts⟩ := DomainSummary.costs_of_read hread
      simp [HasNullCost, hs, hget, hitems, hmem hcosts]
  | _ => cases h

/-- The summary of a document is read back from what was written of it, and is the same unless the
document states null as the cost of an operator: such a cost is no longer there. -/
theorem Summary.read_back_iff {v : Json} {s : Summary} (h : read v = .ok s) :
    decoder s.toJson = .ok s.withoutNullCosts ∧
      (decoder s.toJson = .ok s ↔ ¬ v.HasNullCost) := by
  refine ⟨s.decoder_toJson, ?_⟩
  rw [s.decoder_toJson, Except.ok.injEq, withoutNullCosts_eq_self_iff, ← exists_null_cost_iff h]
  simp

/-- A domain with one operator, which has this cost. -/
def oneCost (cost : Json) : Json :=
  .obj [("domain", .obj [("axioms", .arr []), ("compound_tasks", .arr []), ("name", .str "d"),
    ("primitive_tasks", .arr [.obj [("cost", cost), ("effect", .arr []), ("name", .str "o"),
      ("parameters", .arr []), ("preconditions", .null)]]), ("procedures", .arr [])]),
    ("requirements", .arr [])]

theorem hasNullCost_oneCost_iff {cost : Json} : (oneCost cost).HasNullCost ↔ cost = .null := by
  simp [HasNullCost, oneCost, List.lookup_cons]

theorem Summary.exists_read_oneCost (cost : Json) : ∃ s, read (oneCost cost) = .ok s := ⟨_, rfl⟩

theorem Summary.read_back_number :
    ∃ s, read (oneCost (.int 1)) = .ok s ∧ decoder s.toJson = .ok s := by
  obtain ⟨s, hread⟩ := exists_read_oneCost (.int 1)
  have hcost : ¬ (oneCost (.int 1)).HasNullCost := by simp [hasNullCost_oneCost_iff]
  exact ⟨s, hread, (read_back_iff hread).2.mpr hcost⟩

/-- A null cost is in the summary, and no longer there when the summary is read back. -/
theorem Summary.null_cost_not_read_back :
    ∃ s, read (oneCost .null) = .ok s ∧ decoder s.toJson ≠ .ok s := by
  obtain ⟨s, hread⟩ := exists_read_oneCost .null
  obtain ⟨d, hdomain, op, hop, hcost⟩ :=
    (exists_null_cost_iff hread).mpr (hasNullCost_oneCost_iff.mpr rfl)
  refine ⟨s, hread, fun hback => ?_⟩
  rw [decoder_toJson, Except.ok.injEq, withoutNullCosts_eq_self_iff] at hback
  exact hback d hdomain op hop hcost

end TaskNetwork
