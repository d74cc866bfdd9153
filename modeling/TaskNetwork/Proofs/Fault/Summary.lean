import TaskNetwork.Proofs.Fault.Containment
import TaskNetwork.Proofs.Task.Survival

/-!
# Faults in summaries

The entries that a reader leaves out of a task list are gone from the summary, and all that can tell
of them is a number of error nodes. Those left out of the branches of a method are among the error
nodes of the method. Those left out of a goal are not counted: the number of error nodes in a
summary is that of the fault sites of the domain, whatever the problem is.
-/

namespace TaskNetwork

/-! ## Entries that are left out -/

/-- The number of entries in the array of the list that a reader leaves out. -/
def TaskList.leftOut (enc : Encoder) (list : TaskList) : Nat :=
  (list.nodesAt enc 0).countP Json.isErrorNode

/-- The number of entries that a reader leaves out of the branches of the method. -/
def Method.leftOut (enc : Encoder) (method : Method) : Nat :=
  (method.branches.map fun branch => branch.tasks.leftOut enc).sum

/-- Every entry is read or left out. -/
theorem TaskList.length_references_add_leftOut (enc : Encoder) (list : TaskList) :
    (list.references enc).length + list.leftOut enc = (list.nodesAt enc 0).length := by
  have hread : (list.references enc).length =
      ((list.nodesAt enc 0).filter fun node => !node.isErrorNode).length := by
    rw [filter_nodesAt, references, List.length_map, List.length_map]
  rw [hread, leftOut, ← List.countP_eq_length_filter, Nat.add_comm]
  simp [List.length_eq_countP_add_countP Json.isErrorNode]

theorem TaskList.leftOut_le_errorCount (enc : Encoder) (list : TaskList) :
    list.leftOut enc ≤ (list.encode enc).errorCount :=
  Json.countP_isErrorNode_le _

/-- What is left out of the branches is among the error nodes of the method. -/
theorem Method.leftOut_le_errorCount (enc : Encoder) (method : Method) :
    method.leftOut enc ≤ (method.encode enc).errorCount := by
  have hbranch (branch : MethodBranch) :
      branch.tasks.leftOut enc ≤ (branch.encode enc).errorCount := by
    have htasks : (branch.encode enc).get? "tasks" = some (branch.tasks.encode enc) := rfl
    exact (branch.tasks.leftOut_le_errorCount enc).trans (Json.errorCount_le_of_get? htasks)
  have hbranches : (method.encode enc).get? "methods" =
      some (.arr (method.branches.map (MethodBranch.encode enc))) := rfl
  calc method.leftOut enc
    _ ≤ (method.branches.map fun branch => (branch.encode enc).errorCount).sum :=
        List.sum_le_sum fun branch _ => hbranch branch
    _ = (Json.arr (method.branches.map (MethodBranch.encode enc))).errorCount := by
        rw [Json.errorCount_arr, List.map_map]
        rfl
    _ ≤ (method.encode enc).errorCount := Json.errorCount_le_of_get? hbranches

/-! ## What is counted -/

/-- The number of entries that a reader leaves out of the methods of the domain. -/
def Domain.leftOut (options : EncoderOptions) (domain : Domain) : Nat :=
  (domain.methods.map (Method.leftOut ⟨domain.symbols, options⟩)).sum

/-- The number of entries that a reader leaves out of the goal of the problem. -/
def Problem.leftOut (options : EncoderOptions) (p : Problem) : Nat :=
  p.goal.leftOut ⟨p.symbols, options⟩

/-- The number of error nodes that a summary tells of. -/
def Summary.errorNodes (s : Summary) : Nat := s.domain.elim 0 DomainSummary.errorNodes

theorem Domain.leftOut_le_errorNodes (options : EncoderOptions) (domain : Domain) :
    domain.leftOut options ≤ (domain.summary options).errorNodes := by
  let enc : Encoder := ⟨domain.symbols, options⟩
  have hmethods : domain.leftOut options ≤
      (domain.methods.map fun method => (method.encode enc).errorCount).sum :=
    List.sum_le_sum fun method _ => method.leftOut_le_errorCount enc
  have hsummaries : (domain.summary options).methods.map MethodSummary.errorNodes =
      domain.methods.map fun method => (method.encode enc).errorCount := List.map_map
  rw [← hsummaries] at hmethods
  simp only [DomainSummary.errorNodes, DomainSummary.total_eq_sum]
  omega

theorem Domain.errorNodes_eq_length (options : EncoderOptions) (domain : Domain) :
    (domain.summary options).errorNodes = (domain.faultSites options.maxDepth).length := by
  rw [domain.errorNodes_summary, domain.errorCount_encode]

theorem Problem.leftOut_eq_length (options : EncoderOptions) (p : Problem) :
    p.leftOut options = (p.goal.listsUnder (options.maxDepth + 1)).length :=
  TaskList.countP_isErrorNode_nodesAt (Nat.zero_add _) p.goal

namespace Document

/-- A reader leaves out of a task list its error nodes. Those of a method are among the error nodes
that the summary tells of. Those of a goal, which are the lists that pass the depth limit, are not:
what is left out is noticed exactly if none of it was in the goal or the domain has a fault site,
and without a domain it never is. -/
theorem left_out_counted (domain : Domain) (problem : Option Problem) (options : EncoderOptions) :
    (∀ (enc : Encoder) (list : TaskList), ∃ nodes tasks, list.encode enc = .arr nodes ∧
      TaskReference.readAll (list.encode enc) = .ok tasks ∧
        tasks.length + list.leftOut enc = nodes.length) ∧
    (∃ s d, Summary.read (build domain problem options).toJson = .ok s ∧ s.domain = some d ∧
      List.Forall₂ (fun (method : Method) (m : MethodSummary) =>
        method.leftOut ⟨domain.symbols, options⟩ ≤ m.errorNodes) domain.methods d.methods ∧
      domain.leftOut options ≤ s.errorNodes ∧
      ((0 < domain.leftOut options + problem.elim 0 (Problem.leftOut options) → 0 < s.errorNodes) ↔
        problem.elim 0 (Problem.leftOut options) = 0 ∨
          domain.faultSites options.maxDepth ≠ [])) ∧
    (∀ p : Problem, ∃ s, Summary.read (problemOnly p options).toJson = .ok s ∧ s.errorNodes = 0) ∧
    ∀ p : Problem,
      p.leftOut options = (p.goal.listsUnder (options.maxDepth + 1)).length := by
  refine ⟨?_, ?_, ?_, fun p => p.leftOut_eq_length options⟩
  · intro enc list
    exact ⟨_, _, rfl, list.readAll_encode enc, list.length_references_add_leftOut enc⟩
  · have hcounted := domain.leftOut_le_errorNodes options
    have hrequirements : (build domain problem options).requirements ≠ none :=
      Option.some_ne_none domain.requirements
    have hread := read_toJson (d := build domain problem options) (some domain) problem rfl rfl
      (.inl (Option.some_ne_none domain)) fun hnone => absurd hnone hrequirements
    refine ⟨_, _, hread, rfl, ?_, hcounted, ?_⟩
    · rw [Domain.summary, List.forall₂_map_right_iff, List.forall₂_same]
      exact fun method _ => method.leftOut_le_errorCount _
    · change (_ → 0 < (domain.summary options).errorNodes) ↔ _
      rw [← List.length_pos_iff, ← domain.errorNodes_eq_length]
      omega
  · intro p
    exact ⟨_, read_toJson none (some p) rfl rfl (.inr (Option.some_ne_none p)) fun _ => rfl, rfl⟩

/-- A goal that is cut off entirely, which reads as one that is empty. -/
theorem cut_goal_uncounted :
    let domain := (DomainBuilder.new "d").finish
    let b := ((ProblemBuilder.new domain "p").intern .primitiveTask "!go").2
    let cut := (b.setGoal (.sequence [.atom (.ofPrimitive 0 [])])).finish
    let complete := (b.setGoal .empty).finish
    let options : EncoderOptions := { maxDepth := 0 }
    cut.leftOut options = 1 ∧ complete.leftOut options = 0 ∧
      ∃ s, Summary.read (build domain (some cut) options).toJson = .ok s ∧
        Summary.read (build domain (some complete) options).toJson = .ok s ∧ s.errorNodes = 0 :=
  ⟨rfl, rfl, _, rfl, rfl, rfl⟩

end Document

end TaskNetwork
