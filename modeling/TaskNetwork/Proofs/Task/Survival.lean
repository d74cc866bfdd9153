import Mathlib.Data.List.Forall2
import TaskNetwork.Proofs.Summary.Reading

/-!
# What is left of a task list

A task list is written as one array and read back as references to its tasks. The tasks that lie
under too many sequences do not survive: where the limit is passed, each list leaves one error node
in the array, and what the reader finds around these nodes are the other tasks in their order.
-/

namespace TaskNetwork

/-- The reference gives the name and the kind of the atom. -/
def TaskReference.RefersTo (enc : Encoder) (r : TaskReference) (a : TaskAtom) : Prop :=
  r.name = enc.symbolName a.category a.head.head ∧ (r.kind = .primitive ↔ a.isPrimitive = true)

theorem TaskAtom.refersTo_reference (enc : Encoder) (depth : Nat) (a : TaskAtom) :
    (a.reference enc depth).RefersTo enc a := by
  refine ⟨rfl, ?_⟩
  cases h : a.isPrimitive <;> simp [reference, h]

namespace TaskList

/-- The atoms from left to right that have at most so many sequences around them. -/
def atomsWithin (limit : Nat) (list : TaskList) : List TaskAtom :=
  ((list.atomsAt 0).filter fun (depth, _) => depth ≤ limit).map Prod.snd

/-- The lists right inside so many nested sequences, from left to right. -/
def listsUnder : Nat → TaskList → List TaskList
  | 0, list => [list]
  | n + 1, sequence children => children.flatMap (listsUnder n)
  | _ + 1, empty | _ + 1, atom _ => []

/-- An array of nodes, and the tasks that were read from it, keep of a task list what is within the
depth limit. -/
structure Keeps (enc : Encoder) (list : TaskList) (nodes : List Json)
    (tasks : List TaskReference) : Prop where
  /-- The tasks are the atoms within the limit. -/
  within : List.Forall₂ (TaskReference.RefersTo enc) tasks (list.atomsWithin enc.options.maxDepth)
  /-- Every list that passes the limit leaves one error node. -/
  cut : nodes.countP Json.isErrorNode = (list.listsUnder (enc.options.maxDepth + 1)).length
  /-- Where no list does, the tasks are all atoms. -/
  whole : list.listsUnder (enc.options.maxDepth + 1) = [] →
    List.Forall₂ (TaskReference.RefersTo enc) tasks list.atoms

theorem atomsList_eq_flatMap (children : List TaskList) :
    atomsList children = children.flatMap atoms := by
  induction children with
  | nil => rfl
  | cons child rest ih => simp [atomsList, ih]

theorem map_snd_atomsAt (depth : Nat) (list : TaskList) :
    (list.atomsAt depth).map Prod.snd = list.atoms := by
  induction list generalizing depth with
  | empty => rfl
  | atom a => rfl
  | sequence children ih =>
    rw [atomsAt, atomsListAt_eq_flatMap, atoms, atomsList_eq_flatMap, List.map_flatMap]
    exact List.flatMap_congr fun child hchild => ih child hchild (depth + 1)

/-- The error nodes are those of the lists in the first level that is too deep. -/
theorem countP_isErrorNode_nodesAt {enc : Encoder} {n depth : Nat}
    (h : depth + n = enc.options.maxDepth + 1) (list : TaskList) :
    (list.nodesAt enc depth).countP Json.isErrorNode = (list.listsUnder n).length := by
  induction n generalizing depth list with
  | zero =>
    have hdeep : enc.allows depth = false := by
      simp [Encoder.allows]
      omega
    rw [nodesAt.eq_def]
    simp [hdeep, listsUnder, Encoder.isErrorNode_tooDeep]
  | succ n ih =>
    have hallows : enc.allows depth = true := by
      simp [Encoder.allows]
      omega
    rw [nodesAt.eq_def, if_pos hallows]
    cases list with
    | empty => rfl
    | atom a => simp [listsUnder, TaskAtom.isErrorNode_encodeAt]
    | sequence children =>
      have hnext : depth + 1 + n = enc.options.maxDepth + 1 := by omega
      simp only [nodesListAt_eq_flatMap, listsUnder, List.countP_flatMap, List.length_flatMap,
        Function.comp_def, ih hnext]

/-- Without a list in that level, no atom is too deep. -/
theorem le_of_listsUnder_eq_nil {limit n depth : Nat} (h : depth + n = limit + 1) {list : TaskList}
    (hnone : list.listsUnder n = []) : ∀ x ∈ list.atomsAt depth, x.1 ≤ limit := by
  induction n generalizing depth list with
  | zero => cases hnone
  | succ n ih =>
    cases list with
    | empty => simp [atomsAt]
    | atom a =>
      simp [atomsAt]
      omega
    | sequence children =>
      rw [listsUnder, List.flatMap_eq_nil_iff] at hnone
      rw [atomsAt, atomsListAt_eq_flatMap]
      intro x hx
      obtain ⟨child, hchild, hmem⟩ := List.mem_flatMap.mp hx
      exact ih (by omega) (hnone child hchild) x hmem

theorem atomsWithin_eq_atoms {limit : Nat} {list : TaskList}
    (hnone : list.listsUnder (limit + 1) = []) : list.atomsWithin limit = list.atoms := by
  have hall : (list.atomsAt 0).filter (fun (depth, _) => depth ≤ limit) = list.atomsAt 0 :=
    List.filter_eq_self.mpr fun x hx =>
      decide_eq_true (le_of_listsUnder_eq_nil (by omega) hnone x hx)
  rw [atomsWithin, hall, map_snd_atomsAt]

theorem forall₂_references (enc : Encoder) (list : TaskList) :
    List.Forall₂ (TaskReference.RefersTo enc) (list.references enc)
      (list.atomsWithin enc.options.maxDepth) := by
  rw [references, atomsWithin, List.forall₂_map_left_iff, List.forall₂_map_right_iff]
  exact List.forall₂_same.mpr fun (depth, a) _ => a.refersTo_reference enc depth

theorem keeps_references (enc : Encoder) (list : TaskList) :
    list.Keeps enc (list.nodesAt enc 0) (list.references enc) where
  within := list.forall₂_references enc
  cut := countP_isErrorNode_nodesAt (Nat.zero_add _) list
  whole hnone := atomsWithin_eq_atoms hnone ▸ list.forall₂_references enc

/-- A task list can always be read back, and it keeps its tasks as far as the depth limit goes,
whether it stands alone, in the branches of a method or in the goal of a problem. -/
theorem written_tasks_kept (enc : Encoder) :
    (∀ list : TaskList, ∃ nodes tasks, list.encode enc = .arr nodes ∧
      TaskReference.readAll (list.encode enc) = .ok tasks ∧ list.Keeps enc nodes tasks) ∧
    (∀ method : Method, ∃ summary, MethodSummary.read (method.encode enc) = .ok summary ∧
      List.Forall₂ (fun (branch : MethodBranch) (s : BranchSummary) =>
          ∃ nodes, (branch.encode enc).get? "tasks" = some (.arr nodes) ∧
            branch.tasks.Keeps enc nodes s.tasks)
        method.branches summary.branches) ∧
    ∀ problem : Problem, ∃ summary goal nodes,
      ProblemSummary.read (problem.encode enc.options) = .ok summary ∧
        (problem.encode enc.options).get? "goal" = some goal ∧
        goal.get? "tasks" = some (.arr nodes) ∧
        problem.goal.Keeps ⟨problem.symbols, enc.options⟩ nodes summary.goal := by
  refine ⟨?_, ?_, ?_⟩
  · intro list
    exact ⟨_, _, rfl, list.readAll_encode enc, list.keeps_references enc⟩
  · intro method
    refine ⟨_, method.read_encode enc, ?_⟩
    rw [Method.summary, List.forall₂_map_right_iff, List.forall₂_same]
    intro branch _
    exact ⟨_, rfl, branch.tasks.keeps_references enc⟩
  · intro problem
    exact ⟨_, _, _, problem.read_encode enc.options, rfl, rfl, problem.goal.keeps_references _⟩

end TaskList

end TaskNetwork
