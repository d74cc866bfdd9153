import TaskNetwork.Document.Basic
import TaskNetwork.Proofs.Domain.Run
import TaskNetwork.Proofs.Symbol.History

/-!
# Problems over a domain

A problem keeps the names of its domain at their places and puts its own after them, so what was
written of the domain stays true in the problem. Any number of problems can be in the making over
one domain at the same time; none of them is noticed by the domain or by another one.
-/

namespace TaskNetwork

namespace ProblemBuilder

/-- A call of a builder of problems. A constant is interned like any other symbol. -/
inductive Call where
  | intern (c : Category) (name : String)
  | addFact (fact : Predicate)
  | setGoal (goal : TaskList)

def apply (b : ProblemBuilder) : Call → ProblemBuilder
  | .intern c name => (b.intern c name).2
  | .addFact fact => b.addFact fact
  | .setGoal goal => b.setGoal goal

def run (b : ProblemBuilder) (calls : List Call) : ProblemBuilder := calls.foldl apply b

/-- What a call does to the symbols, if anything. -/
def Call.operation? : Call → Option SymbolTable.Operation
  | intern c name => some (.intern c name)
  | addFact _ | setGoal _ => none

/-- The constant that a call interns. -/
def Call.constant? : Call → Option String
  | intern .constant name => some name
  | _ => none

/-- Only interning changes the symbols. -/
theorem symbols_run (b : ProblemBuilder) (calls : List Call) :
    (b.run calls).problem.symbols = b.problem.symbols.run (calls.filterMap Call.operation?) := by
  induction calls generalizing b with
  | nil => rfl
  | cons call rest ih =>
    cases call with
    | intern c name => exact ih (b.intern c name).2
    | addFact fact => exact ih (b.addFact fact)
    | setGoal goal => exact ih (b.setGoal goal)

theorem interned_constant (calls : List Call) :
    SymbolTable.interned (calls.filterMap Call.operation?) .constant =
      calls.filterMap Call.constant? := by
  rw [SymbolTable.interned, List.filterMap_filterMap]
  refine List.filterMap_congr fun call _ => ?_
  cases call with
  | intern c name => cases c <;> rfl
  | addFact fact => rfl
  | setGoal goal => rfl

end ProblemBuilder

/-- The problem means by the symbols of the domain what the domain means by them, and tells the
constants of the domain from its own. -/
structure Problem.Extends (p : Problem) (domain : Domain) : Prop where
  names : ∀ c, domain.symbols.names c <+: p.symbols.names c
  resolve : ∀ c i, i < domain.symbols.size c → p.symbols.resolve c i = domain.symbols.resolve c i
  domainConstants : p.symbols.domainConstants = domain.symbols.size .constant

namespace ProblemBuilder

section

variable {domain : Domain} (frozen : domain.symbols.frozenAt = some (domain.symbols.size .constant))
  (title : String) (calls : List Call)

include frozen

theorem symbols_finish : ((new domain title).run calls).finish.symbols =
    domain.symbols.run (calls.filterMap Call.operation?) := by
  rw [finish, symbols_run, new, SymbolTable.freeze_of_some frozen]

theorem extends_finish : ((new domain title).run calls).finish.Extends domain := by
  have hsymbols := symbols_finish frozen title calls
  refine ⟨?_, ?_, ?_⟩
  · intro c
    rw [hsymbols]
    exact domain.symbols.names_prefix_run _ c
  · intro c i hi
    have hname : domain.symbols.name? c i = some ((domain.symbols.names c)[i]) :=
      List.getElem?_eq_getElem hi
    rw [hsymbols, SymbolTable.resolve, SymbolTable.name?_run hname, SymbolTable.resolve, hname]
  · rw [hsymbols, SymbolTable.domainConstants, SymbolTable.frozenAt_run_of_some frozen,
      Option.getD_some]

/-- The additional constants of a problem are those that it interns and the domain does not have,
each at its first use. -/
theorem additionalConstants_finish (coherent : domain.symbols.Coherent) :
    ((new domain title).run calls).finish.additionalConstants =
      ((calls.filterMap Call.constant?).removeAll (domain.symbols.names .constant)).eraseDups := by
  have hcount := (extends_finish frozen title calls).domainConstants
  rw [Problem.additionalConstants, SymbolTable.map_snd_problemConstants, hcount,
    symbols_finish frozen, SymbolTable.names_run_of_coherent coherent, SymbolTable.size,
    List.drop_left, interned_constant]

end

end ProblemBuilder

/-! ## Many problems -/

/-- A domain, with problems that are made over it. -/
structure Session where
  domain : Domain
  problems : List ProblemBuilder := []

namespace Session

/-- One step in the making of problems, which are numbered as they are begun. -/
inductive Step where
  | begin (title : String)
  | call (number : Nat) (call : ProblemBuilder.Call)

def apply (s : Session) : Step → Session
  | .begin title => { s with problems := s.problems ++ [.new s.domain title] }
  | .call number call => { s with problems := s.problems.modify number (·.apply call) }

def run (s : Session) (steps : List Step) : Session := steps.foldl apply s

def Step.title? : Step → Option String
  | begin title => some title
  | call _ _ => none

/-- The calls for one problem, where some problems are begun already. -/
def callsTo (number : Nat) : Nat → List Step → List ProblemBuilder.Call
  | _, [] => []
  | begun, .begin _ :: rest => callsTo number (begun + 1) rest
  | begun, .call other call :: rest =>
    if other = number ∧ number < begun then call :: callsTo number begun rest
    else callsTo number begun rest

/-- No step changes the domain. -/
theorem domain_run (s : Session) (steps : List Step) : (s.run steps).domain = s.domain := by
  induction steps generalizing s with
  | nil => rfl
  | cons step rest ih =>
    rw [run, List.foldl_cons]
    exact (ih (s.apply step)).trans (by cases step <;> rfl)

/-- Each problem becomes what its own calls make of it, whatever is done to others in between. -/
theorem getElem?_problems_run (s : Session) (steps : List Step) (i : Nat) :
    (s.run steps).problems[i]? =
      (s.problems ++ (steps.filterMap Step.title?).map (.new s.domain))[i]?.map
        (·.run (callsTo i s.problems.length steps)) := by
  induction steps generalizing s with
  | nil =>
    have hrun : (fun b : ProblemBuilder => b.run []) = id := rfl
    simp [run, callsTo, hrun]
  | cons step rest ih =>
    have hnext := ih (s.apply step)
    rw [run, List.foldl_cons]
    rw [run] at hnext
    rw [hnext]
    cases step with
    | begin title => simp [apply, callsTo, Step.title?]
    | call number call =>
      have htitles : (Step.call number call :: rest).filterMap Step.title? =
          rest.filterMap Step.title? := rfl
      rw [htitles]
      by_cases hi : i < s.problems.length
      · by_cases hnumber : number = i <;>
          simp [apply, callsTo, hi, hnumber, List.getElem?_append_left, ProblemBuilder.run]
      · simp [apply, callsTo, hi, List.getElem?_append_right, Nat.not_lt.mp hi]

/-- A problem extends its domain by the constants that it names and the domain does not have. Over
one domain any number of problems can be made, each by its own calls alone; the domain stays as it
was, and so do its sections in a document, also in one that holds a problem besides. -/
theorem conservative (name : String) (domainCalls : List DomainBuilder.Call) :
    let domain := ((DomainBuilder.new name).run domainCalls).finish
    (∀ title calls,
      let p := ((ProblemBuilder.new domain title).run calls).finish
      p.Extends domain ∧
        p.additionalConstants =
          ((calls.filterMap ProblemBuilder.Call.constant?).removeAll
            (domain.symbols.names .constant)).eraseDups) ∧
      ∀ steps,
        let s := (Session.mk domain []).run steps
        (∀ i title, (steps.filterMap Step.title?)[i]? = some title →
          s.problems[i]? = some ((ProblemBuilder.new domain title).run (callsTo i 0 steps))) ∧
        s.domain = domain ∧
        ∀ options, s.domain.encode options = domain.encode options ∧
          s.domain.requirements = domain.requirements ∧
          ∀ p, ∀ key ∈ ["domain", "requirements"],
            (Document.build s.domain (some p) options).toJson.get? key =
              (Document.build domain none options).toJson.get? key := by
  intro domain
  have frozen := DomainBuilder.frozenAt_finish name domainCalls
  have coherent : domain.symbols.Coherent := by
    obtain ⟨operations, h⟩ := DomainBuilder.exists_symbols_finish_eq name domainCalls
    rw [h]
    exact SymbolTable.coherent_run operations
  refine ⟨?_, ?_⟩
  · intro title calls
    exact ⟨ProblemBuilder.extends_finish frozen title calls,
      ProblemBuilder.additionalConstants_finish frozen title calls coherent⟩
  · intro steps s
    have hdomain : s.domain = domain := domain_run ⟨domain, []⟩ steps
    refine ⟨?_, hdomain, ?_⟩
    · intro i title htitle
      have hproblem := getElem?_problems_run ⟨domain, []⟩ steps i
      simpa [htitle] using hproblem
    · intro options
      rw [hdomain]
      refine ⟨rfl, rfl, ?_⟩
      simp [Document.build, Document.withRequirements]

end Session

end TaskNetwork
