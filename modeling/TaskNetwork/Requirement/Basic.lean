import TaskNetwork.Json.Basic

/-!
# Requirements

The language features that a domain can use, and sets of them. A set lists its members in the order
of their tags.
-/

namespace TaskNetwork

/-- A language feature, in the order of the tags. -/
inductive Requirement where
  | conditionalEffects
  | disjunction
  | externalAssignment
  | externalCall
  | negation
  | baseFeatures
  | universalQuantification
deriving DecidableEq

namespace Requirement

def all : List Requirement :=
  [conditionalEffects, disjunction, externalAssignment, externalCall, negation, baseFeatures,
    universalQuantification]

theorem mem_all (r : Requirement) : r ∈ all := by cases r <;> decide

def tag : Requirement → String
  | conditionalEffects => ":CE"
  | disjunction => ":DP"
  | externalAssignment => ":E"
  | externalCall => ":F"
  | negation => ":NP"
  | baseFeatures => ":S"
  | universalQuantification => ":UP"

def ofTag? (tag : String) : Option Requirement := all.find? (·.tag == tag)

/-- The name of the feature in words. -/
def feature : Requirement → String
  | conditionalEffects => "conditional-effects"
  | disjunction => "disjunction"
  | externalAssignment => "external-assignment"
  | externalCall => "external-call"
  | negation => "negation"
  | baseFeatures => "base-features"
  | universalQuantification => "universal-quantification"

end Requirement

/-- A set of requirements, by its members in the order of their tags. -/
structure RequirementSet where
  toList : List Requirement
  ordered : Requirement.all.filter toList.contains = toList

namespace RequirementSet

/-- The requirements with a property. -/
def ofPred (p : Requirement → Bool) : RequirementSet where
  toList := Requirement.all.filter p
  ordered := by
    refine List.filter_congr fun r hr => ?_
    by_cases h : p r <;> simp [h, Requirement.mem_all]

def empty : RequirementSet := ofPred fun _ => false

def contains (s : RequirementSet) (r : Requirement) : Bool := s.toList.contains r

def insert (s : RequirementSet) (r : Requirement) : RequirementSet :=
  ofPred fun x => x == r || s.contains x

def ofList (rs : List Requirement) : RequirementSet := ofPred rs.contains

def size (s : RequirementSet) : Nat := s.toList.length

def isEmpty (s : RequirementSet) : Bool := s.toList.isEmpty

def isSuperset (s t : RequirementSet) : Bool := t.toList.all s.contains

def tags (s : RequirementSet) : List String := s.toList.map Requirement.tag

def toJson (s : RequirementSet) : Json := .strings s.tags

@[simp] theorem contains_ofPred (p : Requirement → Bool) (r : Requirement) :
    (ofPred p).contains r = p r := by
  by_cases h : p r <;> simp [ofPred, contains, h, Requirement.mem_all]

@[simp] theorem contains_insert (s : RequirementSet) (r x : Requirement) :
    (s.insert r).contains x = (x == r || s.contains x) := by
  simp [insert]

theorem ext_contains {s t : RequirementSet} (h : ∀ r, s.contains r = t.contains r) : s = t := by
  obtain ⟨l, hl⟩ := s
  obtain ⟨m, hm⟩ := t
  have : l.contains = m.contains := funext h
  have : l = m := by rw [← hl, ← hm, this]
  subst this
  rfl

end RequirementSet

end TaskNetwork
