import TaskNetwork.Domain.Encoding
import TaskNetwork.Problem.Encoding
import TaskNetwork.Requirement.Analysis
import TaskNetwork.Json.Printer

/-!
# Documents

A document holds the requirements and the encoded domain, the encoded problem, or both.
-/

namespace TaskNetwork

structure Document where
  requirements : Option RequirementSet := none
  domain : Option Json := none
  problem : Option Json := none

namespace Document

/-- A document for a domain with requirements that were found elsewhere. -/
def withRequirements (domain : Domain) (requirements : RequirementSet) (problem : Option Problem)
    (options : EncoderOptions) : Document where
  requirements := some requirements
  domain := some (domain.encode options)
  problem := problem.map (Problem.encode options)

/-- The document of a domain and perhaps a problem over it. -/
def build (domain : Domain) (problem : Option Problem) (options : EncoderOptions) : Document :=
  withRequirements domain domain.requirements problem options

def problemOnly (problem : Problem) (options : EncoderOptions) : Document where
  problem := some (problem.encode options)

/-- The document with another problem, and the section that it replaces. -/
def attachProblem (d : Document) (problem : Problem) (options : EncoderOptions) :
    Option Json × Document :=
  (d.problem, { d with problem := some (problem.encode options) })

def toJson (d : Document) : Json :=
  .obj (d.domain.toList.map (("domain", ·)) ++ d.problem.toList.map (("problem", ·)) ++
    d.requirements.toList.map fun requirements => ("requirements", requirements.toJson))

@[simp] theorem get?_toJson_domain (d : Document) : d.toJson.get? "domain" = d.domain := by
  obtain ⟨requirements, domain, problem⟩ := d
  cases domain <;> cases problem <;> cases requirements <;> rfl

@[simp] theorem get?_toJson_problem (d : Document) : d.toJson.get? "problem" = d.problem := by
  obtain ⟨requirements, domain, problem⟩ := d
  cases domain <;> cases problem <;> cases requirements <;> rfl

@[simp] theorem get?_toJson_requirements (d : Document) :
    d.toJson.get? "requirements" = d.requirements.map RequirementSet.toJson := by
  obtain ⟨requirements, domain, problem⟩ := d
  cases domain <;> cases problem <;> cases requirements <;> rfl

def render (d : Document) (layout : Json.Layout) : String := d.toJson.render layout

end Document

end TaskNetwork
