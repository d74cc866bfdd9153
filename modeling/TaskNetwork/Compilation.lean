import TaskNetwork.Dispatch
import TaskNetwork.Document.Basic

/-!
# Compilation

What is made of a domain in one go.
-/

namespace TaskNetwork

structure Compilation where
  requirements : RequirementSet
  dispatch : DispatchTable
  document : Document

/-- The requirements, the dispatch table and the document of a domain. -/
def Domain.compile (domain : Domain) (problem : Option Problem) (options : EncoderOptions) :
    Compilation :=
  let requirements := domain.requirements
  { requirements, dispatch := .ofDomain domain,
    document := .withRequirements domain requirements problem options }

end TaskNetwork
