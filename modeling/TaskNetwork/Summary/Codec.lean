import TaskNetwork.Json.Decoder
import TaskNetwork.Summary.Basic

/-!
# Summaries as JSON

A summary is written with a field for each of its parts, of which the optional ones are left out
when they are absent, and read back by a record decoder. Null stands for an absent part as well.
-/

namespace TaskNetwork

open Json (Decoder Record)

namespace TaskKind

def decoder : Decoder TaskKind := .variant [("primitive", primitive), ("compound", compound)]

end TaskKind

namespace TaskReference

def toJson (t : TaskReference) : Json :=
  .obj [("kind", .str t.kind.label), ("name", .str t.name), ("parameters", t.parameters)]

def decoder : Decoder TaskReference :=
  Record.decoder ((Record.none TaskReference.mk)
    |>.and (.required "name" .string)
    |>.and (.required "kind" TaskKind.decoder)
    |>.and (.required "parameters" .any)) "TaskRef"

end TaskReference

namespace OperatorSummary

def toJson (s : OperatorSummary) : Json :=
  .obj ([("arity", Json.int s.arity)] ++ s.cost.toList.map (("cost", ·)) ++
    [("effects", .int s.effects), ("error_nodes", .int s.errorNodes), ("name", .str s.name),
      ("preconditions", s.preconditions)])

def decoder : Decoder OperatorSummary :=
  Record.decoder ((Record.none OperatorSummary.mk)
    |>.and (.required "name" .string)
    |>.and (.required "arity" .size)
    |>.and (.required "preconditions" .any)
    |>.and (.required "effects" .size)
    |>.and (.optional "cost" .any)
    |>.and (.required "error_nodes" .size)) "OperatorSummary"

end OperatorSummary

namespace BranchSummary

def toJson (s : BranchSummary) : Json :=
  .obj [("name", .str s.name), ("preconditions", s.preconditions),
    ("tasks", .arr (s.tasks.map TaskReference.toJson))]

def decoder : Decoder BranchSummary :=
  Record.decoder ((Record.none BranchSummary.mk)
    |>.and (.required "name" .string)
    |>.and (.required "preconditions" .any)
    |>.and (.required "tasks" (.list TaskReference.decoder))) "BranchSummary"

end BranchSummary

namespace MethodSummary

def toJson (s : MethodSummary) : Json :=
  .obj [("arity", .int s.arity), ("branches", .arr (s.branches.map BranchSummary.toJson)),
    ("error_nodes", .int s.errorNodes), ("name", .str s.name)]

def decoder : Decoder MethodSummary :=
  Record.decoder ((Record.none MethodSummary.mk)
    |>.and (.required "name" .string)
    |>.and (.required "arity" .size)
    |>.and (.required "branches" (.list BranchSummary.decoder))
    |>.and (.required "error_nodes" .size)) "MethodSummary"

end MethodSummary

namespace AxiomSummary

def toJson (s : AxiomSummary) : Json :=
  .obj [("arity", .int s.arity), ("branches", .strings s.branches),
    ("error_nodes", .int s.errorNodes), ("name", .str s.name)]

def decoder : Decoder AxiomSummary :=
  Record.decoder ((Record.none AxiomSummary.mk)
    |>.and (.required "name" .string)
    |>.and (.required "arity" .size)
    |>.and (.required "branches" (.list .string))
    |>.and (.required "error_nodes" .size)) "AxiomSummary"

end AxiomSummary

namespace DomainSummary

def toJson (s : DomainSummary) : Json :=
  .obj [("axioms", .arr (s.axioms.map AxiomSummary.toJson)),
    ("methods", .arr (s.methods.map MethodSummary.toJson)), ("name", .str s.name),
    ("operators", .arr (s.operators.map OperatorSummary.toJson)),
    ("procedures", .strings s.procedures)]

def decoder : Decoder DomainSummary :=
  Record.decoder ((Record.none DomainSummary.mk)
    |>.and (.required "name" .string)
    |>.and (.required "operators" (.list OperatorSummary.decoder))
    |>.and (.required "methods" (.list MethodSummary.decoder))
    |>.and (.required "axioms" (.list AxiomSummary.decoder))
    |>.and (.required "procedures" (.list .string))) "DomainSummary"

end DomainSummary

namespace FactSummary

def toJson (s : FactSummary) : Json :=
  .obj [("parameters", .strings s.parameters), ("predicate", .str s.predicate)]

def decoder : Decoder FactSummary :=
  Record.decoder ((Record.none FactSummary.mk)
    |>.and (.required "predicate" .string)
    |>.and (.required "parameters" (.list .string))) "Fact"

end FactSummary

namespace ProblemSummary

def toJson (s : ProblemSummary) : Json :=
  .obj [("additional_constants", .strings s.additionalConstants),
    ("goal", .arr (s.goal.map TaskReference.toJson)),
    ("init", .arr (s.init.map FactSummary.toJson)), ("name", .str s.name)]

def decoder : Decoder ProblemSummary :=
  Record.decoder ((Record.none ProblemSummary.mk)
    |>.and (.required "name" .string)
    |>.and (.required "goal" (.list TaskReference.decoder))
    |>.and (.required "init" (.list FactSummary.decoder))
    |>.and (.required "additional_constants" (.list .string))) "ProblemSummary"

end ProblemSummary

namespace Summary

def toJson (s : Summary) : Json :=
  .obj (s.domain.toList.map (("domain", ·.toJson)) ++
    s.problem.toList.map (("problem", ·.toJson)) ++ [("requirements", .strings s.requirements)])

def decoder : Decoder Summary :=
  Record.decoder ((Record.none Summary.mk)
    |>.and (.required "requirements" (.list .string))
    |>.and (.optional "domain" DomainSummary.decoder)
    |>.and (.optional "problem" ProblemSummary.decoder)) "IrBundle"

end Summary

end TaskNetwork
