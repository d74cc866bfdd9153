import TaskNetwork.Proofs.CommandLine.Effects
import TaskNetwork.Proofs.Schema.Errors

/-!
# Answers of commands

Which report a command ends in, by what is in the files that it reads.
-/

namespace TaskNetwork

namespace Command

open TaskNetwork.Action

variable {d : Directory} {host : Host} {settings : Settings}

theorem answer_runValidate_iff {file : String} {report : Report} :
    ((runValidate settings file).on d host).1 = .ok report ↔
      ∃ schema v, ((readSchema settings).on d host).1 = .ok schema ∧
        ((readJson file).on d host).1 = .ok v ∧
        ((schema.Validates v ∧ report = .valid (.ofJson v)) ∨
          (¬ schema.Validates v ∧ report = .invalid (schema.errors v))) := by
  simp only [runValidate, (readOnly_readSchema _).answer_bind_eq_ok_iff,
    (readOnly_readJson _).answer_bind_eq_ok_iff, ← exists_and_left]
  refine exists_congr fun schema => exists_congr fun v => ?_
  rw [← SchemaDocument.errors_eq_nil_iff]
  cases schema.errors v <;> simp [on_pure_eq_ok_iff]

theorem answer_runSummary_iff {file : String} {report : Report} :
    ((runSummary settings file).on d host).1 = .ok report ↔
      ∃ v s, ((readJson file).on d host).1 = .ok v ∧ Summary.read v = .ok s ∧
        report = .summary s settings.layout := by
  simp only [runSummary, (readOnly_readJson _).answer_bind_eq_ok_iff,
    (readOnly_check _ _).answer_bind_eq_ok_iff, on_check_eq_ok_iff, on_pure_eq_ok_iff,
    ← exists_and_left]

theorem answer_runAttach_none_iff {domain problem : String} {replace : Bool} {report : Report} :
    ((runAttach settings domain problem none replace).on d host).1 = .ok report ↔
      ∃ merged, d.Merges host domain problem replace merged ∧
        report = .merged (merged.render settings.layout) := by
  simp only [runAttach, (readOnly_readJson _).answer_bind_eq_ok_iff,
    (readOnly_check _ _).answer_bind_eq_ok_iff, on_check_eq_ok_iff, on_pure_eq_ok_iff,
    Directory.Merges]
  grind

theorem report_of_runAttach_some {domain problem out : String} {replace : Bool} {report : Report}
    (h : ((runAttach settings domain problem (some out) replace).on d host).1 = .ok report) :
    report = .written out := by
  obtain ⟨merged, hmerged⟩ | ⟨e, hstops⟩ :=
    merges_or_stops d host settings domain problem replace (some out)
  · rw [on_runAttach_of_merges settings hmerged, on_writeText_pure] at h
    generalize (d.write out (merged.render settings.layout ++ "\n").toUTF8 host).1 = answer at h
    cases answer with
    | ok => exact (Except.ok.inj h).symm
    | error e => cases h
  · rw [hstops] at h
    cases h

end Command

end TaskNetwork
