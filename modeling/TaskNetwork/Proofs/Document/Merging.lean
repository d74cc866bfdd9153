import TaskNetwork.Proofs.Document.Attaching
import TaskNetwork.Proofs.Summary.Acceptance
import TaskNetwork.Proofs.Summary.Fields

/-!
# Merging valid documents

The format and the reader both look at a document section by section. A valid problem can therefore
be put into any valid domain document: the result is valid, and all that its summary takes from
elsewhere is the problem.
-/

namespace TaskNetwork

/-! ## Validity by sections -/

namespace DocumentFormat

open Schema

/-- Another valid problem leaves a document valid. -/
theorem ValidSections.insert_problem {fields : List (String × Json)} (h : ValidSections fields)
    {problem : Json} (hproblem : Valid problem (ref "problem")) :
    ValidSections (Json.insert "problem" problem fields) := by
  have hnew := Json.lookup_insert_self "problem" problem fields
  have hold {key : String} (hkey : key ≠ "problem") :=
    Json.lookup_insert_of_ne hkey problem fields
  constructor
  case declared =>
    intro key hsome
    by_cases hkey : key = "problem"
    · simp [hkey]
    · rw [hold hkey] at hsome
      exact h.declared key hsome
  case complete => exact .inr (by rw [hnew]; rfl)
  case requirements =>
    rw [hold (by decide)]
    exact h.requirements
  case domain =>
    rw [hold (by decide)]
    exact h.domain
  case problem =>
    intro w hw
    obtain rfl : problem = w := Option.some.inj (hnew.symm.trans hw)
    exact hproblem

end DocumentFormat

/-! ## Summaries by sections -/

theorem readSection_congr {α : Type} {name : String} (read : Json → Except DocumentError α)
    {v w : Json} (h : v.get? name = w.get? name) :
    readSection name read v = readSection name read w := by
  rw [readSection, readSection, h]

/-- A document with the problem of another one is read as the first with that problem. -/
theorem Summary.read_insert_problem {fields others : List (String × Json)} {problem : Json}
    {base extra : Summary} (hproblem : others.lookup "problem" = some problem)
    (hbase : Summary.read (.obj fields) = .ok base)
    (hextra : Summary.read (.obj others) = .ok extra) :
    Summary.read (.obj (Json.insert "problem" problem fields)) =
      .ok { base with problem := extra.problem } := by
  have hnew := Json.lookup_insert_self "problem" problem fields
  have hold {key : String} (hkey : key ≠ "problem") :=
    Json.lookup_insert_of_ne hkey problem fields
  obtain ⟨hdomain, -, -, hrequirements⟩ := read_eq_ok_iff.mp hbase
  obtain ⟨-, hread, -, -⟩ := read_eq_ok_iff.mp hextra
  refine read_eq_ok_iff.mpr ⟨?_, ?_, ?_, ?_⟩
  · rw [← hdomain]
    exact readSection_congr _ (hold (by decide))
  · rw [← hread]
    exact readSection_congr _ (hnew.trans hproblem.symm)
  · right
    rw [readSection, Json.get?_obj, hproblem] at hread
    cases hsummary : ProblemSummary.read problem with
    | error e => simp [hsummary, Except.map] at hread
    | ok summary =>
      simp only [hsummary, Except.map, Except.ok.injEq] at hread
      rw [← hread]
      rfl
  · rw [← hrequirements, readRequirements, readRequirements]
    simp only [Json.get?_obj, hold (by decide : "requirements" ≠ "problem")]

/-! ## Merging -/

open DocumentFormat in
/-- A valid problem document is merged into a valid domain document unless that would take the place
of a problem against the will of the caller. The result is valid, and it is read as the domain
document with the problem of the other one. -/
theorem attachSection_of_validates {domainDoc problemDoc : Json} (replace : Bool)
    (hdomainDoc : documentFormat.Validates domainDoc)
    (hproblemDoc : documentFormat.Validates problemDoc)
    (hdomain : (domainDoc.get? "domain").isSome)
    (hrequirements : (domainDoc.get? "requirements").isSome)
    (hnone : problemDoc.get? "domain" = none) :
    ((∃ merged, attachSection domainDoc problemDoc replace = .ok merged) ↔
        domainDoc.get? "problem" = none ∨ replace = true) ∧
      ∀ merged, attachSection domainDoc problemDoc replace = .ok merged →
        documentFormat.Validates merged ∧
          ∃ base extra, Summary.read domainDoc = .ok base ∧ Summary.read problemDoc = .ok extra ∧
            Summary.read merged = .ok { base with problem := extra.problem } := by
  obtain ⟨base, hbase⟩ := (Summary.exists_read_iff hdomainDoc).mpr fun _ => hrequirements
  obtain ⟨extra, hextra⟩ := (Summary.exists_read_iff hproblemDoc).mpr (by simp [hnone])
  obtain ⟨fields, rfl, hfields⟩ := validates_iff_sections.mp hdomainDoc
  obtain ⟨others, rfl, hothers⟩ := validates_iff_sections.mp hproblemDoc
  -- Without a domain, the other document is one for its problem.
  obtain ⟨problem, hproblem⟩ : ∃ problem, others.lookup "problem" = some problem := by
    refine Option.isSome_iff_exists.mp (hothers.complete.resolve_left ?_)
    rintro ⟨-, hsome⟩
    rw [Json.get?_obj] at hnone
    simp [hnone] at hsome
  have hvalid := hothers.problem problem hproblem
  obtain ⟨summary, hread⟩ := exists_read_problem hvalid
  have hattach := attachSection_eq hdomain hrequirements hnone hproblem hread replace
  refine ⟨?_, ?_⟩
  · rw [hattach, Json.get?_obj]
    cases replace <;> cases fields.lookup "problem" <;> simp
  · intro merged hmerged
    have hresult : merged = .obj (Json.insert "problem" problem fields) := by
      rw [hattach] at hmerged
      split at hmerged
      · cases hmerged
      · exact (Except.ok.inj hmerged).symm
    subst hresult
    refine ⟨validates_iff_sections.mpr ⟨_, rfl, hfields.insert_problem hvalid⟩, ?_⟩
    exact ⟨base, extra, hbase, hextra, Summary.read_insert_problem hproblem hbase hextra⟩

/-- An empty problem takes the place of one with a task and a fact. -/
theorem attachSection_emptyProblem :
    let domain : Json := .obj [("axioms", .arr []), ("compound_tasks", .arr []), ("name", .str "d"),
      ("primitive_tasks", .arr []), ("procedures", .arr [])]
    let task : Json := .obj [("name", .str "move"), ("parameters", .arr []), ("type", .str "task")]
    let fact : Json := .obj [("parameters", .arr [.str "k"]), ("predicate", .str "at")]
    let old : Json := .obj [("additional_constants", .arr [.str "k"]),
      ("goal", .obj [("tasks", .arr [task])]), ("init", .arr [fact]), ("name", .str "old")]
    let domainDoc : Json :=
      .obj [("domain", domain), ("problem", old), ("requirements", .strings [":S"])]
    let problemDoc : Json := .obj [("problem", emptyProblem)]
    documentFormat.Validates domainDoc ∧ documentFormat.Validates problemDoc ∧
      ∃ merged base extra, attachSection domainDoc problemDoc true = .ok merged ∧
        documentFormat.Validates merged ∧ Summary.read domainDoc = .ok base ∧
        Summary.read problemDoc = .ok extra ∧
        Summary.read merged = .ok { base with problem := extra.problem } := by
  intro domain task fact old domainDoc problemDoc
  have hdomainDoc : documentFormat.Validates domainDoc :=
    SchemaDocument.validates_iff.mpr (by decide +kernel)
  have hproblemDoc : documentFormat.Validates problemDoc :=
    SchemaDocument.validates_iff.mpr (by decide)
  obtain ⟨hiff, hmerged⟩ := attachSection_of_validates true hdomainDoc hproblemDoc rfl rfl rfl
  obtain ⟨merged, hattach⟩ := hiff.mpr (.inr rfl)
  obtain ⟨hvalid, base, extra, hbase, hextra, hread⟩ := hmerged merged hattach
  exact ⟨hdomainDoc, hproblemDoc, merged, base, extra, hattach, hvalid, hbase, hextra, hread⟩

end TaskNetwork
