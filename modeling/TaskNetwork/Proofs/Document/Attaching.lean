import TaskNetwork.Document.Merge
import TaskNetwork.Proofs.Summary.Reading

/-!
# Attaching problems

A problem can be put into a document when the document is built, later, or when both are written
already. Attaching to a written document is one step of attaching to the document itself, so the
two ways stay together over any sequence of problems.
-/

namespace TaskNetwork

/-- A readable problem goes into any document of a domain that has none, or whose problem may be
replaced. -/
theorem attachSection_eq {fields : List (String × Json)} {problemDoc problem : Json}
    {summary : ProblemSummary} (hdomain : (fields.lookup "domain").isSome)
    (hrequirements : (fields.lookup "requirements").isSome)
    (hnone : problemDoc.get? "domain" = none) (hproblem : problemDoc.get? "problem" = some problem)
    (hread : ProblemSummary.read problem = .ok summary) (replace : Bool) :
    attachSection (.obj fields) problemDoc replace =
      if (fields.lookup "problem").isSome && !replace then .error (.conflictingSection "problem")
      else .ok (.obj (Json.insert "problem" problem fields)) := by
  obtain ⟨domain, hdomain⟩ := Option.isSome_iff_exists.mp hdomain
  obtain ⟨requirements, hrequirements⟩ := Option.isSome_iff_exists.mp hrequirements
  cases hconflict : (fields.lookup "problem").isSome && !replace <;>
    simp only [attachSection, Json.required, Json.get?_obj, hdomain, hrequirements, hnone, hproblem,
      hread, hconflict, bind, Except.bind, pure, Except.pure, Option.isSome_none,
      Bool.false_eq_true, if_false, if_true]

namespace Document

/-- Problems attached one after another: the sections that were there before each of them, and the
document at the end. -/
def attachAll (options : EncoderOptions) (d : Document) :
    List Problem → List (Option Json) × Document
  | [] => ([], d)
  | p :: rest =>
    let (old, next) := d.attachProblem p options
    let (olds, final) := next.attachAll options rest
    (old :: olds, final)

/-- Problems attached one after another to a written document. -/
def attachSections (options : EncoderOptions) (replace : Bool) (doc : Json) (ps : List Problem) :
    Except DocumentError Json :=
  ps.foldlM (fun doc p => attachSection doc (problemOnly p options).toJson replace) doc

/-! ## One problem -/

theorem toJson_attachProblem {d : Document} {fields : List (String × Json)}
    (h : d.toJson = .obj fields) (p : Problem) (options : EncoderOptions) :
    (d.attachProblem p options).2.toJson =
      .obj (Json.insert "problem" (p.encode options) fields) := by
  rw [toJson] at h
  injection h with h
  subst h
  obtain ⟨requirements, domain, problem⟩ := d
  -- The three sections are written in the order of their names.
  have after : ¬ "problem" < "domain" := by decide
  have before : "problem" < "requirements" := by decide
  have other : "problem" ≠ "domain" := by decide
  have self : ¬ "problem" < "problem" := by decide
  cases requirements <;> cases domain <;> cases problem <;>
    simp only [toJson, attachProblem, Json.insert, Option.toList_none, Option.toList_some,
      List.map_nil, List.map_cons, List.nil_append, List.append_nil, List.cons_append, after,
      before, other, self, if_true, if_false]

/-- A written problem is always accepted, and it takes its place just as in the document itself. -/
theorem attachSection_toJson {d : Document} (hdomain : d.domain ≠ none)
    (hreq : d.requirements ≠ none) (p : Problem) (options : EncoderOptions) (replace : Bool) :
    attachSection d.toJson (problemOnly p options).toJson replace =
      if d.problem.isSome && !replace then .error (.conflictingSection "problem")
      else .ok (d.attachProblem p options).2.toJson := by
  obtain ⟨fields, h⟩ : ∃ fields, d.toJson = .obj fields := ⟨_, rfl⟩
  have hd := d.get?_toJson_domain
  have hr := d.get?_toJson_requirements
  have hp := d.get?_toJson_problem
  rw [toJson_attachProblem h]
  rw [h, Json.get?_obj] at hd hr hp
  have hsome : (fields.lookup "domain").isSome := by
    rw [hd]
    exact Option.isSome_iff_ne_none.mpr hdomain
  have hrequired : (fields.lookup "requirements").isSome := by
    rw [hr]
    simpa using Option.isSome_iff_ne_none.mpr hreq
  rw [h, attachSection_eq hsome hrequired rfl rfl (p.read_encode options), hp]

/-! ## Runs -/

/-- Every call gives back what was there before it, and only the last problem stays. -/
theorem attachAll_eq (options : EncoderOptions) (domain : Domain) (start : Option Problem)
    (ps : List Problem) :
    (build domain start options).attachAll options ps =
      (((start :: ps.map some).dropLast).map (Option.map (Problem.encode options)),
        build domain (ps.getLast?.or start) options) := by
  induction ps generalizing start with
  | nil => rfl
  | cons p rest ih =>
    have hstep : (build domain start options).attachProblem p options =
        (start.map (Problem.encode options), build domain (some p) options) := rfl
    rw [attachAll, hstep]
    dsimp only
    rw [ih (some p)]
    cases rest <;> simp [List.getLast?_cons]

theorem attachSections_toJson (options : EncoderOptions) {d : Document} (hdomain : d.domain ≠ none)
    (hreq : d.requirements ≠ none) (ps : List Problem) :
    attachSections options true d.toJson ps = .ok (d.attachAll options ps).2.toJson := by
  induction ps generalizing d with
  | nil => rfl
  | cons p rest ih =>
    have hstep := attachSection_toJson hdomain hreq p options true
    rw [Bool.not_true, Bool.and_false, if_neg Bool.false_ne_true] at hstep
    rw [attachSections, List.foldlM_cons, hstep]
    exact ih (d := (d.attachProblem p options).2) hdomain hreq

/-- Building with a problem, attaching it, and merging its document into one that is written all
give the same. Over a sequence of problems the last one stays; without leave to replace, only a
document that has no problem yet takes one. -/
theorem attaching_agrees (domain : Domain) (options : EncoderOptions) :
    (∀ (p : Problem) (replace : Bool),
      attachSection (build domain none options).toJson (problemOnly p options).toJson replace =
        .ok (build domain (some p) options).toJson) ∧
      ∀ (start : Option Problem) (ps : List Problem) (last : Problem),
        (build domain start options).attachAll options (ps ++ [last]) =
          ((start :: ps.map some).map (Option.map (Problem.encode options)),
            build domain (some last) options) ∧
        attachSections options true (build domain start options).toJson (ps ++ [last]) =
          .ok (build domain (some last) options).toJson ∧
        attachSection ((build domain start options).attachAll options ps).2.toJson
            (problemOnly last options).toJson false =
          if start.isNone && ps.isEmpty then .ok (build domain (some last) options).toJson
          else .error (.conflictingSection "problem") := by
  have step (q : Option Problem) (p : Problem) (replace : Bool) :
      attachSection (build domain q options).toJson (problemOnly p options).toJson replace =
        if q.isSome && !replace then .error (.conflictingSection "problem")
        else .ok (build domain (some p) options).toJson := by
    have h := attachSection_toJson (d := build domain q options) nofun nofun p options replace
    have hproblem : (build domain q options).problem.isSome = q.isSome := Option.isSome_map
    rw [hproblem] at h
    exact h
  refine ⟨?_, ?_⟩
  · intro p replace
    exact step none p replace
  · intro start ps last
    have hrun := attachAll_eq options domain start (ps ++ [last])
    have hlast : (ps ++ [last]).getLast?.or start = some last := by simp
    have holds : (start :: (ps ++ [last]).map some).dropLast = start :: ps.map some := by
      rw [List.map_append, ← List.cons_append]
      exact List.dropLast_concat
    rw [hlast, holds] at hrun
    have hwritten := attachSections_toJson options (d := build domain start options) nofun nofun
      (ps ++ [last])
    rw [hrun] at hwritten
    refine ⟨hrun, hwritten, ?_⟩
    rw [attachAll_eq, step]
    cases start <;> cases ps <;> simp [List.getLast?_cons]

end Document

end TaskNetwork
