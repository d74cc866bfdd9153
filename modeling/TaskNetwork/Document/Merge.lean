import TaskNetwork.Summary.Reader

/-!
# Merging documents

The problem of one document becomes that of a domain document. Nothing else in the domain document
changes: its requirements are those of the domain, whatever the problem.
-/

namespace TaskNetwork

open Json in
/-- A domain document with the problem section of another document. The section must be readable,
and takes the place of another one only if `replace` says so. -/
def attachSection (domainDoc problemDoc : Json) (replace : Bool) : Except DocumentError Json :=
  match domainDoc with
  | obj fields => do
    let _ ← domainDoc.required "domain"
    let _ ← domainDoc.required "requirements"
    if (problemDoc.get? "domain").isSome then .error (.invalid .problemDocumentHasDomain)
    else
      let problem ← problemDoc.required "problem"
      let _ ← ProblemSummary.read problem
      if (domainDoc.get? "problem").isSome && !replace then .error (.conflictingSection "problem")
      else return obj (insert "problem" problem fields)
  | _ => .error (.invalid .domainDocumentNotObject)

end TaskNetwork
