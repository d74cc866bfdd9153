import Mathlib.Data.List.Basic
import TaskNetwork.Json.Parser
import TaskNetwork.Json.Printer

/-!
# Texts of strings and lists

The pieces of written text that the reader takes in one go: blanks, escaped characters and strings.
A written string is read back whatever its characters are.
-/

namespace TaskNetwork

namespace Json

/-! ## Blanks -/

theorem isBlank_of_mem_newline {layout : Layout} {level : Nat} {c : Char}
    (h : c ∈ layout.newline level) : isBlank c = true := by
  cases layout with
  | compact => simp [Layout.newline] at h
  | pretty =>
    obtain rfl | ⟨-, rfl⟩ := by simpa [Layout.newline, List.mem_replicate] using h
    · rfl
    · rfl

@[simp] theorem skipBlanks_newline (layout : Layout) (level : Nat) (text : List Char) :
    skipBlanks (layout.newline level ++ text) = skipBlanks text := by
  simp only [skipBlanks]
  exact List.dropWhile_append_of_pos fun c hc => isBlank_of_mem_newline hc

theorem skipBlanks_cons {c : Char} (h : isBlank c = false) (text : List Char) :
    skipBlanks (c :: text) = c :: text := by
  simp [skipBlanks, h]

/-! ## Strings -/

theorem hexValue?_hexDigit : ∀ n < 16, hexValue? (hexDigit n) = some n := by decide

theorem fourHexDigits?_code {n : Nat} (h : n < 256) (rest : List Char) :
    fourHexDigits? ('0' :: '0' :: hexDigit (n / 16) :: hexDigit (n % 16) :: rest) =
      some (n, rest) := by
  have hzero : hexValue? '0' = some 0 := by decide
  have hhigh := hexValue?_hexDigit (n / 16) (by omega)
  have hlow := hexValue?_hexDigit (n % 16) (by omega)
  have hsum : n / 16 * 16 + n % 16 = n := by omega
  simp [fourHexDigits?, hzero, hhigh, hlow, hsum]

theorem codeEscape_code {c : Char} (h : c.toNat < 32) (rest : List Char) :
    codeEscape ('0' :: '0' :: hexDigit (c.toNat / 16) :: hexDigit (c.toNat % 16) :: rest) =
      .ok (c, rest) := by
  have hunit := fourHexDigits?_code (n := c.toNat) (by omega) rest
  have hlow : ¬ (0xdc00 ≤ c.toNat ∧ c.toNat ≤ 0xdfff) := by omega
  have hhigh : ¬ (0xd800 ≤ c.toNat ∧ c.toNat ≤ 0xdbff) := by omega
  simp [codeEscape, codeUnit, hunit, hlow, hhigh, bind, Except.bind, pure, Except.pure]

/-- What is written for a character is read as this character. -/
theorem stringChar_escape (c : Char) (rest : List Char) :
    stringChar (escape c ++ rest) = .ok (some c, rest) := by
  unfold escape
  split_ifs with hquote hbackslash hnewline hreturn htab hbackspace hfeed hcontrol
  · subst hquote; rfl
  · subst hbackslash; rfl
  · subst hnewline; rfl
  · subst hreturn; rfl
  · subst htab; rfl
  · subst hbackspace; rfl
  · subst hfeed; rfl
  · simp [stringChar, escaped, codeEscape_code hcontrol, bind, Except.bind, pure, Except.pure]
  · simp [stringChar, hcontrol]

/-- The text of a string after its opening quote. -/
def closing (cs rest : List Char) : List Char :=
  cs.foldr (fun c text => escape c ++ text) ('"' :: rest)

theorem writeString_eq (s : String) (rest : List Char) :
    writeString s rest = '"' :: closing s.toList rest := rfl

theorem escape_ne_nil (c : Char) : escape c ≠ [] := by
  unfold escape
  split_ifs <;> simp

theorem length_closing (cs rest : List Char) :
    cs.length + rest.length < (closing cs rest).length := by
  induction cs with
  | nil => simp [closing]
  | cons c cs ih =>
    have hpos : 0 < (escape c).length := List.length_pos_iff.mpr (escape_ne_nil c)
    have hcons : closing (c :: cs) rest = escape c ++ closing cs rest := rfl
    rw [hcons, List.length_append, List.length_cons]
    omega

theorem stringRest_closing {cs : List Char} {bound : Nat} (h : cs.length < bound)
    (before rest : List Char) :
    stringRest bound before (closing cs rest) =
      .ok (String.ofList (before.reverse ++ cs), rest) := by
  induction cs generalizing bound before with
  | nil =>
    obtain ⟨bound, rfl⟩ : ∃ n, bound = n + 1 := ⟨bound - 1, by omega⟩
    simp [closing, stringRest, stringChar]
  | cons c cs ih =>
    obtain ⟨bound, rfl⟩ : ∃ n, bound = n + 1 := ⟨bound - 1, by omega⟩
    have hcons : closing (c :: cs) rest = escape c ++ closing cs rest := rfl
    rw [hcons, stringRest, stringChar_escape]
    have hbound : cs.length < bound := by simpa using h
    simp [ih hbound]

/-- A written string is read back. -/
theorem stringRest_closing_toList {s : String} {bound : Nat} (h : s.toList.length < bound)
    (rest : List Char) : stringRest bound [] (closing s.toList rest) = .ok (s, rest) := by
  simp [stringRest_closing h]

end Json

end TaskNetwork
