import Rollout.Http.Response

/-!
# The exit code as a header

A number in decimal digits has only characters that a header can carry, so
the response to a failed command is never turned into a failure of the
server.
-/

namespace Rollout.Http.Response

/-- The values of a header, in order. -/
def values (response : Response) (name : String) : List String :=
  (response.headers.filter (·.1 == name)).map (·.2)

theorem isValueChar_of_isDigit {c : Char} (h : c.isDigit = true) : Request.isValueChar c = true := by
  obtain ⟨hlow, hhigh⟩ : 48 ≤ c.toNat ∧ c.toNat ≤ 57 := Char.isDigit_iff_toNat.1 h
  have hne : c.toNat ≠ 127 := by omega
  have hle : 32 ≤ c.toNat := by omega
  simp [Request.isValueChar, hne, hle]

theorem isValueChar_repr {n : Nat} {c : Char} (h : c ∈ n.repr.toList) :
    Request.isValueChar c = true := by
  rw [Nat.toList_repr] at h
  exact isValueChar_of_isDigit (Nat.isDigit_of_mem_toDigits (by decide) (by decide) h)

theorem isValueChar_toString (code : Int) :
    (toString code).toList.all Request.isValueChar = true := by
  rw [List.all_eq_true, Int.toString_eq_repr, Int.repr_eq_if]
  intro c hc
  split at hc
  · exact isValueChar_repr hc
  · rw [String.toList_append, List.mem_append] at hc
    rcases hc with hc | hc
    · obtain rfl : c = '-' := by simpa using hc
      decide
    · exact isValueChar_repr hc

theorem ofOutcome_failed (step : Nat) (command : String) (code : Int) (output : String) :
    ofOutcome (.failed step command code output) =
      plain 400 output [(exitCodeHeader, toString code)] := by
  have htoken : Request.isToken exitCodeHeader = true := by decide
  have hfault : Request.headerFault? [(exitCodeHeader, toString code)] = none := by
    simp only [Request.headerFault?, List.findSome?_cons, htoken, isValueChar_toString,
      Bool.not_true, Bool.false_eq_true, ↓reduceIte, List.findSome?_nil]
  simp only [ofOutcome, withHeaders, hfault]

/-- No outcome is a failure of the server. -/
theorem status_ofOutcome (outcome : Outcome) :
    (ofOutcome outcome).status = 200 ∨ (ofOutcome outcome).status = 400 := by
  cases outcome with
  | succeeded output => exact .inl rfl
  | failed step command code output => exact .inr (by rw [ofOutcome_failed]; rfl)
  | errored step command error => exact .inr rfl

end Rollout.Http.Response
