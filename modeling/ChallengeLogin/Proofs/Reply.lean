import ChallengeLogin.Proofs.Http.Text
import ChallengeLogin.Reply

namespace ChallengeLogin

open ChallengeLogin.Text

namespace Reply

-- The first value of the region header is visible ASCII that is not blank, and spells the target.
def Names (headers : List Http.Header) (target : String) : Prop :=
  ∃ value, Http.valueOf? retargetHeader headers = some value ∧
    (∀ b ∈ value, (0x20 ≤ b.toNat ∧ b.toNat ≤ 0x7E) ∨ b.toNat = 0x09) ∧
    target = String.ofList (value.map fun b => Char.ofNat b.toNat) ∧
    ∃ c ∈ target.toList, isBlank c = false

section Target

variable {headers : List Http.Header} {target : String}

theorem allBlank_eq_false_iff :
    allBlank target = false ↔ ∃ c ∈ target.toList, isBlank c = false := by
  simp [allBlank]

theorem targetOf_eq_some_iff : targetOf headers = some target ↔ Names headers target := by
  simp only [targetOf, Option.filter_eq_some_iff, Option.bind_eq_some_iff,
    Http.visibleText_eq_some_iff, Bool.not_eq_eq_eq_not, Bool.not_true, allBlank_eq_false_iff,
    Names]
  constructor
  · rintro ⟨⟨value, hvalue, hvisible, htarget⟩, hblank⟩
    exact ⟨value, hvalue, hvisible, htarget, hblank⟩
  · rintro ⟨value, hvalue, hvisible, htarget, hblank⟩
    exact ⟨⟨value, hvalue, hvisible, htarget⟩, hblank⟩

theorem targetOf_eq_none_iff : targetOf headers = none ↔ ∀ target, ¬Names headers target := by
  simp only [Option.eq_none_iff_forall_ne_some, ne_eq, targetOf_eq_some_iff]

end Target

section Decision

variable [Charset.Decoders] {response : Http.Response} {target : String}

-- The reply in a response whose body has come
def ofComplete (response : Http.Response) : Reply :=
  ⟨response.status, targetOf response.headers, sessionOf response.headers, response.text⟩

theorem ofResponse_of_complete (h : response.complete = true) :
    ofResponse response = .ok (ofComplete response) := by
  rw [ofResponse, Http.Response.readText, if_pos h]
  rfl

theorem ofResponse_of_incomplete (h : response.complete = false) :
    ofResponse response = .error .badBody := by
  rw [ofResponse, Http.Response.readText, h]
  rfl

-- A target that has been read is not blank, so that the second look at it changes nothing.
theorem decision_of_names (h : Names response.headers target) :
    (ofComplete response).decision = .patch response.status target response.text := by
  have hread := targetOf_eq_some_iff.mpr h
  obtain ⟨-, -, -, -, hblank⟩ := h
  have hkeep : (some target).filter (!allBlank ·) = some target := by
    simp [allBlank_eq_false_iff.mpr hblank]
  simp only [decision, ofComplete, hread, hkeep]

theorem decision_of_success (h : ∀ target, ¬Names response.headers target)
    (hstatus : Http.isSuccess response.status = true) :
    (ofComplete response).decision = .navigate dashboardPath (sessionOf response.headers) := by
  simp only [decision, ofComplete, targetOf_eq_none_iff.mpr h, Option.filter_none, if_pos hstatus]

theorem decision_of_refusal (h : ∀ target, ¬Names response.headers target)
    (hstatus : Http.isSuccess response.status = false) :
    (ofComplete response).decision = .unhandled response.status response.text := by
  simp only [decision, ofComplete, targetOf_eq_none_iff.mpr h, Option.filter_none, hstatus,
    Bool.false_eq_true, if_false]

end Decision

end Reply

end ChallengeLogin
