import ChallengeLogin.Proofs.CommandLine.Values
import ChallengeLogin.Proofs.CommandLine.Words

namespace ChallengeLogin.CommandLine

-- The word that asks for sessions to be shown
def showCookieWord : String := "--show-cookie"

section Words

variable {values next : Values} {source : Source} {opt : Opt} {text word : String}

theorem showCookie_of_put (hopt : opt ≠ .showCookie) (h : values.put source opt text = .ok next) :
    next.showCookie = values.showCookie := by
  unfold Values.put at h
  split at h
  · split at h <;> cases h
    rfl
  · cases h
    rfl
  · cases h
    rfl
  · cases h
    rfl
  · exact absurd rfl hopt
  · split at h <;> cases h
    rfl
  · cases h
    rfl
  · cases h
    rfl

-- Sessions stay hidden while every option but the one that shows them is set.
theorem keeps_hidden : Keeps (· ≠ .showCookie) (·.showCookie = false) where
  initial := rfl
  put hopt hvalues hput := (showCookie_of_put hopt hput).trans hvalues
  environment hname := by
    rintro rfl
    cases hname
  verbosity _ hvalues := hvalues

-- A word of a long name alone is made of two dashes and the name.
theorem eq_dashed_of_long {name : String} (h : Word.ofText word = .long name none) :
    word = Opt.dashed name := by
  cases ofText_eq_iff.mp h
  rfl

-- Only one word uses the option, which has no letter and takes no value.
theorem eq_showCookieWord_of_uses (h : Uses word .showCookie) : word = showCookieWord := by
  cases h with
  | name hword hvalue =>
    rcases hvalue with hvalued | rfl
    · cases hvalued
    · exact eq_dashed_of_long hword
  | letter hword hmem hletter => cases hletter

end Words

section Programs

variable {environment : Environment} {words : List String} {invocation : Invocation}

theorem showCookie_of_parse {program : Interface} (hwords : showCookieWord ∉ words)
    (h : program.parse environment words = .ok invocation) :
    invocation.values.showCookie = false := by
  refine keeps_hidden.parse ?_ h
  rintro word hmem opt huses rfl
  rw [eq_showCookieWord_of_uses huses] at hmem
  exact hwords hmem

theorem showCookie_of_action {login : Login} (h : invocation.action = .ok (.login login)) :
    login.showCookie = invocation.values.showCookie := by
  rcases action_cases h with ⟨url, secretKey, -, hlogin⟩ | ⟨_, _, -, hlogout⟩ | ⟨_, hpubkey⟩
  · cases hlogin
    rfl
  · cases hlogout
  · cases hpubkey

end Programs

end ChallengeLogin.CommandLine
