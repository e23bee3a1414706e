import ChallengeLogin.Proofs.CommandLine.Values
import ChallengeLogin.Proofs.Url.Site

namespace ChallengeLogin.CommandLine

open ChallengeLogin.Http (isWeb)

section Options

variable {text : String} {url : Url}

theorem isWeb_iff : isWeb url = true ↔ url.scheme = "http" ∨ url.scheme = "https" := by
  simp only [isWeb, Bool.or_eq_true, decide_eq_true_eq]

theorem siteOf_eq_ok_iff :
    siteOf text = .ok url ↔ Url.parse text = .ok url ∧ isWeb url = true := by
  constructor
  · intro h
    unfold siteOf at h
    split at h
    · cases h
    · split at h
      · cases h
        exact ⟨‹_›, isWeb_iff.mpr ‹_›⟩
      · cases h
  · rintro ⟨hparse, hweb⟩
    rw [siteOf, hparse]
    exact if_pos (isWeb_iff.mp hweb)

theorem site_of_siteOf (h : siteOf text = .ok url) : Url.IsSite url ∧ url.hasHost = true := by
  obtain ⟨hparse, hweb⟩ := siteOf_eq_ok_iff.mp h
  exact ⟨Url.isSite_of_parse hparse hweb, Url.hasHost_of_parse hparse hweb⟩

end Options

section Actions

-- The URL among values, if there is one, is that of a site.
def NamesSite (values : Values) : Prop :=
  ∀ url, values.url = some url → Url.IsSite url ∧ url.hasHost = true

theorem keeps_namesSite : Keeps (fun _ => True) NamesSite where
  initial _ hnone := nomatch hnone
  put _ hvalues hput := by
    unfold Values.put at hput
    split at hput
    · split at hput
      · rename_i hsite
        cases hput
        rintro _ ⟨⟩
        exact site_of_siteOf hsite
      · cases hput
    iterate 4
      cases hput
      exact hvalues
    · split at hput <;> cases hput
      exact hvalues
    iterate 2
      cases hput
      exact hvalues
  environment _ := trivial
  verbosity _ hvalues := hvalues

-- The URL that an action starts from
def site? : Action → Option Url
  | .login arguments => some arguments.url
  | .logout url _ => some url
  | .pubkey _ => none

variable {environment : Environment} {words : List String} {program : Interface}
  {invocation : Invocation} {action : Action} {url : Url}

theorem url_of_action (haction : invocation.action = .ok action) (hurl : site? action = some url) :
    invocation.values.url = some url := by
  rcases action_cases haction with ⟨_, _, hgiven, rfl⟩ | ⟨_, _, hgiven, rfl⟩ | ⟨_, rfl⟩
  · exact hgiven.trans hurl
  · exact hgiven.trans hurl
  · cases hurl

-- An action of an accepted command line goes to a site.
theorem site_of_action (hparse : program.parse environment words = .ok invocation)
    (haction : invocation.action = .ok action) (hurl : site? action = some url) :
    Url.IsSite url ∧ url.hasHost = true :=
  keeps_namesSite.parse (fun _ _ _ _ => trivial) hparse url (url_of_action haction hurl)

end Actions

end ChallengeLogin.CommandLine
