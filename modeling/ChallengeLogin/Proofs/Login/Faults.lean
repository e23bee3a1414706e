import ChallengeLogin.Proofs.Http.Addresses
import ChallengeLogin.Proofs.Login.Posting

namespace ChallengeLogin.Login

open ChallengeLogin.Http (Ends Peer TurnedDown isWeb)

-- The faults of a login whose page is known
inductive Faults (login : Login) (now : Moment) (peer : Peer) (page : Url) : Fault → Prop
  | unfetched {cause : Http.Fault} (hmissing : login.nonce = none)
      (hends : Ends (Challenge.request page) peer (.error cause)) :
      Faults login now peer page (.challenge (.network cause))
  | unreadablePage : Faults login now peer page (.challenge (.network .badBody))
  | refusedPage {status : Nat} {body : String} :
      Faults login now peer page (.challenge (.refused status body))
  | unkeyed {cause : KeyFault} : Faults login now peer page (.key cause)
  | unposted {nonce : String} {left : Peer} {key : Key} {cause : Http.Fault}
      (hobtains : login.Obtains peer nonce left) (hkey : Key.ofText login.secretKey = .ok key)
      (hends : Ends (Attempt.request page (key.sign (.ofNonce nonce now.time))) left
        (.error cause)) :
      Faults login now peer page (.attempt (.network cause))
  | unreadableReply : Faults login now peer page (.attempt (.network .badBody))
  | rejected {status : Nat} {body : String} :
      Faults login now peer page (.attempt (.rejected status body))
  | rejectedInPlace {status : Nat} {selector : String} :
      Faults login now peer page (.rejectedInPlace status selector)

theorem fault_of_conclude {fault : Fault} {result : Except Attempt.Fault Attempt.Outcome}
    (h : conclude result = .error fault) :
    (∃ cause, result = .error cause ∧ fault = .attempt cause) ∨
      ∃ status selector, fault = .rejectedInPlace status selector := by
  unfold conclude at h
  split at h
  · cases h
    exact .inl ⟨_, rfl, rfl⟩
  · split at h
    · cases h
    · cases h
      exact .inr ⟨_, _, rfl⟩
  · cases h

theorem suffix_of_obtains {login : Login} {peer left : Peer} {nonce : String}
    (h : login.Obtains peer nonce left) : left.answers <:+ peer.answers := by
  cases h with
  | given => exact List.suffix_refl _
  | fetched => exact Http.suffix_of_exchange _ _

variable [Http.Client] {login : Login} {now : Moment} {peer left : Peer} {page location : Url}
  {nonce : String} {fault : Fault}

-- With a nonce, what fails is the key, the exchange that posts, or the use of its reply.
theorem faults_of_submit (hpage : login.url.join loginPath = .ok page)
    (hlocation : login.url.join dashboardPath = .ok location)
    (hobtains : login.Obtains peer nonce left)
    (h : (login.submit now (.ofNonce nonce) left).result = .error fault) :
    login.Faults now peer page fault := by
  cases hkey : Key.ofText login.secretKey with
  | error cause =>
    rw [submit, hkey] at h
    cases h
    exact .unkeyed
  | ok key =>
    rw [(submit_settles hpage hkey now nonce left).1] at h
    rcases fault_of_conclude h with ⟨cause, hsettled, rfl⟩ | ⟨status, selector, rfl⟩
    · rcases Attempt.fault_of_settle hlocation hsettled with
        ⟨_, hending, rfl⟩ | rfl | ⟨status, body, rfl⟩
      · exact .unposted hobtains hkey (Http.ends_iff.mpr hending)
      · exact .unreadableReply
      · exact .rejected
    · exact .rejectedInPlace

-- Without one, what fails is the exchange that asks for the page, or the use of its reply.
theorem faults_of_run (hpage : login.url.join loginPath = .ok page)
    (hlocation : login.url.join dashboardPath = .ok location)
    (h : (login.run now peer).result = .error fault) : login.Faults now peer page fault := by
  rcases obtains_or_fails login peer hpage with
    ⟨nonce, left, hobtains⟩ | ⟨hmissing, ending, hends, hfails⟩
  · rw [(run_of_obtains hobtains now).1] at h
    exact faults_of_submit hpage hlocation hobtains h
  · obtain ⟨cause, hcause⟩ := Challenge.fetch_of_fails hpage hends hfails
    simp only [run, hmissing, hcause] at h
    cases h
    rcases Challenge.fault_of_fetch hpage hcause with ⟨_, hunfetched, rfl⟩ | rfl | ⟨_, _, rfl⟩
    · exact .unfetched hmissing hunfetched
    · exact .unreadablePage
    · exact .refusedPage

section Addresses

variable {url : Url}

theorem turnedDown_unfetched (hpage : login.url.join loginPath = .ok page)
    (hhost : page.hasHost = true) (hweb : isWeb page = true)
    (h : login.Faults now peer page (.challenge (.network (.badUrl url)))) :
    TurnedDown peer.answers (login.run now peer).requests url := by
  cases h with
  | unfetched hmissing hends =>
    have hrequests := (run_of_fails hmissing hpage hends .unanswered now).2
    rw [fetching, hmissing] at hrequests
    simp only [(Challenge.fetch_of_join hpage peer).1] at hrequests
    rw [hrequests]
    exact Http.turnedDown_of_ends hhost hweb hends

theorem turnedDown_unposted (hpage : login.url.join loginPath = .ok page)
    (hhost : page.hasHost = true) (hweb : isWeb page = true)
    (h : login.Faults now peer page (.attempt (.network (.badUrl url)))) :
    TurnedDown peer.answers (login.run now peer).requests url := by
  cases h with
  | unposted hobtains hkey hends =>
    refine (Http.turnedDown_of_ends hhost hweb hends).mono (suffix_of_obtains hobtains).subset ?_
    rw [(run_of_obtains hobtains now).2.2, (submit_settles hpage hkey now _ _).2.2]
    exact List.subset_append_right _ _

end Addresses

end ChallengeLogin.Login
