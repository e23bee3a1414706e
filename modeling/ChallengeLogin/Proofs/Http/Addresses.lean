import ChallengeLogin.Proofs.Http.Sending

namespace ChallengeLogin.Http

-- One of these answers redirects one of these requests to a URL.
def LeadsTo (answers : List Answer) (requests : List Request) (url : Url) : Prop :=
  ∃ (request next : Request) (response : Response) (final : response.isFinal),
    .reply response final ∈ answers ∧ request.received ∈ requests ∧
      request.redirect? response.received = some next ∧ next.url = url

-- Why no request is made for a URL: its text is none that can be asked for, or it is of another
-- scheme, to which an answer has redirected.
inductive TurnedDown (answers : List Answer) (requests : List Request) (url : Url) : Prop
  | untargetable (hweb : isWeb url = true) (htext : Target.isTarget url.text.toList = false) :
      TurnedDown answers requests url
  | redirected (hscheme : isWeb url = false) (hleads : LeadsTo answers requests url) :
      TurnedDown answers requests url

section Weakening

variable {answers answers' : List Answer} {requests requests' : List Request} {url : Url}

theorem LeadsTo.mono (h : LeadsTo answers requests url) (hanswers : answers ⊆ answers')
    (hrequests : requests ⊆ requests') : LeadsTo answers' requests' url := by
  obtain ⟨request, next, response, final, hanswer, hrequest, hredirect, hurl⟩ := h
  exact ⟨request, next, response, final, hanswers hanswer, hrequests hrequest, hredirect, hurl⟩

theorem TurnedDown.mono (h : TurnedDown answers requests url) (hanswers : answers ⊆ answers')
    (hrequests : requests ⊆ requests') : TurnedDown answers' requests' url := by
  cases h with
  | untargetable hweb htext => exact .untargetable hweb htext
  | redirected hscheme hleads => exact .redirected hscheme (hleads.mono hanswers hrequests)

end Weakening

section Answers

variable {request last : Request} {answers left : List Answer} {hops : List Hop}

theorem Follows.suffix (h : Follows request answers hops last left) : left <:+ answers := by
  induction h with
  | here => exact List.suffix_refl _
  | onward _ _ _ ih => exact ih.trans (List.suffix_cons _ _)

end Answers

section Turning

variable {request : Request} {peer : Peer} {url : Url}

theorem of_prepared_badUrl (hhost : request.url.hasHost = true) (hweb : isWeb request.url = true)
    (h : request.prepared = .error (.badUrl url)) :
    isWeb url = true ∧ Target.isTarget url.text.toList = false := by
  unfold Request.prepared at h
  simp only [hhost, url_of_authorized, isWeb_askedUrl, hweb, Bool.not_true, Bool.false_or,
    Bool.false_eq_true, if_false] at h
  split at h
  · cases h
  · split at h
    · rename_i htext
      cases h
      rw [Bool.not_eq_true'] at htext
      exact ⟨(isWeb_askedUrl _).trans hweb, htext⟩
    · cases h

-- An exchange that starts at a site turns down a URL of another scheme only if redirected there.
theorem turnedDown_of_ends (hhost : request.url.hasHost = true) (hweb : isWeb request.url = true)
    (h : Ends request peer (.error (.badUrl url))) :
    TurnedDown peer.answers (request.exchange peer).requests url := by
  cases h with
  | unsendable hready =>
    obtain ⟨hsame, htext⟩ := of_prepared_badUrl hhost hweb hready
    exact .untargetable hsame htext
  | stopped hready hpeer hfollows hfew hstops =>
    have hsent := (exchange_of_stops hready hpeer hfollows hfew hstops).2
    cases hstops with
    | @unrequestable response final left next hroom hredirect hscheme =>
      refine .redirected hscheme ⟨_, next, response, final, ?_, ?_, hredirect, rfl⟩
      · exact hfollows.suffix.subset List.mem_cons_self
      · rw [hsent]
        exact List.mem_append_right _ List.mem_cons_self

end Turning

end ChallengeLogin.Http
