import ChallengeLogin.Proofs.Http.Headers
import ChallengeLogin.Proofs.Http.Sending

namespace ChallengeLogin.Http

open ChallengeLogin.Text

section Place

variable {a b c : Url}

theorem samePlace_iff :
    samePlace a b = true ↔ a.host = b.host ∧ a.effectivePort? = b.effectivePort? := by
  rw [samePlace, Bool.and_eq_true, beq_iff_eq, beq_iff_eq]

theorem samePlace_self (a : Url) : samePlace a a = true :=
  samePlace_iff.mpr ⟨rfl, rfl⟩

theorem samePlace_congr (h : samePlace a b = true) (c : Url) : samePlace a c = samePlace b c := by
  obtain ⟨hhost, hport⟩ := samePlace_iff.mp h
  rw [samePlace, samePlace, hhost, hport]

theorem samePlace_askedUrl (a b : Url) : samePlace (askedUrl a) b = samePlace a b := by
  refine samePlace_congr (samePlace_iff.mpr ?_) b
  unfold askedUrl
  split <;> exact ⟨rfl, rfl⟩

theorem samePlace_received (a : Url) (request : Request) :
    samePlace a request.received.url = samePlace a request.url := rfl

end Place

section Redirecting

variable {request next last r : Request} {response : Response} {answers left : List Answer}
  {hops : List Hop}

-- One redirect: the cookie is kept where host and port are.
theorem cookies_of_redirect (h : request.redirect? response = some next) :
    valuesOf "cookie" next.headers =
      if samePlace request.url next.url = true then valuesOf "cookie" request.headers else [] := by
  obtain ⟨again, hagain, hnext⟩ := Option.bind_eq_some_iff.mp h
  obtain ⟨url, -, hmoved⟩ := Option.bind_eq_some_iff.mp hnext
  cases hmoved
  have hkept : again.url = request.url ∧
      valuesOf "cookie" again.headers = valuesOf "cookie" request.headers := by
    unfold Request.redirected? at hagain
    split at hagain
    · cases hagain
      refine ⟨rfl, ?_⟩
      simp only [withoutAll, contentHeaders, List.foldl_cons, List.foldl_nil]
      iterate 4 rw [valuesOf_without (by decide)]
    · split at hagain
      · cases hagain
        exact ⟨rfl, rfl⟩
      · cases hagain
  have hdropped (headers : List Header) :
      valuesOf "cookie" (withoutAll credentialHeaders headers) = [] :=
    valuesOf_without_self "cookie" (without "authorization" headers)
  simp only [Request.moved, hkept.1]
  split
  · exact hkept.2
  · exact hdropped again.headers

-- By induction on the redirects: behind one that changes the place no request has a cookie, and
-- before it all places are that of the first request.
theorem Follows.cookies (h : Follows request answers hops last left) :
    ∀ i r, (sent hops last)[i]? = some r → valuesOf "cookie" r.headers =
      if ((sent hops last).take (i + 1)).all (samePlace request.url ·.url) = true then
        valuesOf "cookie" request.headers
      else [] := by
  induction h with
  | here request answers =>
    intro i r hr
    rw [List.mem_singleton.mp (List.mem_of_getElem? hr), if_pos]
    refine List.all_eq_true.mpr fun earlier hearlier => ?_
    rw [List.mem_singleton.mp (List.mem_of_mem_take hearlier)]
    exact samePlace_self _
  | @onward request next last response _ answers left hops hredirect hweb hrest ih =>
    intro i r hr
    rw [sent_cons] at hr ⊢
    rw [List.take_succ_cons, List.all_cons, samePlace_self, Bool.true_and]
    cases i with
    | zero =>
      cases hr
      rfl
    | succ i =>
      rw [ih i r hr, cookies_of_redirect hredirect]
      by_cases hplace : samePlace request.url next.url = true
      · simp only [samePlace_congr hplace, samePlace_self, if_true]
      · obtain ⟨rest, hsent⟩ := hrest.sent_eq_cons
        have hleft : ((sent hops last).take (i + 1)).all (samePlace request.url ·.url) = false := by
          rw [hsent, List.take_succ_cons, List.all_cons, Bool.eq_false_iff.mpr hplace,
            Bool.false_and]
        rw [if_neg hplace, hleft, ite_self]
        rfl

end Redirecting

section Exchange

variable {request ready r : Request} {peer : Peer}

-- What preparing a request adds is of two names.
theorem valuesOf_of_prepared {name : String} (hagent : sameName "user-agent" name = false)
    (hauthorization : sameName "authorization" name = false) (h : request.prepared = .ok ready) :
    valuesOf name ready.headers = valuesOf name request.headers := by
  obtain ⟨added, hadded, hheaders⟩ := headers_of_prepared h
  have hother : ∀ header ∈ added ++ [userAgent], sameName header.name name = false := by
    intro header hmem
    rcases List.mem_append.mp hmem with hmem | hmem
    · rcases hadded with rfl | ⟨value, rfl⟩
      · exact absurd hmem List.not_mem_nil
      · rw [List.mem_singleton.mp hmem]
        exact hauthorization
    · rw [List.mem_singleton.mp hmem]
      exact hagent
  rw [hheaders, List.append_assoc, valuesOf_append, valuesOf_eq_nil hother,
    List.append_nil]

theorem valuesOf_received (name : String) (request : Request) :
    valuesOf name request.received.headers =
      (valuesOf name request.headers).map (trim isBlankByte) := by
  simp only [Request.received, valuesOf, List.filter_map, List.map_map]
  rfl

-- A request of an exchange has the cookie of the first exactly if it and all requests before it are
-- at the place of the first.
theorem cookies_of_exchange (request : Request) (peer : Peer) (i : Nat) (r : Request)
    (h : (request.exchange peer).requests[i]? = some r) :
    valuesOf "cookie" r.headers =
      if ((request.exchange peer).requests.take (i + 1)).all (samePlace request.url ·.url) = true
      then
        (valuesOf "cookie" request.headers).map (trim isBlankByte)
      else [] := by
  rcases requests_cases request peer with hnone | ⟨ready, hops, last, left, hready, hfollows, hsome⟩
  · rw [hnone] at h
    cases h
  rw [hsome, List.getElem?_map] at h
  obtain ⟨own, hown, rfl⟩ := Option.map_eq_some_iff.mp h
  rw [valuesOf_received, hfollows.cookies i own hown, hsome, ← List.map_take,
    valuesOf_of_prepared (by decide) (by decide) hready, (of_prepared hready).2.1]
  simp only [List.all_map, samePlace_askedUrl, Function.comp_def, samePlace_received]
  split <;> rfl

end Exchange

end ChallengeLogin.Http
