import ChallengeLogin.Proofs.Http.Redirects

namespace ChallengeLogin.Http

-- Redirects of these statuses are followed by a request that has no body.
def DropsBody (status : Nat) : Prop :=
  status = 301 ∨ status = 302 ∨ status = 303

instance : DecidablePred DropsBody :=
  fun status => inferInstanceAs (Decidable (status = 301 ∨ status = 302 ∨ status = 303))

theorem isSuccess_of_dropsBody {status : Nat} (h : DropsBody status) : isSuccess status = false := by
  rcases h with rfl | rfl | rfl <;> rfl

section Step

variable {request next ready : Request} {response : Response}

theorem body_of_redirected {again : Request} {status : Nat}
    (h : request.redirected? status = some again) :
    again.body = if DropsBody status then [] else request.body := by
  unfold Request.redirected? at h
  split at h
  · rename_i hdrops
    cases h
    exact (if_pos hdrops).symm
  · rename_i hkeeps
    split at h
    · cases h
      exact (if_neg hkeeps).symm
    · cases h

theorem body_of_redirect (h : request.redirect? response = some next) :
    next.body = if DropsBody response.status then [] else request.body := by
  obtain ⟨again, hagain, hnext⟩ := Option.bind_eq_some_iff.mp h
  obtain ⟨url, -, hmoved⟩ := Option.bind_eq_some_iff.mp hnext
  cases hmoved
  rw [← body_of_redirected hagain]
  rfl

theorem body_of_prepared (h : request.prepared = .ok ready) : ready.body = request.body := by
  have hauthorized : request.authorized.body = request.body := by
    unfold Request.authorized
    split <;> rfl
  unfold Request.prepared at h
  simp only at h
  iterate 3
    split at h
    · cases h
  cases h
  exact hauthorized

end Step

section Run

variable {request last : Request} {answers left : List Answer} {hops : List Hop}

theorem Follows.body_eq_nil (h : Follows request answers hops last left)
    (hbody : request.body = []) : (∀ hop ∈ hops, hop.request.body = []) ∧ last.body = [] := by
  induction h with
  | here request answers => exact ⟨fun _ hmem => absurd hmem List.not_mem_nil, hbody⟩
  | onward hredirect hweb hrest ih =>
    have hnext := body_of_redirect hredirect
    rw [hbody, ite_self] at hnext
    obtain ⟨hhops, hlast⟩ := ih hnext
    exact ⟨List.forall_mem_cons.mpr ⟨hbody, hhops⟩, hlast⟩

-- The last of the hops whose request has this body
def LastCarrying (body : Text.Bytes) (hops : List Hop) (hop : Hop) : Prop :=
  ∃ before after, hops = before ++ hop :: after ∧ hop.request.body = body ∧
    ∀ later ∈ after, later.request.body ≠ body

theorem LastCarrying.cons {body : Text.Bytes} {hop : Hop} (h : LastCarrying body hops hop)
    (first : Hop) : LastCarrying body (first :: hops) hop := by
  obtain ⟨before, after, rfl, hcarries, hafter⟩ := h
  exact ⟨first :: before, after, rfl, hcarries, hafter⟩

theorem eq_or_mem_of_split {α : Type} {before before' after after' : List α} {a b : α}
    (h : before ++ a :: after = before' ++ b :: after') : b = a ∨ b ∈ after ∨ a ∈ after' := by
  induction before generalizing before' with
  | nil =>
    cases before' with
    | nil => exact .inl (List.cons.inj h).1.symm
    | cons first before' =>
      refine .inr (.inl ?_)
      rw [(List.cons.inj h).2]
      exact List.mem_append_right _ List.mem_cons_self
  | cons first before ih =>
    cases before' with
    | nil =>
      refine .inr (.inr ?_)
      rw [← (List.cons.inj h).2]
      exact List.mem_append_right _ List.mem_cons_self
    | cons first' before' => exact ih (List.cons.inj h).2

theorem LastCarrying.unique {body : Text.Bytes} {hop other : Hop} (h : LastCarrying body hops hop)
    (h' : LastCarrying body hops other) : other = hop := by
  obtain ⟨before, after, rfl, hcarries, hafter⟩ := h
  obtain ⟨before', after', hsplit, hcarries', hafter'⟩ := h'
  rcases eq_or_mem_of_split hsplit with heq | hmem | hmem
  · exact heq
  · exact absurd hcarries' (hafter other hmem)
  · exact absurd hcarries (hafter' hop hmem)

-- By induction on the redirects: the first that drops the body answers the last request that has
-- it, and where none does the final request still has it.
theorem Follows.exists_lastCarrying (h : Follows request answers hops last left)
    (hbody : request.body ≠ []) (reply : Response) :
    ∃ carrier, LastCarrying request.body (hops ++ [⟨last, reply⟩]) carrier ∧
      (carrier = ⟨last, reply⟩ ∧ (∀ hop ∈ hops, ¬DropsBody hop.reply.status) ∨
        carrier ∈ hops ∧ DropsBody carrier.reply.status) := by
  induction h with
  | here request answers =>
    refine ⟨⟨request, reply⟩, ⟨[], [], rfl, rfl, ?_⟩, .inl ⟨rfl, ?_⟩⟩
    · exact fun _ hmem => absurd hmem List.not_mem_nil
    · exact fun _ hmem => absurd hmem List.not_mem_nil
  | @onward request next last response _ answers left hops hredirect hweb hrest ih =>
    have hnext := body_of_redirect hredirect
    by_cases hdrops : DropsBody response.received.status
    · rw [if_pos hdrops] at hnext
      obtain ⟨hhops, hlast⟩ := hrest.body_eq_nil hnext
      refine ⟨⟨request, response.received⟩, ⟨[], hops ++ [⟨last, reply⟩], rfl, rfl, ?_⟩,
        .inr ⟨List.mem_cons_self, hdrops⟩⟩
      intro later hmem hlater
      rcases List.mem_append.mp hmem with hmem | hmem
      · exact hbody (hlater.symm.trans (hhops later hmem))
      · rw [List.mem_singleton.mp hmem] at hlater
        exact hbody (hlater.symm.trans hlast)
    · rw [if_neg hdrops] at hnext
      obtain ⟨carrier, hcarries, hcases⟩ := ih (by rwa [hnext])
      rw [hnext] at hcarries
      refine ⟨carrier, hcarries.cons _, ?_⟩
      rcases hcases with ⟨hcarrier, hkeep⟩ | ⟨hmem, hcarrier⟩
      · exact .inl ⟨hcarrier, List.forall_mem_cons.mpr ⟨hdrops, hkeep⟩⟩
      · exact .inr ⟨List.mem_cons_of_mem _ hmem, hcarrier⟩

end Run

section Replied

-- The hops of an exchange that ends in a reply, that reply among them
def Replied (request : Request) (peer : Peer) (hops : List Hop) : Prop :=
  ∃ ready last before response final left, request.prepared = .ok ready ∧ peer.reachable = true ∧
    Follows ready peer.answers before last (.reply response final :: left) ∧
    before.length ≤ maxRedirects ∧ last.redirect? response.received = none ∧
    hops = before ++ [⟨last, response.received⟩]

variable {request : Request} {peer : Peer} {hops : List Hop} {response : Response}

theorem exists_replied (h : (request.exchange peer).ending = .ok response) :
    ∃ before last, Replied request peer (before ++ [⟨last, response⟩]) := by
  cases ends_iff.mpr h with
  | stopped hready hpeer hfollows hfew hstops =>
    cases hstops with
    | replied hfinal => exact ⟨_, _, _, _, _, _, _, _, hready, hpeer, hfollows, hfew, hfinal, rfl⟩

theorem Replied.unique {others : List Hop} (h : Replied request peer hops)
    (h' : Replied request peer others) : others = hops := by
  obtain ⟨ready, last, before, response, _, left, hready, -, hfollows, -, hfinal, rfl⟩ := h
  obtain ⟨ready', last', before', response', _, left', hready', -, hfollows', -, hfinal', rfl⟩ := h'
  cases hready.symm.trans hready'
  obtain ⟨rfl, rfl, rfl⟩ := hfollows.unique hfinal hfollows' hfinal'
  rfl

theorem Replied.requests_eq (h : Replied request peer hops) :
    (request.exchange peer).requests = hops.map (·.request.received) := by
  obtain ⟨ready, last, before, response, _, left, hready, hpeer, hfollows, hfew, hfinal, rfl⟩ := h
  rw [(exchange_of_stops hready hpeer hfollows hfew (.replied hfinal)).2, List.map_append]
  rfl

theorem Replied.exists_lastCarrying {before : List Hop} {final : Hop}
    (h : Replied request peer (before ++ [final])) (hbody : request.body ≠ []) :
    ∃ carrier, LastCarrying request.body (before ++ [final]) carrier ∧
      (carrier = final ∧ (∀ hop ∈ before, ¬DropsBody hop.reply.status) ∨
        carrier ∈ before ∧ DropsBody carrier.reply.status) := by
  obtain ⟨ready, last, followed, response, _, left, hready, -, hfollows, -, -, hhops⟩ := h
  obtain ⟨rfl, hfinal⟩ := List.append_inj' hhops rfl
  cases hfinal
  have hsame := body_of_prepared hready
  rw [← hsame] at hbody ⊢
  exact hfollows.exists_lastCarrying hbody _

end Replied

end ChallengeLogin.Http
