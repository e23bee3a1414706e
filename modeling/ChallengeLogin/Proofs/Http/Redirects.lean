import ChallengeLogin.Http.Exchange

namespace ChallengeLogin.Http

-- A request as it was sent, and the reply to it as it arrived
structure Hop where
  request : Request
  reply : Response

-- The redirects that are followed from a request, with the answers that a peer has before and after
inductive Follows : Request → List Answer → List Hop → Request → List Answer → Prop
  | here (request : Request) (answers : List Answer) : Follows request answers [] request answers
  | onward {request next last : Request} {response : Response} {final : response.isFinal}
      {answers left : List Answer} {hops : List Hop}
      (hredirect : request.redirect? response.received = some next)
      (hweb : isWeb next.url = true) (hrest : Follows next answers hops last left) :
      Follows request (.reply response final :: answers) (⟨request, response.received⟩ :: hops) last
        left

-- How an exchange ends at a request from which `room` more redirects may be followed
inductive Stops (room : Nat) (request : Request) :
    List Answer → Except Fault Response → Prop
  | exhausted : Stops room request [] (.error (.noReply request.url))
  | dropped {left : List Answer} :
      Stops room request (.dropped :: left) (.error (.noReply request.url))
  | replied {response : Response} {final : response.isFinal} {left : List Answer}
      (hfinal : request.redirect? response.received = none) :
      Stops room request (.reply response final :: left) (.ok response.received)
  | tooMany {response : Response} {final : response.isFinal} {left : List Answer} {next : Request}
      (hroom : room = 0) (hredirect : request.redirect? response.received = some next) :
      Stops room request (.reply response final :: left)
        (.error (.tooManyRedirects request.url))
  | unrequestable {response : Response} {final : response.isFinal} {left : List Answer}
      {next : Request} (hroom : 0 < room)
      (hredirect : request.redirect? response.received = some next)
      (hweb : isWeb next.url = false) :
      Stops room request (.reply response final :: left) (.error (.badUrl next.url))

-- How an exchange can end
inductive Ends (request : Request) (peer : Peer) : Except Fault Response → Prop
  | unsendable {fault : Fault} (hready : request.prepared = .error fault) :
      Ends request peer (.error fault)
  | unreachable {ready : Request} (hready : request.prepared = .ok ready)
      (hpeer : peer.reachable = false) : Ends request peer (.error (.noReply ready.url))
  | stopped {ready last : Request} {hops : List Hop} {left : List Answer}
      {ending : Except Fault Response} (hready : request.prepared = .ok ready)
      (hpeer : peer.reachable = true) (hfollows : Follows ready peer.answers hops last left)
      (hfew : hops.length ≤ maxRedirects)
      (hstops : Stops (maxRedirects - hops.length) last left ending) :
      Ends request peer ending

section Step

variable {room : Nat} {request next last : Request} {answers left : List Answer}
  {ending : Except Fault Response} {hops : List Hop}

theorem follow_onward {response : Response} {final : response.isFinal}
    (hredirect : request.redirect? response.received = some next) (hweb : isWeb next.url = true) :
    follow (room + 1) request ⟨.reply response final :: answers, true⟩ =
      { follow room next ⟨answers, true⟩ with
        requests := request.received :: (follow room next ⟨answers, true⟩).requests } := by
  rw [follow]
  simp only [Bool.not_true, Bool.false_eq_true, if_false, Peer.next, hredirect, hweb]

theorem follow_of_stops (h : Stops room request answers ending) :
    (follow room request ⟨answers, true⟩).ending = ending ∧
      (follow room request ⟨answers, true⟩).requests = [request.received] := by
  rw [follow.eq_def]
  cases h with
  | exhausted => exact ⟨rfl, rfl⟩
  | dropped => exact ⟨rfl, rfl⟩
  | replied hfinal =>
    simp only [Bool.not_true, Bool.false_eq_true, if_false, Peer.next, hfinal, and_self]
  | tooMany hroom hredirect =>
    subst hroom
    simp only [Bool.not_true, Bool.false_eq_true, if_false, Peer.next, hredirect, and_self]
  | unrequestable hroom hredirect hweb =>
    obtain ⟨less, rfl⟩ := Nat.exists_eq_add_of_lt hroom
    simp only [Bool.not_true, Bool.false_eq_true, if_false, Peer.next, hredirect, hweb,
      Bool.not_false, if_true, and_self]

theorem stops_or_onward (room : Nat) (request : Request) (answers : List Answer) :
    (∃ ending, Stops room request answers ending) ∨
      ∃ response final rest next, answers = .reply response final :: rest ∧ 0 < room ∧
        request.redirect? response.received = some next ∧ isWeb next.url = true := by
  cases answers with
  | nil => exact .inl ⟨_, .exhausted⟩
  | cons answer rest =>
    cases answer with
    | dropped => exact .inl ⟨_, .dropped⟩
    | reply response final =>
      cases hredirect : request.redirect? response.received with
      | none => exact .inl ⟨_, .replied hredirect⟩
      | some next =>
        rcases Nat.eq_zero_or_pos room with hroom | hroom
        · exact .inl ⟨_, .tooMany hroom hredirect⟩
        by_cases hweb : isWeb next.url = true
        · exact .inr ⟨response, final, rest, next, rfl, hroom, hredirect, hweb⟩
        · exact .inl ⟨_, .unrequestable hroom hredirect (Bool.eq_false_iff.mpr hweb)⟩

end Step

section Run

variable {room : Nat} {request last : Request} {answers left : List Answer}
  {ending : Except Fault Response} {hops : List Hop}

-- By induction on the redirects that are followed: each of them takes one from the room.
theorem follow_of_follows (h : Follows request answers hops last left) :
    follow (hops.length + room) request ⟨answers, true⟩ =
      { follow room last ⟨left, true⟩ with
        requests := hops.map (·.request.received) ++
          (follow room last ⟨left, true⟩).requests } := by
  induction h with
  | here request answers => simp
  | onward hredirect hweb hrest ih =>
    rw [List.length_cons, Nat.add_right_comm, follow_onward hredirect hweb, ih, List.map_cons,
      List.cons_append]

-- Redirects are followed one way only, up to a reply that is none.
theorem Follows.unique {last' : Request} {left' : List Answer} {hops' : List Hop}
    {response response' : Response} {final : response.isFinal} {final' : response'.isFinal}
    (h : Follows request answers hops last (.reply response final :: left))
    (hfinal : last.redirect? response.received = none)
    (h' : Follows request answers hops' last' (.reply response' final' :: left'))
    (hfinal' : last'.redirect? response'.received = none) :
    hops' = hops ∧ last' = last ∧ response' = response := by
  generalize hanswers : (Answer.reply response final :: left) = rest at h
  induction h generalizing hops' with
  | here request answers =>
    subst hanswers
    cases h' with
    | here => exact ⟨rfl, rfl, rfl⟩
    | onward hredirect hweb hrest =>
      rw [hfinal] at hredirect
      cases hredirect
  | onward hredirect hweb hrest ih =>
    cases h' with
    | here =>
      rw [hfinal'] at hredirect
      cases hredirect
    | onward hredirect' hweb' hrest' =>
      cases hredirect.symm.trans hredirect'
      obtain ⟨rfl, rfl, rfl⟩ := ih hfinal hrest' hanswers
      exact ⟨rfl, rfl, rfl⟩

theorem exists_stops (room : Nat) (request : Request) (answers : List Answer) :
    ∃ hops last left ending, Follows request answers hops last left ∧ hops.length ≤ room ∧
      Stops (room - hops.length) last left ending := by
  induction room generalizing request answers with
  | zero =>
    rcases stops_or_onward 0 request answers with
      ⟨ending, hstops⟩ | ⟨_, _, _, _, -, hroom, -⟩
    · exact ⟨[], request, answers, ending, .here _ _, Nat.zero_le _, hstops⟩
    · exact absurd hroom (Nat.lt_irrefl 0)
  | succ room ih =>
    rcases stops_or_onward (room + 1) request answers with
      ⟨ending, hstops⟩ | ⟨_, _, rest, next, rfl, -, hredirect, hweb⟩
    · exact ⟨[], request, answers, ending, .here _ _, Nat.zero_le _, hstops⟩
    · obtain ⟨hops, last, left, ending, hfollows, hfew, hstops⟩ := ih next rest
      refine ⟨_ :: hops, last, left, ending, .onward hredirect hweb hfollows, ?_, ?_⟩
      · rw [List.length_cons]
        omega
      · rwa [List.length_cons, Nat.add_sub_add_right]

end Run

section Exchange

variable {request ready last : Request} {peer : Peer} {ending : Except Fault Response}
  {hops : List Hop} {left : List Answer}

theorem exchange_of_stops (hready : request.prepared = .ok ready) (hpeer : peer.reachable = true)
    (hfollows : Follows ready peer.answers hops last left) (hfew : hops.length ≤ maxRedirects)
    (hstops : Stops (maxRedirects - hops.length) last left ending) :
    (request.exchange peer).ending = ending ∧
      (request.exchange peer).requests =
        hops.map (·.request.received) ++ [last.received] := by
  have hsplit : maxRedirects = hops.length + (maxRedirects - hops.length) := by omega
  have hpeer' : peer = ⟨peer.answers, true⟩ := by rw [← hpeer]
  obtain ⟨hending, hrequests⟩ := follow_of_stops hstops
  rw [Request.exchange, hready]
  simp only
  rw [hsplit, hpeer', follow_of_follows hfollows]
  exact ⟨hending, by rw [hrequests]⟩

theorem Ends.eq_ending (h : Ends request peer ending) :
    (request.exchange peer).ending = ending := by
  cases h with
  | unsendable hready => rw [Request.exchange, hready]
  | unreachable hready hpeer =>
    rw [Request.exchange, hready]
    simp only
    rw [follow.eq_def]
    simp only [hpeer, Bool.not_false, if_true]
  | stopped hready hpeer hfollows hfew hstops =>
    exact (exchange_of_stops hready hpeer hfollows hfew hstops).1

-- Every exchange ends, and in one way only.
theorem ends_iff : Ends request peer ending ↔ (request.exchange peer).ending = ending := by
  refine ⟨Ends.eq_ending, ?_⟩
  rintro rfl
  obtain ⟨ending, h⟩ : ∃ ending, Ends request peer ending := by
    cases hready : request.prepared with
    | error fault => exact ⟨_, .unsendable hready⟩
    | ok ready =>
      by_cases hpeer : peer.reachable = true
      · obtain ⟨hops, last, left, ending, hfollows, hfew, hstops⟩ :=
          exists_stops maxRedirects ready peer.answers
        exact ⟨ending, .stopped hready hpeer hfollows hfew hstops⟩
      · exact ⟨_, .unreachable hready (Bool.eq_false_iff.mpr hpeer)⟩
  rwa [h.eq_ending]

end Exchange

end ChallengeLogin.Http
