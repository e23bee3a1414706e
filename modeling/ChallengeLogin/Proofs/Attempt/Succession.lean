import ChallengeLogin.Proofs.Attempt.Transmission
import ChallengeLogin.Proofs.Http.Headers
import ChallengeLogin.Proofs.Text.Utf8

namespace ChallengeLogin

section Ports

theorem Port.putAll_append (port : Port) (front rest : List Patch) :
    port.putAll (front ++ rest) = (port.putAll front).putAll rest :=
  List.foldl_append

-- What a recorder knows in the end is all that has been put in place, in that order.
theorem Port.putAll_recorder (known patches : List Patch) :
    (recorder known).putAll patches = recorder (known ++ patches) := by
  induction patches generalizing known with
  | nil => rw [List.append_nil]; rfl
  | cons patch rest ih =>
    rw [List.append_cons]
    exact ih (known ++ [patch])

-- A sink that is written to through its port is as if it were written to itself.
theorem Sink.putAll_port (sink : Sink) (patches : List Patch) :
    sink.port.putAll patches = (sink.putAll patches).port := by
  induction patches generalizing sink with
  | nil => rfl
  | cons patch rest ih => exact ih (sink.put patch).1

end Ports

namespace Attempt

section Requests

variable [Http.Client] {base : Url} {now : Moment} {signer : Signer} {form : Form}
  {peer : Http.Peer} {event : SignedEvent} {r : Http.Request}

-- An attempt that sends anything has a signed event, and sends what the exchange of it sends.
theorem exchange_of_mem_requests (h : r ∈ (submit base now signer form peer).requests) :
    ∃ event url, (signer.ask (UnsignedEvent.ofNonce form.nonce now.time)).1 = .ok event ∧
      r ∈ ((request url event).exchange peer).requests := by
  cases hsigned : (signer.ask (UnsignedEvent.ofNonce form.nonce now.time)).1 with
  | error rejection =>
    rw [(submit_of_rejected hsigned).requests] at h
    exact absurd h List.not_mem_nil
  | ok event =>
    cases hurl : base.join loginPath with
    | error fault =>
      rw [(submit_of_unjoined hurl hsigned).requests] at h
      exact absurd h List.not_mem_nil
    | ok url =>
      rw [(submit_of_signed hurl hsigned peer).2.2] at h
      exact ⟨event, url, rfl, h⟩

-- No request of an attempt has a cookie, whatever the peer has set.
theorem cookies_of_mem_requests (h : r ∈ (submit base now signer form peer).requests) :
    Http.valuesOf "cookie" r.headers = [] := by
  obtain ⟨event, url, -, hmem⟩ := exchange_of_mem_requests h
  have hnames : ∀ name ∈ ["content-type", "authorization", "user-agent"],
      Http.sameName name "cookie" = false := by decide
  refine Http.valuesOf_eq_nil fun header hheader => ?_
  exact hnames _ ((Http.header_names_of_mem hmem).subset (List.mem_map_of_mem hheader))

-- A request of an attempt carries no event but the one that was signed for it.
theorem carried_of_mem_requests (h : r ∈ (submit base now signer form peer).requests)
    (hcarries : r.body = Text.Utf8.bytesOf event.toJson) :
    (signer.ask (UnsignedEvent.ofNonce form.nonce now.time)).1 = .ok event := by
  obtain ⟨own, url, hsigned, hmem⟩ := exchange_of_mem_requests h
  have hempty : Text.Utf8.bytesOf event.toJson ≠ [] := by
    rw [← body_request url]
    exact body_request_ne_nil url event
  rcases Http.repeats_or_asks_of_mem hmem with ⟨-, hbody⟩ | ⟨-, hbody⟩
  · rw [hcarries, body_request] at hbody
    have htext := String.toList_injective (Text.Utf8.encode_injective hbody)
    rw [SignedEvent.toJson_injective htext]
    exact hsigned
  · exact absurd (hcarries.symm.trans hbody) hempty

end Requests

end Attempt

namespace Flow

-- What the signer is asked about in a step
def question (step : Step) : UnsignedEvent :=
  .ofNonce step.form.nonce step.now.time

-- A flow on the same site in which nothing has been done yet, but that its signer has been asked
-- about these steps
def fresh (flow : Flow) (steps : List Step) : Flow :=
  ⟨flow.base, flow.signer.after (steps.map question), .recorder⟩

section Succession

variable [Http.Client]

-- The report of a step that is made alone, once the signer has been asked about other ones
def alone (flow : Flow) (before : List Step) (step : Step) : Attempt.Report :=
  ((flow.fresh before).submit step).1

-- A step leaves behind what it has asked of the signer and what it has put in place, and nothing
-- else.
theorem submit_eq (flow : Flow) (step : Step) :
    flow.submit step = (flow.alone [] step,
      { flow with
        signer := flow.signer.after [question step]
        port := flow.port.putAll (flow.alone [] step).patches }) := by
  have hleft : (flow.alone [] step).signer = flow.signer.after [question step] :=
    (Attempt.submit_asks_once flow.base step.now flow.signer step.form step.peer).2
  rw [← hleft]
  rfl

-- By induction on the steps: the first of them leaves a flow whose signer has been asked once more.
theorem submitAll_eq (flow : Flow) (steps : List Step) :
    flow.submitAll steps = (steps.mapIdx fun i step => flow.alone (steps.take i) step,
      { flow with
        signer := flow.signer.after (steps.map question)
        port := flow.port.putAll
          ((steps.mapIdx fun i step => flow.alone (steps.take i) step).flatMap (·.patches)) }) := by
  induction steps generalizing flow with
  | nil => rfl
  | cons step rest ih =>
    rw [submitAll, submit_eq]
    simp only [ih]
    rw [List.mapIdx_cons, List.flatMap_cons, Port.putAll_append]
    rfl

-- However the earlier steps have ended, a step is the one that it would be alone in a flow of its
-- own with a signer that has been asked as often; the patches go through the one port in order, and
-- no cookie and no event of one step goes out with another.
theorem submitAll_independent (flow : Flow) (steps : List Step) :
    let reports := steps.mapIdx fun i step => ((flow.fresh (steps.take i)).submit step).1
    flow.submitAll steps = (reports,
        { flow with
          signer := flow.signer.after (steps.map question)
          port := flow.port.putAll (reports.flatMap (·.patches)) }) ∧
      (submitAll { flow with port := .recorder } steps).2.port =
        .recorder (reports.flatMap (·.patches)) ∧
      ∀ i step, steps[i]? = some step → ∃ report, reports[i]? = some report ∧
        report.asked = [question step] ∧
        ∀ r ∈ report.requests, Http.valuesOf "cookie" r.headers = [] ∧
          ∀ event, r.body = Text.Utf8.bytesOf event.toJson →
            ((flow.signer.after ((steps.take i).map question)).ask (question step)).1 =
              .ok event := by
  intro reports
  refine ⟨submitAll_eq flow steps, ?_, fun i step hstep => ?_⟩
  · rw [submitAll_eq]
    exact Port.putAll_recorder [] _
  · have hreport : reports[i]? = some (flow.alone (steps.take i) step) := by
      rw [List.getElem?_mapIdx, hstep]
      rfl
    refine ⟨_, hreport, (Attempt.submit_asks_once _ _ _ _ _).1, fun r hmem => ?_⟩
    exact ⟨Attempt.cookies_of_mem_requests hmem, fun event => Attempt.carried_of_mem_requests hmem⟩

end Succession

section Sample

open ChallengeLogin.Attempt (epoch loopback posted asked sampleEvent sampleForm)

attribute [local instance] Http.Client.plain

-- A signer that declines first, and then signs once it has heard a nonce for the second time
def hesitantSigner : Signer where
  State := List String
  state := []
  answer heard event :=
    (if event.content ∈ heard then .ok sampleEvent else .error .declined, event.content :: heard)

def nextMoment : Moment :=
  ⟨1, "00000000000000000000000001"⟩

-- Three steps with one form: the first has a page waiting for it, the second is refused and the
-- third is redirected
def sampleSteps : List Step :=
  [⟨epoch, sampleForm, ⟨[.reply Attempt.page], true⟩⟩,
    ⟨epoch, sampleForm, ⟨[.reply Attempt.refusal], true⟩⟩,
    ⟨nextMoment, sampleForm, ⟨[.reply Attempt.detour, .reply Attempt.page], true⟩⟩]

def sampleFlow : Flow :=
  ⟨loopback, hesitantSigner, .recorder⟩

-- The last step asks at a time of its own and posts what the signer has signed for it, and only the
-- refusal has been put in place.
theorem submitAll_after_refusal :
    sampleSteps[2]? =
        some ⟨nextMoment, sampleForm, ⟨[.reply Attempt.detour, .reply Attempt.page], true⟩⟩ ∧
      (sampleFlow.submitAll sampleSteps).2.port = .recorder [⟨"#error-box", "<p>no</p>"⟩] ∧
      ∃ report, (sampleFlow.submitAll sampleSteps).1[2]? = some report ∧
        report.asked = [.ofNonce "abc123" 1] ∧
        posted.received ∈ report.requests ∧
        posted.received.body = Text.Utf8.bytesOf sampleEvent.toJson ∧
        ((hesitantSigner.after [.ofNonce "abc123" 0, .ofNonce "abc123" 0]).ask
          (.ofNonce "abc123" 1)).1 = .ok sampleEvent ∧
        Http.valuesOf "cookie" posted.received.headers = [] := by
  have hstep : sampleSteps[2]? =
      some ⟨nextMoment, sampleForm, ⟨[.reply Attempt.detour, .reply Attempt.page], true⟩⟩ := rfl
  have hpatches : (sampleSteps.mapIdx fun i step =>
      ((sampleFlow.fresh (sampleSteps.take i)).submit step).1).flatMap (·.patches) =
        [⟨"#error-box", "<p>no</p>"⟩] := by decide +kernel
  have hsent : ((sampleFlow.submitAll sampleSteps).1[2]?.map (·.requests)) =
      some [posted.received, asked.received] := by decide +kernel
  obtain ⟨hall, hport, hsteps⟩ := submitAll_independent sampleFlow sampleSteps
  obtain ⟨report, hreport, hasked, hrequests⟩ := hsteps 2 _ hstep
  have hfound : (sampleFlow.submitAll sampleSteps).1[2]? = some report := by rw [hall, hreport]
  rw [hfound] at hsent
  have hall : report.requests = [posted.received, asked.received] := Option.some.inj hsent
  have hmem : posted.received ∈ report.requests := by
    rw [hall]
    exact List.mem_cons_self
  have hbody := Attempt.body_request Attempt.loopbackLogin sampleEvent
  obtain ⟨hcookies, hcarried⟩ := hrequests _ hmem
  rw [hpatches] at hport
  exact ⟨hstep, hport, report, hfound, hasked, hmem, hbody, hcarried sampleEvent hbody, hcookies⟩

end Sample

end Flow

end ChallengeLogin
