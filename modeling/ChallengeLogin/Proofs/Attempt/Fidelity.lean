import ChallengeLogin.Proofs.Attempt.Selector
import ChallengeLogin.Proofs.Patch

namespace ChallengeLogin

open ChallengeLogin.Text
open ChallengeLogin.Http (Response isSuccess)

namespace Attempt

-- How an attempt passes on the text of its final reply: a patch of the region that the reply names
-- has it, and so does a refusal. A line of it is all that the patch adds to what has been written.
inductive PassesOn (response : Response) (text : String) (report : Report) : Prop
  | patched {target : String} (htarget : Reply.Names response.headers target)
      (hresult : report.result = .ok (.patched response.status (selectorOf target)))
      (hpatches : report.patches = [⟨selectorOf target, text⟩])
      (hwritten : ∀ written, (Sink.putAll { written } report.patches).written =
        written ++ Utf8.bytesOf ("[" ++ selectorOf target ++ "] (innerHTML) " ++ text ++ "\n"))
  | navigated (htarget : ∀ target, ¬Reply.Names response.headers target)
      (hstatus : isSuccess response.status = true) (hpatches : report.patches = [])
  | rejected (htarget : ∀ target, ¬Reply.Names response.headers target)
      (hstatus : isSuccess response.status = false)
      (hresult : report.result = .error (.rejected response.status text))
      (hpatches : report.patches = [])

theorem written_of_putAll (written : Bytes) (patch : Patch) :
    (Sink.putAll { written } [patch]).written = written ++ Utf8.bytesOf patch.shown := by
  have hkeeps := (Sink.keeps_nothing { written }).putAll [patch]
  rw [hkeeps.written]
  show written ++ (Utf8.bytesOf patch.shown ++ []) = _
  rw [List.append_nil]

section Passing

variable [Http.Client] {base : Url} {now : Moment} {signer : Signer} {form : Form}
  {peer : Http.Peer} {response : Response} {text : String}

-- An attempt comes to what its final reply is concluded to.
theorem submit_of_finalReply (h : FinalReply base now signer form peer response) :
    (submit base now signer form peer).result = (conclude base now.flowId response).result ∧
      (submit base now signer form peer).patches = (conclude base now.flowId response).patches := by
  obtain ⟨event, url, hsigned, hurl, hends⟩ := h
  obtain ⟨hresult, hpatches, -⟩ := submit_of_signed hurl hsigned peer
  rw [hends.eq_ending] at hresult hpatches
  exact ⟨hresult, hpatches⟩

theorem passesOn_of_finalReply (h : response.Brings text)
    (hfinal : FinalReply base now signer form peer response) :
    PassesOn response text (submit base now signer form peer) := by
  obtain ⟨hresult, hpatches⟩ := submit_of_finalReply hfinal
  obtain ⟨hconcluded, hconcludedPatches⟩ := conclude_of_complete base now.flowId h.complete
  rw [hconcluded] at hresult
  rw [hconcludedPatches] at hpatches
  rcases Reply.decision_cases response with
    ⟨target, htarget, hdecision⟩ | ⟨htarget, ⟨hstatus, hdecision⟩ | ⟨hstatus, hdecision⟩⟩
  · rw [hdecision, h.text_eq] at hresult hpatches
    have hpatch : (submit base now signer form peer).patches = [⟨selectorOf target, text⟩] :=
      hpatches
    refine .patched htarget hresult hpatch fun written => ?_
    rw [hpatch]
    exact written_of_putAll written ⟨selectorOf target, text⟩
  · rw [hdecision, patches_of_navigate] at hpatches
    exact .navigated htarget hstatus hpatches
  · rw [hdecision, h.text_eq] at hresult hpatches
    exact .rejected htarget hstatus hresult hpatches

-- A text that a reply has in UTF-8 is read unchanged, and unchanged it is rendered into the region
-- that the reply names, or handed back with the refusal.
theorem text_passes_unchanged (h : response.Brings text) :
    (∃ reply, Reply.ofResponse response = .ok reply ∧ reply.body = text) ∧
      ∀ base now signer form peer, FinalReply base now signer form peer response →
        PassesOn response text (submit base now signer form peer) :=
  ⟨⟨_, Reply.ofResponse_of_complete h.complete, h.text_eq⟩,
    fun _ _ _ _ _ => passesOn_of_finalReply h⟩

end Passing

section Sample

attribute [local instance] Http.Client.plain

-- A refusal in two alphabets, under a label in capitals
def refusalInGreek : Response :=
  ⟨422, [⟨"content-type", Utf8.bytesOf "text/html; charset=\"UTF8\""⟩,
    ⟨"HX-Retarget", Utf8.bytesOf "error-box"⟩], Utf8.bytesOf "<p>όχι, 😀 no</p>", true⟩

theorem refusalInGreek_brings : refusalInGreek.Brings "<p>όχι, 😀 no</p>" where
  complete := rfl
  charset := by
    have hlabel : Http.MediaType.charsetLabel? refusalInGreek.headers =
        some ['U', 'T', 'F', '8'] := by decide +kernel
    intro label hsome
    cases hlabel.symm.trans hsome
    decide
  body := rfl
  unmarked := by decide

theorem text_passes_unchanged_greek :
    refusalInGreek.Brings "<p>όχι, 😀 no</p>" ∧
      FinalReply loopback epoch sampleSigner sampleForm ⟨[.reply refusalInGreek], true⟩
        refusalInGreek ∧
      (submit loopback epoch sampleSigner sampleForm ⟨[.reply refusalInGreek], true⟩).patches =
        [⟨"#error-box", "<p>όχι, 😀 no</p>"⟩] := by
  have hfinal : FinalReply loopback epoch sampleSigner sampleForm ⟨[.reply refusalInGreek], true⟩
      refusalInGreek :=
    ⟨sampleEvent, loopback.withPath ["admin", "login"], rfl, by decide +kernel,
      Http.ends_iff.mpr (by decide +kernel)⟩
  have hnamed : Reply.targetOf refusalInGreek.headers = some "error-box" := by decide +kernel
  refine ⟨refusalInGreek_brings, hfinal, ?_⟩
  cases (text_passes_unchanged refusalInGreek_brings).2 _ _ _ _ _ hfinal with
  | patched htarget _ hpatches =>
    cases hnamed.symm.trans (Reply.targetOf_eq_some_iff.mpr htarget)
    exact hpatches
  | navigated htarget => exact absurd (Reply.targetOf_eq_some_iff.mp hnamed) (htarget _)
  | rejected htarget => exact absurd (Reply.targetOf_eq_some_iff.mp hnamed) (htarget _)

end Sample

end Attempt

end ChallengeLogin
