import ChallengeLogin.Proofs.Attempt.Transmission
import ChallengeLogin.Proofs.Reply.Routing

namespace ChallengeLogin

open ChallengeLogin.Text
open ChallengeLogin.Http (Peer Response isSuccess valueOf? visibleText?)

-- Text that names an element holds a character besides blanks and the sign of an id
def NamesElement (text : String) : Prop :=
  ∃ c ∈ text.toList, isBlank c = false ∧ c ≠ '#'

section Selector

variable {target : String}

theorem namesElement_sign (text : String) : NamesElement ("#" ++ text) ↔ NamesElement text := by
  have hlist : ("#" ++ text).toList = '#' :: text.toList := by
    rw [String.toList_append]
    rfl
  rw [NamesElement, NamesElement, hlist]
  constructor
  · rintro ⟨c, hmem, hblank, hsign⟩
    rcases List.mem_cons.mp hmem with rfl | hmem
    · exact absurd rfl hsign
    · exact ⟨c, hmem, hblank, hsign⟩
  · rintro ⟨c, hmem, hc⟩
    exact ⟨c, List.mem_cons_of_mem _ hmem, hc⟩

theorem exists_selectorOf (target : String) : ∃ text, selectorOf target = "#" ++ text := by
  unfold selectorOf
  split
  · rename_i rest htarget
    refine ⟨String.ofList rest, String.toList_injective ?_⟩
    rw [htarget, String.toList_append, String.toList_ofList, String.toList_ofList]
    rfl
  · exact ⟨target, rfl⟩

theorem namesElement_selectorOf : NamesElement (selectorOf target) ↔ NamesElement target := by
  unfold selectorOf
  split
  · exact Iff.rfl
  · exact namesElement_sign target

-- What stands behind the sign of a selector names an element if the selector's target does.
theorem behind_sign_iff :
    (∃ text, selectorOf target = "#" ++ text ∧ NamesElement text) ↔ NamesElement target := by
  rw [← namesElement_selectorOf]
  constructor
  · rintro ⟨text, hselector, hnames⟩
    rwa [hselector, namesElement_sign]
  · intro hnames
    obtain ⟨text, hselector⟩ := exists_selectorOf target
    rw [hselector, namesElement_sign] at hnames
    exact ⟨text, hselector, hnames⟩

end Selector

namespace Reply

-- The text of the first line of the region header, if it can be read
def Region (headers : List Http.Header) (text : String) : Prop :=
  (valueOf? retargetHeader headers).bind visibleText? = some text

-- What is decided about a reply for its status alone
def byStatus [Charset.Decoders] (response : Response) : Decision :=
  if isSuccess response.status then .navigate dashboardPath (sessionOf response.headers)
  else .unhandled response.status response.text

variable {headers : List Http.Header} {text target : String}

theorem names_iff_of_region (h : Region headers text) :
    Names headers target ↔ target = text ∧ allBlank text = false := by
  rw [← targetOf_eq_some_iff, targetOf, h]
  simp only [Option.filter_some, Bool.not_eq_eq_eq_not, Bool.not_true]
  split
  · rename_i hblank
    simp only [Option.some.injEq, hblank, and_true]
    exact eq_comm
  · rename_i hblank
    simp only [hblank, and_false, reduceCtorEq]

variable [Charset.Decoders] {response : Response}

theorem decision_of_unnamed (h : ∀ target, ¬Names response.headers target) :
    (ofComplete response).decision = byStatus response := by
  rw [byStatus]
  by_cases hstatus : isSuccess response.status = true
  · rw [if_pos hstatus, decision_of_success h hstatus]
  · rw [if_neg hstatus, decision_of_refusal h (Bool.eq_false_iff.mpr hstatus)]

theorem decision_ne_byStatus (h : Names response.headers target) :
    (ofComplete response).decision ≠ byStatus response := by
  rw [decision_of_names h, byStatus]
  split <;> exact Decision.noConfusion

-- A region that names no element counts as absent exactly if it is without a sign.
theorem decided_byStatus_iff (hbody : response.complete = true)
    (hregion : Region response.headers text) (hnone : ¬NamesElement text) :
    decided response = .ok (byStatus response) ↔ '#' ∉ text.toList := by
  rw [decided_of_complete hbody]
  have hnames : allBlank text = false ↔ '#' ∈ text.toList := by
    rw [allBlank_eq_false_iff]
    constructor
    · rintro ⟨c, hmem, hblank⟩
      by_contra hsign
      exact hnone ⟨c, hmem, hblank, fun hc => hsign (hc ▸ hmem)⟩
    · exact fun hmem => ⟨'#', hmem, by decide⟩
  constructor
  · intro hdecided hsign
    exact decision_ne_byStatus ((names_iff_of_region hregion).mpr ⟨rfl, hnames.mpr hsign⟩)
      (Except.ok.inj hdecided)
  · intro hsign
    refine congrArg Except.ok (decision_of_unnamed fun target htarget => hsign ?_)
    exact hnames.mp ((names_iff_of_region hregion).mp htarget).2

end Reply

namespace Attempt

-- The reply at the end of the exchange that posts the signed event of an attempt
def FinalReply (base : Url) (now : Moment) (signer : Signer) (form : Form) (peer : Peer)
    (response : Response) : Prop :=
  ∃ event url, (signer.ask (UnsignedEvent.ofNonce form.nonce now.time)).1 = .ok event ∧
    base.join loginPath = .ok url ∧ Http.Ends (request url event) peer (.ok response)

-- What a reply puts on the page: one patch for the region that it names
def Shows [Charset.Decoders] (response : Response) (patch : Patch) : Prop :=
  response.complete = true ∧ ∃ target, Reply.Names response.headers target ∧
    patch = ⟨selectorOf target, response.text⟩

theorem patches_of_navigate (base : Url) (path : String) (session : Option String) :
    (carryOut base (.navigate path session)).patches = [] := by
  rw [carryOut]
  cases base.join path <;> rfl

section Shown

variable [Http.Client] {base : Url} {now : Moment} {signer : Signer} {form : Form} {peer : Peer}
  {patch : Patch}

theorem mem_patches_of_conclude {flowId : String} {response : Response} :
    patch ∈ (conclude base flowId response).patches ↔ Shows response patch := by
  by_cases hbody : response.complete = true
  · rw [(conclude_of_complete base flowId hbody).2]
    constructor
    · intro hmem
      rcases Reply.decision_cases response with
        ⟨target, hnames, hpatch⟩ | ⟨-, ⟨-, hother⟩ | ⟨-, hother⟩⟩
      · rw [hpatch] at hmem
        exact ⟨hbody, target, hnames, List.mem_singleton.mp hmem⟩
      · rw [hother, patches_of_navigate] at hmem
        exact absurd hmem List.not_mem_nil
      · rw [hother] at hmem
        exact absurd hmem List.not_mem_nil
    · rintro ⟨-, target, hnames, rfl⟩
      rw [Reply.decision_of_names hnames]
      exact List.mem_singleton.mpr rfl
  · rw [(conclude_of_incomplete base flowId (Bool.eq_false_iff.mpr hbody)).2]
    exact ⟨fun hmem => absurd hmem List.not_mem_nil, fun hshows => absurd hshows.1 hbody⟩

-- Patches are put in place for the final reply of an attempt and for nothing else.
theorem mem_patches_iff : patch ∈ (submit base now signer form peer).patches ↔
    ∃ response, FinalReply base now signer form peer response ∧ Shows response patch := by
  constructor
  · intro hmem
    cases hsigned : (signer.ask (UnsignedEvent.ofNonce form.nonce now.time)).1 with
    | error rejection =>
      rw [(submit_of_rejected hsigned).patches] at hmem
      exact absurd hmem List.not_mem_nil
    | ok event =>
      cases hurl : base.join loginPath with
      | error fault =>
        rw [(submit_of_unjoined hurl hsigned).patches] at hmem
        exact absurd hmem List.not_mem_nil
      | ok url =>
        rw [(submit_of_signed hurl hsigned peer).2.1] at hmem
        cases hending : ((request url event).exchange peer).ending with
        | error fault =>
          rw [hending] at hmem
          exact absurd hmem List.not_mem_nil
        | ok response =>
          rw [hending] at hmem
          exact ⟨response, ⟨event, url, hsigned, hurl, Http.ends_iff.mpr hending⟩,
            mem_patches_of_conclude.mp hmem⟩
  · rintro ⟨response, ⟨event, url, hsigned, hurl, hends⟩, hshows⟩
    rw [(submit_of_signed hurl hsigned peer).2.1, hends.eq_ending]
    exact mem_patches_of_conclude.mpr hshows

-- The patches of an attempt name elements exactly if every region that its final reply names does
-- so. A reply whose region names none is routed by its status exactly if there is no sign in it.
theorem patches_name_elements_iff (base : Url) (now : Moment) (signer : Signer) (form : Form)
    (peer : Peer) :
    ((∀ patch ∈ (submit base now signer form peer).patches,
        ∃ text, patch.selector = "#" ++ text ∧ NamesElement text) ↔
      ∀ response target, FinalReply base now signer form peer response →
        response.complete = true → Reply.Names response.headers target → NamesElement target) ∧
    ∀ response text, response.complete = true → Reply.Region response.headers text →
      ¬NamesElement text →
      (Reply.decided response = .ok (Reply.byStatus response) ↔ '#' ∉ text.toList) := by
  refine ⟨⟨?_, ?_⟩, fun response text => Reply.decided_byStatus_iff⟩
  · intro hall response target hfinal hbody hnames
    refine behind_sign_iff.mp (hall ⟨selectorOf target, response.text⟩ ?_)
    exact mem_patches_iff.mpr ⟨response, hfinal, hbody, target, hnames, rfl⟩
  · intro hall patch hmem
    obtain ⟨response, hfinal, hbody, target, hnames, rfl⟩ := mem_patches_iff.mp hmem
    exact behind_sign_iff.mpr (hall response target hfinal hbody hnames)

end Shown

section Sample

attribute [local instance] Http.Client.plain

-- A refusal whose region is the sign of an id and nothing else
def signOnly : Response :=
  ⟨401, [⟨"HX-Retarget", Utf8.bytesOf "#"⟩], Utf8.bytesOf "no", true⟩

-- The refusal is shown in a region that is none, and not told as one.
theorem patched_without_element :
    (submit loopback epoch sampleSigner sampleForm ⟨[.reply signOnly], true⟩).result =
        .ok (.patched 401 "#") ∧
      (submit loopback epoch sampleSigner sampleForm ⟨[.reply signOnly], true⟩).patches =
        [⟨"#", "no"⟩] ∧
      ¬∃ text, "#" = "#" ++ text ∧ NamesElement text := by
  refine ⟨by decide +kernel, by decide +kernel, ?_⟩
  have hnone : ¬NamesElement "#" := by
    rintro ⟨c, hmem, -, hsign⟩
    exact hsign (List.mem_singleton.mp hmem)
  exact fun h => hnone (behind_sign_iff.mp h)

end Sample

end Attempt

end ChallengeLogin
