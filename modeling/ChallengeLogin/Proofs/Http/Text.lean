import ChallengeLogin.Http.Exchange
import ChallengeLogin.Proofs.Text.Charset

namespace ChallengeLogin.Http

open ChallengeLogin.Text

section Labels

variable {headers : List Header} {value : Bytes} {text : String}

theorem visibleText_eq_some_iff : visibleText? value = some text ↔
    (∀ b ∈ value, (0x20 ≤ b.toNat ∧ b.toNat ≤ 0x7E) ∨ b.toNat = 0x09) ∧
      text = String.ofList (value.map fun b => Char.ofNat b.toNat) := by
  have hall : value.all isVisible = true ↔
      ∀ b ∈ value, (0x20 ≤ b.toNat ∧ b.toNat ≤ 0x7E) ∨ b.toNat = 0x09 := by
    simp only [List.all_eq_true, isVisible, Bool.or_eq_true, Bool.and_eq_true, decide_eq_true_eq,
      beq_iff_eq]
  rw [visibleText?, ← hall]
  split
  · rename_i hvisible
    rw [Option.some.injEq, eq_comm, and_iff_right hvisible]
  · rename_i hvisible
    exact iff_of_false (Option.some_ne_none text).symm fun h => hvisible h.1

-- The charset that the media type of a reply has among its parameters
def MediaType.charsetLabel? (headers : List Header) : Option (List Char) :=
  ((valueOf? "content-type" headers).bind visibleText?).bind fun text =>
    (ofText? text.toList).bind (·.lookup ['c', 'h', 'a', 'r', 's', 'e', 't'])

-- A reply whose media type has the label of a known charset
def Labelled (headers : List Header) (charset : Charset) : Prop :=
  ∃ label, MediaType.charsetLabel? headers = some label ∧ Charset.ofLabel? label = some charset

theorem MediaType.charsetOf_eq (headers : List Header) :
    charsetOf headers = ((charsetLabel? headers).bind Charset.ofLabel?).getD .utf8 := by
  rw [charsetOf, charsetLabel?]
  cases valueOf? "content-type" headers with
  | none => rfl
  | some value => cases visibleText? value <;> rfl

theorem labelled_iff {charset : Charset} : Labelled headers charset ↔
    (MediaType.charsetLabel? headers).bind Charset.ofLabel? = some charset :=
  Option.bind_eq_some_iff.symm

theorem charsetOf_of_labelled {charset : Charset} (h : Labelled headers charset) :
    MediaType.charsetOf headers = charset := by
  rw [MediaType.charsetOf_eq, labelled_iff.mp h, Option.getD_some]

theorem charsetOf_of_unlabelled (h : ∀ charset, ¬Labelled headers charset) :
    MediaType.charsetOf headers = .utf8 := by
  have hnone : (MediaType.charsetLabel? headers).bind Charset.ofLabel? = none :=
    Option.eq_none_iff_forall_ne_some.mpr fun charset hsome => h charset (labelled_iff.mpr hsome)
  rw [MediaType.charsetOf_eq, hnone, Option.getD_none]

end Labels

namespace Response

section Reading

variable [Charset.Decoders] {response : Response} {text : String}

-- What the body of a reply is read as: behind a byte order mark by the charset of the mark, else by
-- the one that the reply is labelled with, and in UTF-8 where it has no label that is known
inductive Reads (response : Response) : String → Prop
  | marked {charset : Charset} {rest : Bytes}
      (hmark : Charset.Marked response.body charset rest) :
      Reads response (String.ofList (charset.decode rest))
  | labelled {charset : Charset}
      (hmark : ∀ charset rest, ¬Charset.Marked response.body charset rest)
      (hlabel : Labelled response.headers charset) :
      Reads response (String.ofList (charset.decode response.body))
  | unlabelled (hmark : ∀ charset rest, ¬Charset.Marked response.body charset rest)
      (hlabel : ∀ charset, ¬Labelled response.headers charset) :
      Reads response (String.ofList (Utf8.decodeLossy response.body))

theorem text_of_unmarked (hmark : ∀ charset rest, ¬Charset.Marked response.body charset rest) :
    response.text =
      String.ofList ((MediaType.charsetOf response.headers).decode response.body) := by
  rw [Response.text, Charset.decodeMarked, Charset.byteOrderMark?_eq_none_iff.mpr hmark]

theorem Reads.text_eq (h : response.Reads text) : response.text = text := by
  cases h with
  | marked hmark =>
    rw [Response.text, Charset.decodeMarked, Charset.byteOrderMark?_eq_some_iff.mpr hmark]
  | labelled hmark hlabel => rw [text_of_unmarked hmark, charsetOf_of_labelled hlabel]
  | unlabelled hmark hlabel =>
    rw [text_of_unmarked hmark, charsetOf_of_unlabelled hlabel]
    rfl

theorem exists_reads (response : Response) : ∃ text, response.Reads text := by
  by_cases hmark : ∃ charset rest, Charset.Marked response.body charset rest
  · obtain ⟨charset, rest, hmark⟩ := hmark
    exact ⟨_, .marked hmark⟩
  · simp only [not_exists] at hmark
    by_cases hlabel : ∃ charset, Labelled response.headers charset
    · obtain ⟨charset, hlabel⟩ := hlabel
      exact ⟨_, .labelled hmark hlabel⟩
    · exact ⟨_, .unlabelled hmark (not_exists.mp hlabel)⟩

theorem reads_text (response : Response) : response.Reads response.text := by
  obtain ⟨text, h⟩ := response.exists_reads
  rwa [h.text_eq]

-- A body is read in one way only.
theorem reads_iff : response.Reads text ↔ response.text = text :=
  ⟨Reads.text_eq, fun h => h ▸ reads_text response⟩

theorem Reads.unique {other : String} (h : response.Reads text) (h' : response.Reads other) :
    other = text :=
  h'.text_eq.symm.trans h.text_eq

-- What is told of a reply: the text of its body, and nothing where the body breaks off
inductive Tells (response : Response) : String → Prop
  | whole {text : String} (hbody : response.complete = true) (htext : response.Reads text) :
      Tells response text
  | broken (hbody : response.complete = false) : Tells response ""

theorem tells_readText (response : Response) :
    response.Tells (response.readText.toOption.getD "") := by
  rw [readText]
  split
  · rename_i hbody
    exact .whole hbody response.reads_text
  · rename_i hbody
    exact .broken (Bool.eq_false_iff.mpr hbody)

theorem Tells.unique {other : String} (h : response.Tells text) (h' : response.Tells other) :
    other = text := by
  cases h with
  | whole hbody htext =>
    cases h' with
    | whole _ hother => exact htext.unique hother
    | broken hbroken => cases hbody.symm.trans hbroken
  | broken hbroken =>
    cases h' with
    | whole hbody => cases hbody.symm.trans hbroken
    | broken => rfl

-- Plain bytes are read as ASCII by every charset that extends it, with or without a known label.
theorem reads_of_plain
    (hcharset : ∀ charset, Labelled response.headers charset → charset.ExtendsAscii)
    (hplain : ∀ b ∈ response.body, Charset.isPlain b = true) :
    response.Reads (String.ofList (response.body.map fun b => Char.ofNat b.toNat)) := by
  have hmark : ∀ charset rest, ¬Charset.Marked response.body charset rest := by
    intro charset rest hmark
    generalize response.body = body at hmark hplain
    cases hmark <;> exact absurd (hplain _ List.mem_cons_self) (by decide)
  rw [reads_iff, text_of_unmarked hmark]
  by_cases hlabel : ∃ charset, Labelled response.headers charset
  · obtain ⟨charset, hlabel⟩ := hlabel
    rw [charsetOf_of_labelled hlabel, Charset.decode_of_plain (hcharset charset hlabel) hplain]
  · have hutf8 : Charset.utf8.ExtendsAscii := trivial
    rw [charsetOf_of_unlabelled (not_exists.mp hlabel), Charset.decode_of_plain hutf8 hplain]

end Reading

end Response

section Utf8

variable {headers : List Header} {response : Response} {text : String}

-- A reply whose media type has no charset, or one of the labels of UTF-8, in any case of its
-- letters and with blanks around it
def IsUtf8 (headers : List Header) : Prop :=
  ∀ label, MediaType.charsetLabel? headers = some label →
    String.ofList ((trim Charset.isLabelSpace label).map Charset.lower) ∈ Charset.utf8Labels

theorem charsetOf_of_isUtf8 (h : IsUtf8 headers) : MediaType.charsetOf headers = .utf8 := by
  rw [MediaType.charsetOf_eq]
  cases hlabel : MediaType.charsetLabel? headers with
  | none => rfl
  | some label => rw [Option.bind_some, Charset.ofLabel?_of_mem (h label hlabel), Option.getD_some]

-- A whole reply that has a text in UTF-8 as its body, without a byte order mark in front of it
structure Response.Brings (response : Response) (text : String) : Prop where
  complete : response.complete = true
  charset : IsUtf8 response.headers
  body : response.body = Utf8.bytesOf text
  unmarked : text.toList.head? ≠ some Charset.mark

theorem Response.Brings.text_eq [Charset.Decoders] (h : response.Brings text) :
    response.text = text := by
  have hread : Charset.utf8.decodeMarked response.body = text.toList := by
    rw [h.body]
    exact Charset.decodeMarked_encode h.unmarked
  rw [Response.text, charsetOf_of_isUtf8 h.charset, hread, String.ofList_toList]

end Utf8

end ChallengeLogin.Http
