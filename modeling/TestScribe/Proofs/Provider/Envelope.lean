import TestScribe.Proofs.TestCase.Printing
import TestScribe.Proofs.Text.Characters
import TestScribe.Provider.Reply
/-!
Replies that hold printed test cases.  Words before the array hold no opening bracket and
words after it no closing one; then the array is found and all of its cases are taken.
-/

namespace TestScribe

namespace Json

def member? (key : String) : Json → Option Json
  | object members => members.lookup key
  | _ => none

def first? : Json → Option Json
  | array items => items.head?
  | _ => none

theorem at?_of_member? {key : String} {value held : Json} (path : List String)
    (hmember : value.member? key = some held) : at? (key :: path) value = at? path held := by
  cases value with
  | object members =>
      have hlookup : members.lookup key = some held := hmember
      rw [at?, hlookup, Option.bind_some]
  | _ => cases hmember

theorem position?_zero : position? "0" = some 0 := by decide

theorem at?_of_first? {value held : Json} (path : List String)
    (hfirst : value.first? = some held) : at? ("0" :: path) value = at? path held := by
  cases value with
  | array items =>
      have hhead : items[0]? = some held := by
        rw [← List.head?_eq_getElem?]
        exact hfirst
      rw [at?, position?_zero, Option.bind_some, hhead, Option.bind_some]
  | _ => cases hfirst

end Json

namespace Reply

/-- What stands at the place for the text of the model. -/
def enveloped? (provider : Provider) (reply : Json) : Option Json :=
  match provider with
  | .openai => do
      let choices ← reply.member? "choices"
      let choice ← choices.first?
      let message ← choice.member? "message"
      message.member? "content"
  | .anthropic => do
      let content ← reply.member? "content"
      let part ← content.first?
      part.member? "text"
  | .gemini => do
      let candidates ← reply.member? "candidates"
      let candidate ← candidates.first?
      let content ← candidate.member? "content"
      let parts ← content.member? "parts"
      let part ← parts.first?
      part.member? "text"
  | .localModel => reply.member? "response"

/-- What stands in the envelope is found at the end of the path. -/
theorem at?_textPath {provider : Provider} {reply value : Json}
    (hreply : enveloped? provider reply = some value) :
    reply.at? (textPath provider) = some value := by
  cases provider with
  | openai =>
      simp only [enveloped?, Option.bind_eq_bind, Option.bind_eq_some_iff] at hreply
      obtain ⟨choices, hchoices, choice, hchoice, message, hmessage, hcontent⟩ := hreply
      rw [textPath, Json.at?_of_member? _ hchoices, Json.at?_of_first? _ hchoice,
        Json.at?_of_member? _ hmessage, Json.at?_of_member? _ hcontent, Json.at?]
  | anthropic =>
      simp only [enveloped?, Option.bind_eq_bind, Option.bind_eq_some_iff] at hreply
      obtain ⟨content, hcontent, part, hpart, htext⟩ := hreply
      rw [textPath, Json.at?_of_member? _ hcontent, Json.at?_of_first? _ hpart,
        Json.at?_of_member? _ htext, Json.at?]
  | gemini =>
      simp only [enveloped?, Option.bind_eq_bind, Option.bind_eq_some_iff] at hreply
      obtain ⟨candidates, hcandidates, candidate, hcandidate, content, hcontent, parts,
        hparts, part, hpart, htext⟩ := hreply
      rw [textPath, Json.at?_of_member? _ hcandidates, Json.at?_of_first? _ hcandidate,
        Json.at?_of_member? _ hcontent, Json.at?_of_member? _ hparts,
        Json.at?_of_first? _ hpart, Json.at?_of_member? _ htext, Json.at?]
  | localModel => rw [textPath, Json.at?_of_member? _ hreply, Json.at?]

theorem text_of_enveloped {provider : Provider} {reply : Json} {words : String}
    (hreply : enveloped? provider reply = some (.string words)) :
    text provider reply = .ok words := by
  rw [text, at?_textPath hreply]
  rfl

/-- The span from the first opening to the last closing bracket. -/
theorem arraySpan?_eq {before inner after : List Char} (hbefore : '[' ∉ before)
    (hafter : ']' ∉ after) :
    arraySpan? (before ++ ('[' :: (inner ++ [']']) ++ after)) =
      some ('[' :: (inner ++ [']'])) := by
  have hskipped : ∀ c ∈ before, (c != '[') = true := by
    intro c hc
    have hne : c ≠ '[' := by
      rintro rfl
      exact hbefore hc
    simpa using hne
  have hdropped : ∀ c ∈ after, (c != ']') = true := by
    intro c hc
    have hne : c ≠ ']' := by
      rintro rfl
      exact hafter hc
    simpa using hne
  have hstart : (before ++ ('[' :: (inner ++ [']']) ++ after)).dropWhile (· != '[') =
      ('[' :: inner) ++ ']' :: after := by
    rw [List.dropWhile_append_of_pos hskipped]
    simp
  rw [arraySpan?, hstart, Text.dropTail_append _ (by decide) hdropped]
  rfl

/-- The cases of printed members are taken one by one. -/
theorem decodeCases_sortedMembers (index : Nat) {cases : List TestCase}
    (hcases : ∀ case ∈ cases, case.isWellFormed = true) :
    decodeCases index (cases.map fun case => .object case.sortedMembers) = .ok cases := by
  induction cases generalizing index with
  | nil => rfl
  | cons case cases ih =>
      have hcase := hcases case List.mem_cons_self
      have hmore := ih (index + 1) fun other hother =>
        hcases other (List.mem_cons_of_mem case hother)
      have hdecoded : decodeCase (.object case.sortedMembers) = .ok case := by
        rw [decodeCase, TestCase.ofJson_sortedMembers hcase]
        show (if case.isWellFormed then Except.ok case else Except.error CaseFault.bareThrow) = _
        rw [if_pos hcase]
      rw [List.map_cons, decodeCases, hdecoded]
      simp only [hmore, Except.map]

/-- A printed array of well-formed cases between other words is read as these cases. -/
theorem cases_printed {before after : List Char} {cases : List TestCase}
    (hbefore : '[' ∉ before) (hafter : ']' ∉ after) (hne : cases ≠ [])
    (hcases : ∀ case ∈ cases, case.isWellFormed = true) :
    Reply.cases (before ++ ((Json.array (cases.map TestCase.toJson)).print ++ after)) =
      .ok cases := by
  have hspelled : Document.Spelled (.value (.array (cases.map TestCase.document)))
      (Json.array (cases.map TestCase.toJson)).print := by
    apply Document.spelled_printArray
    rw [List.forall₂_map_left_iff, List.forall₂_map_right_iff, List.forall₂_same]
    exact fun case _ => case.spelled_document
  have hread : Document.read? (Json.array (cases.map TestCase.toJson)).print =
      some (.array (cases.map TestCase.document)) := by
    apply Document.read?_of_spelledAs
    exact ⟨[], _, [], List.forall_mem_nil _, hspelled, List.forall_mem_nil _, by simp⟩
  have hvalue : Document.value? Document.depthLimit (.array (cases.map TestCase.document)) =
      some (.array (cases.map fun case => .object case.sortedMembers)) := by
    apply Document.value?_array
    rw [List.forall₂_map_left_iff, List.forall₂_map_right_iff, List.forall₂_same]
    exact fun case _ => case.value?_document 124
  have hspan : arraySpan? (before ++ ((Json.array (cases.map TestCase.toJson)).print ++ after)) =
      some (Json.array (cases.map TestCase.toJson)).print := arraySpan?_eq hbefore hafter
  rw [Reply.cases, hspan]
  dsimp only
  rw [hread, Option.bind_some, hvalue]
  cases cases with
  | nil => exact absurd rfl hne
  | cons case cases => exact decodeCases_sortedMembers 0 hcases

end Reply

end TestScribe
