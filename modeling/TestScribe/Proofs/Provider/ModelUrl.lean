import TestScribe.Proofs.Provider.Address
import TestScribe.Proofs.Url.Reading
/-!
The shape of the address of a model.  The name of the model is part of a text that is read as a
whole; it cannot reach beyond the path, unless it holds a mark that ends the path.
-/

namespace TestScribe

def Request.method : List Char := ":generateContent".toList

/-- The address of a method of a model, with nothing but the credential in its query. -/
structure Url.IsCall (url : Url) (key : String) : Prop where
  path : Request.method <:+ printPath url.path
  pairs : url.pairs = [("key".toList, key.toList)]
  fragment : url.fragment = none

/-- A text that holds something has a pair if it is read as a query. -/
theorem Form.pairs_ne_nil {c : Char} {query : List Char} (hc : c ∈ query) (hamp : c ≠ '&') :
    pairs query ≠ [] := by
  have hjoined : ['&'].intercalate (query.splitOn '&') = query := List.intercalate_splitOn '&'
  rw [← hjoined, Text.mem_intercalate hamp] at hc
  obtain ⟨part, hpart, hmem⟩ := hc
  rw [pairs, ne_eq, List.map_eq_nil_iff, List.filter_eq_nil_iff]
  intro hempty
  have hnone := hempty part hpart
  cases part with
  | nil => cases hmem
  | cons d part => simp at hnone

namespace Request

variable {settings : Settings} {key prompt : String} {request : Request}

theorem isMethod_method : Url.IsMethod method where
  shape := ⟨_, _, rfl⟩
  letters := by decide

theorem mem_bareEndpoint {c : Char} (hc : c ∈ (bareEndpoint settings).toList) :
    c ∈ settings.endpoint.toList := by
  rw [bareEndpoint, String.toList_ofList] at hc
  exact (Text.dropTail_isPrefix _ _).mem hc

theorem toList_modelAddress : (modelAddress settings).toList =
    (bareEndpoint settings).toList ++ '/' :: (settings.model.toList ++ method) := by
  have hslash : "/".toList = ['/'] := by decide
  rw [modelAddress, String.toList_append, String.toList_append, String.toList_append, hslash,
    List.append_assoc, List.append_assoc]
  rfl

/-- The model is part of the path, whatever it is called, unless its name holds one of the marks
that query and fragment begin with; then the method is no part of the path any more, or there is
another pair in the query, or a fragment. -/
theorem build_isCall_iff (hprovider : settings.provider = .gemini)
    (hendpoint : '?' ∉ settings.endpoint.toList ∧ '#' ∉ settings.endpoint.toList)
    (hbuild : build settings key prompt = .ok request) :
    request.url.IsCall key ↔ '?' ∉ settings.model.toList ∧ '#' ∉ settings.model.toList := by
  obtain ⟨plain, hplain, rfl⟩ := (build_gemini_eq_ok_iff hprovider).mp hbuild
  have hending : method <:+ settings.model.toList ++ method := List.suffix_append _ _
  have hfront : '#' ∉ (bareEndpoint settings).toList ∧ '?' ∉ (bareEndpoint settings).toList :=
    ⟨mt mem_bareEndpoint hendpoint.2, mt mem_bareEndpoint hendpoint.1⟩
  have hmark {mark : Char} (hmethod : mark ∉ method) :
      mark ∈ settings.model.toList ++ method ↔ mark ∈ settings.model.toList := by
    rw [List.mem_append, or_iff_left hmethod]
  constructor
  · rintro ⟨-, hpairs, hfragment⟩
    have hnumber : '#' ∉ settings.model.toList := fun hmem =>
      Url.parse_fragment isMethod_method hending toList_modelAddress hplain
        (List.mem_append_left method hmem) hfragment
    refine ⟨fun hquery => ?_, hnumber⟩
    obtain ⟨query, hwritten, hmethod⟩ := Url.parse_query isMethod_method hending
      toList_modelAddress hplain hfront.1 (mt (hmark (by decide)).mp hnumber)
      (List.mem_append_left method hquery)
    rw [Url.pairs_withPair, List.append_left_eq_self, Url.pairs, hwritten, Option.getD_some]
      at hpairs
    exact Form.pairs_ne_nil (isMethod_method.colon_mem hmethod) (by decide) hpairs
  · rintro ⟨hquery, hnumber⟩
    obtain ⟨hpath, hnoQuery, hnoFragment⟩ := Url.parse_method isMethod_method hending
      toList_modelAddress hplain hfront
      ⟨mt (hmark (by decide)).mp hnumber, mt (hmark (by decide)).mp hquery⟩
    refine ⟨hpath, ?_, hnoFragment⟩
    rw [Url.pairs_withPair, Url.pairs, hnoQuery]
    rfl

/-- Settings with a model whose name climbs, holds separators of hosts and encoded marks. -/
def climbingSettings : Settings :=
  { Settings.ofProvider .gemini with model := "../tuned@x:8\\\t%3F&key=é" }

theorem build_isCall_climbing : ∃ request,
    build climbingSettings "secret" "prompt" = .ok request ∧
      request.url.text = "https://generativelanguage.googleapis.com/v1beta/tuned@x:8/" ++
        "%3F&key=%C3%A9:generateContent?key=secret" ∧
      request.url.IsCall "secret" := by
  have htext : ((build climbingSettings "secret" "prompt").toOption.map (·.url.text)) =
      some ("https://generativelanguage.googleapis.com/v1beta/tuned@x:8/" ++
        "%3F&key=%C3%A9:generateContent?key=secret") := by
    decide +kernel
  cases hbuild : build climbingSettings "secret" "prompt" with
  | error failure => rw [hbuild] at htext; cases htext
  | ok request =>
      rw [hbuild] at htext
      exact ⟨request, rfl, Option.some.inj htext,
        (build_isCall_iff rfl (by decide +kernel) hbuild).mpr (by decide)⟩

/-- A question mark in the name of the model ends the path in the middle of the name. -/
theorem build_markedModel : ∃ request,
    build { Settings.ofProvider .gemini with model := "a?b" } "k" "p" = .ok request ∧
      request.url.text = "https://generativelanguage.googleapis.com/v1beta/models/" ++
        "a?b:generateContent&key=k" ∧
      ¬ request.url.IsCall "k" := by
  have hread : ((build { Settings.ofProvider .gemini with model := "a?b" } "k" "p").toOption.map
      fun request => (request.url.text, request.url.pairs)) =
        some ("https://generativelanguage.googleapis.com/v1beta/models/" ++
          "a?b:generateContent&key=k",
          [("b:generateContent".toList, []), ("key".toList, "k".toList)]) := by
    decide +kernel
  cases hbuild : build { Settings.ofProvider .gemini with model := "a?b" } "k" "p" with
  | error failure => rw [hbuild] at hread; cases hread
  | ok request =>
      rw [hbuild] at hread
      obtain ⟨htext, hpairs⟩ := Prod.mk.inj (Option.some.inj hread)
      refine ⟨request, rfl, htext, fun hcall => ?_⟩
      have hlength := congrArg List.length (hpairs.symm.trans hcall.pairs)
      cases hlength

end Request

end TestScribe
