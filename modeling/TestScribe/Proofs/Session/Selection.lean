import TestScribe.Proofs.Session.Fallback
import TestScribe.Proofs.Source.Naming
import TestScribe.Proofs.Source.Reading
/-!
Selecting a function by its name.  Names hold no blanks, so a name with blanks around it
selects the first function of that name, a blank selection the first function of all, and
any other selection none.
-/

namespace TestScribe

namespace Session

/-- The selection is the name with blanks around it. -/
def Surrounds (name selection : String) : Prop :=
  ∃ before after : String, before.allBlank = true ∧ after.allBlank = true ∧
    selection = before ++ name ++ after

/-- The function is the first one of the name. -/
structure IsFirstNamed (functions : List FunctionInfo) (name : String)
    (function : FunctionInfo) : Prop where
  named : function.name = name
  first : ∃ before after, functions = before ++ function :: after ∧
    ∀ earlier ∈ before, earlier.name ≠ name

/-- A word has no blank in it. -/
theorem not_blank_of_isWord {name : List Char} (hname : Source.IsWord name) :
    ∀ c ∈ name, Text.isBlank c = false :=
  fun c hc => Source.isBlank_of_isNameChar (hname.chars c hc)

/-- A word is trimmed from exactly the texts that surround it with blanks. -/
theorem surrounds_iff {name selection : String} (hname : Source.IsWord name.toList) :
    Surrounds name selection ↔ selection.trimBlanks = name := by
  constructor
  · rintro ⟨before, after, hbefore, hafter, rfl⟩
    rw [String.trimBlanks, String.toList_append, String.toList_append, List.append_assoc,
      (Text.isTrimmed_of_letters (not_blank_of_isWord hname)).trim_between
        (List.all_eq_true.mp hbefore) (List.all_eq_true.mp hafter), String.ofList_toList]
  · rintro rfl
    obtain ⟨before, after, hbefore, hafter, hselection⟩ :=
      Text.exists_trim_between selection.toList
    refine ⟨String.ofList before, String.ofList after, ?_, ?_, ?_⟩
    · rwa [String.allBlank, String.toList_ofList, List.all_eq_true]
    · rwa [String.allBlank, String.toList_ofList, List.all_eq_true]
    · apply String.toList_injective
      rw [String.toList_append, String.toList_append, String.trimBlanks, String.toList_ofList,
        String.toList_ofList, String.toList_ofList, List.append_assoc]
      exact hselection

theorem effectiveSelection_of_blank {selection : Option String}
    (hblank : ∀ name ∈ selection, name.allBlank = true) :
    effectiveSelection selection = none := by
  cases selection with
  | none => rfl
  | some name => exact if_pos (hblank name rfl)

theorem effectiveSelection_of_not_blank {name : String} (hname : name.allBlank = false) :
    effectiveSelection (some name) = some name.trimBlanks :=
  if_neg (by simp [hname])

/-- A word with blanks around it is selected without them. -/
theorem effectiveSelection_of_surrounds {name selection : String}
    (hname : Source.IsWord name.toList) (hselection : Surrounds name selection) :
    effectiveSelection (some selection) = some name := by
  have htrimmed := (surrounds_iff hname).mp hselection
  have hletters : selection.allBlank = false := by
    rw [← Bool.not_eq_true, selection.allBlank_iff_trimBlanks, htrimmed]
    intro hnothing
    exact hname.nonempty (by rw [hnothing]; rfl)
  rw [effectiveSelection_of_not_blank hletters, htrimmed]

section Select

variable {functions : List FunctionInfo}

theorem select_nil (selection : Option String) : select [] selection = .error .noFunctions := by
  cases selection <;> rfl

theorem select_some (hfunctions : functions ≠ []) (name : String) :
    select functions (some name) =
      match functions.find? fun function => function.name = name with
      | some function => .ok function
      | none => .error (.functionNotFound name (functions.map (·.name))) := by
  cases functions with
  | nil => exact absurd rfl hfunctions
  | cons first rest => rfl

/-- The name of a function selects the first function of that name. -/
theorem select_name {function : FunctionInfo} (hfunction : function ∈ functions) :
    ∃ chosen, select functions (some function.name) = .ok chosen ∧
      IsFirstNamed functions function.name chosen := by
  rw [select_some (List.ne_nil_of_mem hfunction)]
  cases hfind : functions.find? fun other => other.name = function.name with
  | none => simpa using List.find?_eq_none.mp hfind function hfunction
  | some chosen =>
      obtain ⟨hname, before, after, hsplit, hearlier⟩ := List.find?_eq_some_iff_append.mp hfind
      refine ⟨chosen, rfl, of_decide_eq_true hname, before, after, hsplit, ?_⟩
      intro earlier hmem
      simpa using hearlier earlier hmem

/-- A name that no function has is reported with the names of all functions. -/
theorem select_unknown {name : String} (hfunctions : functions ≠ [])
    (hunknown : ∀ function ∈ functions, function.name ≠ name) :
    select functions (some name) =
      .error (.functionNotFound name (functions.map (·.name))) := by
  have hfind : (functions.find? fun function => function.name = name) = none := by
    rw [List.find?_eq_none]
    intro function hfunction
    simpa using hunknown function hfunction
  rw [select_some hfunctions, hfind]

end Select

/-- What a selection does, whatever the settings are and however the provider answers. -/
structure SelectionContract (code : String) (framework : Framework)
    (settings : Except Failure Settings) (answer : Answering) : Prop where
  /-- The name of a function, blanks around it or not, selects the first function of that
  name. -/
  named : ∀ function ∈ extract code, ∀ selection, Surrounds function.name selection →
    ∃ product, (generate ⟨code, framework, some selection⟩ settings answer).result =
      .ok product ∧ IsFirstNamed (extract code) function.name product.function
  /-- No selection or a blank one selects the first function. -/
  unnamed : ∀ selection, (∀ name ∈ selection, name.allBlank = true) →
    ∀ first rest, extract code = first :: rest →
      ∃ product, (generate ⟨code, framework, selection⟩ settings answer).result =
        .ok product ∧ product.function = first
  /-- Any other selection is reported without its outer blanks, with the names of all
  functions in order. -/
  unknown : ∀ selection, selection.allBlank = false → extract code ≠ [] →
    (∀ function ∈ extract code, ¬ Surrounds function.name selection) →
      (generate ⟨code, framework, some selection⟩ settings answer).result =
        .error (.functionNotFound selection.trimBlanks ((extract code).map (·.name)))
  /-- Where there is no function nothing can be selected. -/
  nothing : extract code = [] → ∀ selection,
    (generate ⟨code, framework, selection⟩ settings answer).result = .error .noFunctions

/-- Every function of a source text can be selected by its name, unless one of the same
name comes before it. -/
theorem selection_contract (code : String) (framework : Framework)
    (settings : Except Failure Settings) (answer : Answering) :
    SelectionContract code framework settings answer where
  named := by
    intro function hfunction selection hselection
    obtain ⟨chosen, hselect, hfirst⟩ := select_name hfunction
    rw [← effectiveSelection_of_surrounds (isWord_of_mem_extract hfunction) hselection] at hselect
    obtain ⟨product, hproduct, rfl, -⟩ :=
      @generate_of_select_ok ⟨code, framework, some selection⟩ chosen hselect settings answer
    exact ⟨product, hproduct, hfirst⟩
  unnamed := by
    intro selection hblank first rest hextract
    have hselect : select (extract code) (effectiveSelection selection) = .ok first := by
      rw [effectiveSelection_of_blank hblank, hextract]
      rfl
    obtain ⟨product, hproduct, hfunction, -⟩ :=
      @generate_of_select_ok ⟨code, framework, selection⟩ first hselect settings answer
    exact ⟨product, hproduct, hfunction⟩
  unknown := by
    intro selection hletters hfunctions hunknown
    apply generate_of_select_error
    rw [effectiveSelection_of_not_blank hletters]
    refine select_unknown hfunctions fun function hfunction hname => ?_
    exact hunknown function hfunction
      ((surrounds_iff (isWord_of_mem_extract hfunction)).mpr hname.symm)
  nothing := by
    intro hextract selection
    apply generate_of_select_error
    rw [hextract, select_nil]

end Session

end TestScribe
