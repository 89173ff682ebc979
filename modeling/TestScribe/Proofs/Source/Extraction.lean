import TestScribe.Proofs.Source.ParameterList
import TestScribe.Proofs.Source.Searching
/-!
Extraction is complete, exact and ordered on programs of line functions: the declarations
in order, then the bindings in order, each with its own signature.  The one exception is a
single parameter that hides the word `async`.
-/

namespace TestScribe

namespace Source

open Pattern

/-- A name is a parameter list with one entry, which is the name itself. -/
theorem parameterNames_name {name : List Char} (hne : name ≠ [])
    (hname : ∀ c ∈ name, isNameChar c = true) : parameterNames name = [name] := by
  have hsigns : ∀ c ∈ signs, isNameChar c = false := by decide
  have hletters : ∀ c ∈ name, Text.isBlank c = false ∧ c ∉ signs := by
    intro c hc
    refine ⟨isBlank_of_isNameChar (hname c hc), fun hsign => ?_⟩
    exact Bool.false_ne_true ((hsigns c hsign).symm.trans (hname c hc))
  have hentry : ListEntry.WellFormed ⟨[], name, [], none⟩ :=
    ⟨List.forall_mem_nil _, hne, hletters, List.forall_mem_nil _, by simp⟩
  have hlisting : IsListing [⟨[], name, [], none⟩] :=
    ⟨List.forall_mem_singleton.mpr hentry, List.forall_mem_nil _⟩
  have hnames := parameterNames_listText hlisting
  simpa [listText, ListEntry.text, ListEntry.head] using hnames

/-- What a match tells is what is said of the function. -/
theorem signature_of_tells {found : Match Part} {name list : List Char}
    {isAsync isDefault : Bool} (htells : Tells found.captures name list isAsync isDefault)
    (source : List Char) :
    (describe source found).signature =
      ⟨if name.isEmpty then anonymousName else String.ofList name,
        (parameterNames list).map String.ofList, isAsync⟩ := by
  have hname : found.part? .name = some name := htells.name
  have hlist : found.part? .parameters = some list := htells.list
  have hasync : (found.part? .async).isSome = isAsync := by
    rw [← htells.async, Match.part?, Option.isSome_map]
  simp only [FunctionInfo.signature, describe, hname, hlist, hasync, Option.getD_some]
  congr 1
  split
  · exact String.ofList_toList
  · rfl

/-- What a found declaration says, if it counts. -/
def readDeclaration (source : List Char) (found : Match Part) : Option Signature :=
  if isDeclaration found then some (describe source found).signature else none

def readBinding (source : List Char) (found : Match Part) : Option Signature :=
  some (describe source found).signature

namespace LineFunction

def declared? (function : LineFunction) : Option Signature :=
  if function.isDeclared then some function.foundSignature else none

def bound? (function : LineFunction) : Option Signature :=
  if function.isDeclared then none else some function.foundSignature

end LineFunction

/-- What the parameters of a form name. -/
theorem Form.parameterNames_text {form : Form} (hform : form.WellFormed) :
    (parameterNames form.parameterText).map String.ofList = form.parameters := by
  cases form with
  | arrow list => simp [Form.parameterText, Form.parameters, parseParameters]
  | short parameter =>
      obtain ⟨c, tail, hcons, -⟩ := hform.start
      have hnames : parameterNames parameter = [parameter] :=
        parameterNames_name (by simp [hcons]) hform.chars
      simp [Form.parameterText, Form.parameters, hnames]
  | expression isGenerator list =>
      simp [Form.parameterText, Form.parameters, parseParameters]

/-- What is told of a binding is the signature that is found of it. -/
theorem Binding.foundSignature_eq {function : Binding} (hfunction : function.WellFormed) :
    function.foundSignature = ⟨String.ofList function.name,
      (parameterNames (if function.HidesAsync then function.form.parameterText.drop 5
        else function.form.parameterText)).map String.ofList,
      function.isAsync || function.form.HidesAsync⟩ := by
  by_cases hhides : function.HidesAsync
  · obtain ⟨isExported, keyword, name, isAsync, form, body⟩ := function
    have hform := hfunction.form
    cases form with
    | arrow list | expression isGenerator list => exact absurd hhides.2 id
    | short parameter =>
        obtain ⟨left, hparameter⟩ := hhides.2
        have hname : IsName ('$' :: left) := isName_of_hidesAsync (hparameter ▸ hform)
        have hdrop : parameter.drop 5 = '$' :: left := by
          rw [← hparameter]
          rfl
        have hnames : parameterNames ('$' :: left) = ['$' :: left] :=
          parameterNames_name (by simp) hname.chars
        have hhidden : (Form.short parameter).HidesAsync := hhides.2
        simp only [Binding.foundSignature, if_pos hhides, Form.parameterText, hdrop, hnames,
          hhidden, decide_true, Bool.or_true, List.map_cons, List.map_nil]
  · have hasync : (function.isAsync || decide function.form.HidesAsync) = function.isAsync := by
      cases hsync : function.isAsync with
      | true => rfl
      | false =>
          have hnot : ¬ function.form.HidesAsync := fun hform => hhides ⟨hsync, hform⟩
          simp [hnot]
    rw [Binding.foundSignature, if_neg hhides, if_neg hhides, hasync,
      Form.parameterNames_text hfunction.form, Binding.signature]

section LineFunctions

variable {function : LineFunction} {cursor : Cursor} {rest : List Char}

/-- In a line function the search for declarations finds its signature if it is one. -/
theorem finds_declared (hfunction : function.WellFormed) (hbreak : cursor.AtBreak)
    (htext : cursor.rest = function.text ++ rest) (source : List Char) :
    ∃ found, Finds declaration cursor function.text rest found ∧
      found.filterMap (readDeclaration source) = function.declared?.toList := by
  cases function with
  | declared function =>
      have hwell : function.WellFormed := hfunction
      obtain ⟨found, hfound, htells⟩ := finds_declaration hwell.name_chars
        hwell.list.isOpen hwell.body hbreak htext
      refine ⟨[found], hfound, ?_⟩
      have hcounts : isDeclaration found = true := by
        rw [isDeclaration_of_tells htells]
        rcases hwell.name with hname | ⟨-, hdefault⟩
        · obtain ⟨c, name, hcons, -⟩ := hname.start
          simp [hcons]
        · simp [hdefault]
      simp [readDeclaration, hcounts, signature_of_tells htells, LineFunction.declared?,
        LineFunction.isDeclared, LineFunction.foundSignature, Declaration.signature,
        parseParameters]
  | bound function =>
      have hwell : function.WellFormed := hfunction
      obtain ⟨found, hfound, hnone⟩ := finds_expressions hwell htext
      refine ⟨found, hfound, ?_⟩
      have hempty : found.filterMap (readDeclaration source) = [] := by
        apply List.filterMap_eq_nil_iff.mpr
        intro expression hexpression
        simp [readDeclaration, hnone expression hexpression]
      simp [hempty, LineFunction.declared?, LineFunction.isDeclared]

/-- In a line function the search for bindings finds its signature if it is one. -/
theorem finds_bound (hfunction : function.WellFormed) (hbreak : cursor.AtBreak)
    (htext : cursor.rest = function.text ++ rest) (source : List Char) :
    ∃ found, Finds binding cursor function.text rest found ∧
      found.filterMap (readBinding source) = function.bound?.toList := by
  cases function with
  | declared function =>
      exact ⟨[], finds_of_quiet (binding_quiet_declaration hfunction) htext, rfl⟩
  | bound function =>
      have hwell : function.WellFormed := hfunction
      obtain ⟨found, hfound, htells⟩ := finds_binding hwell hbreak htext
      refine ⟨[found], hfound, ?_⟩
      obtain ⟨c, name, hcons, -⟩ := hwell.name.start
      have hnamed : function.name.isEmpty = false := by simp [hcons]
      simp [readBinding, signature_of_tells htells, hnamed, LineFunction.bound?,
        LineFunction.isDeclared, LineFunction.foundSignature,
        Binding.foundSignature_eq hwell]

end LineFunctions

theorem program_singleton (function : LineFunction) : program [function] = function.text := by
  simp [program, Text.joinLines]

theorem program_cons_cons (function next : LineFunction) (functions : List LineFunction) :
    program (function :: next :: functions) =
      function.text ++ (['\n'] ++ program (next :: functions)) := by
  simp [program, Text.joinLines]

/-- A search over the functions of a program finds what it finds in each of them. -/
theorem onwards_program {pattern : Pattern Part} {read : Match Part → Option Signature}
    {expected : LineFunction → Option Signature}
    (hbegins : ∀ {cursor stop : Cursor} {captures captures' : Captures Part},
      pattern.Matches cursor captures stop captures' →
        ∃ c ∈ cursor.rest.head?, Text.isBlank c = false)
    (hfinds : ∀ {function : LineFunction} {cursor : Cursor} {rest : List Char},
      function.WellFormed → cursor.AtBreak → cursor.rest = function.text ++ rest →
        ∃ found, Finds pattern cursor function.text rest found ∧
          found.filterMap read = (expected function).toList)
    {functions : List LineFunction} (hfunctions : ∀ f ∈ functions, f.WellFormed)
    {cursor : Cursor} (hbreak : cursor.AtBreak) (htext : cursor.rest = program functions) :
    (pattern.onwards cursor).filterMap read = functions.filterMap expected := by
  induction functions generalizing cursor with
  | nil => simp [onwards_end hbegins htext]
  | cons function functions ih =>
      have hfunction := hfunctions function List.mem_cons_self
      have hothers : ∀ f ∈ functions, f.WellFormed := fun f hf =>
        hfunctions f (List.mem_cons_of_mem function hf)
      cases functions with
      | nil =>
          have hlast : cursor.rest = function.text ++ [] := by
            rw [htext, program_singleton, List.append_nil]
          obtain ⟨found, hfound, hread⟩ := hfinds hfunction hbreak hlast
          rw [hfound, onwards_end hbegins rfl, List.append_nil, hread, List.filterMap_cons]
          cases expected function <;> rfl
      | cons next functions =>
          have hline : cursor.rest =
              function.text ++ (['\n'] ++ program (next :: functions)) :=
            htext.trans (program_cons_cons function next functions)
          obtain ⟨found, hfound, hread⟩ := hfinds hfunction hbreak hline
          have hnewline : pattern.Quiet ['\n'] := quiet_blank (by decide) hbegins
          have hrest : ∀ cursor : Cursor,
              (pattern.onwards (cursor.past ['\n'] (program (next :: functions)))).filterMap
                read = (next :: functions).filterMap expected := fun cursor =>
            ih hothers (Cursor.atBreak_past rfl (by decide)) rfl
          rw [hfound, hnewline _ _ rfl, List.filterMap_append, hread, hrest]
          cases hfirst : expected function <;> simp [List.filterMap_cons, hfirst]

theorem filterMap_readDeclaration (source : List Char) (found : List (Match Part)) :
    found.filterMap (readDeclaration source) =
      (found.filter isDeclaration).map fun part => (describe source part).signature := by
  induction found with
  | nil => rfl
  | cons part found ih =>
      cases hcounts : isDeclaration part <;> simp [readDeclaration, hcounts, ih]

theorem filterMap_readBinding (source : List Char) (found : List (Match Part)) :
    found.filterMap (readBinding source) =
      found.map fun part => (describe source part).signature := by
  induction found with
  | nil => rfl
  | cons part found ih => simp [readBinding, ih]

theorem filterMap_declared (functions : List LineFunction) :
    functions.filterMap LineFunction.declared? =
      (functions.filter (·.isDeclared)).map LineFunction.foundSignature := by
  induction functions with
  | nil => rfl
  | cons function functions ih =>
      cases function <;> simp [LineFunction.declared?, LineFunction.isDeclared, ih]

theorem filterMap_bound (functions : List LineFunction) :
    functions.filterMap LineFunction.bound? =
      (functions.filter (!·.isDeclared)).map LineFunction.foundSignature := by
  induction functions with
  | nil => rfl
  | cons function functions ih =>
      cases function <;> simp [LineFunction.bound?, LineFunction.isDeclared, ih]

theorem LineFunction.foundSignature_eq_iff (function : LineFunction) :
    function.foundSignature = function.signature ↔ ¬ function.HidesAsync := by
  cases function with
  | declared function => simp [foundSignature, signature, HidesAsync]
  | bound function =>
      by_cases hhides : function.HidesAsync
      · have hasync : function.signature.isAsync = false := hhides.1
        have hdiffers : function.foundSignature ≠ function.signature := by
          intro hsame
          rw [← hsame, Binding.foundSignature, if_pos hhides] at hasync
          cases hasync
        simp [foundSignature, signature, HidesAsync, hhides, hdiffers]
      · simp [foundSignature, signature, HidesAsync, Binding.foundSignature, hhides]

theorem mem_listed {function : LineFunction} {functions : List LineFunction} :
    function ∈ listed functions ↔ function ∈ functions := by
  simp only [listed, List.mem_append, List.mem_filter]
  cases function.isDeclared <;> simp

/-- What is extracted from a program are its functions, the declarations before the
bindings, each with the signature that is found of it.  These are their own signatures
unless a parameter hides the word `async`. -/
theorem extract_program {functions : List LineFunction}
    (hfunctions : ∀ function ∈ functions, function.WellFormed) :
    (extract (String.ofList (program functions))).map FunctionInfo.signature =
        (listed functions).map LineFunction.foundSignature ∧
      ((extract (String.ofList (program functions))).map FunctionInfo.signature =
          (listed functions).map LineFunction.signature ↔
        ∀ function ∈ functions, ¬ function.HidesAsync) := by
  have hbreak : (Cursor.start (program functions)).AtBreak := by
    intro c hc
    cases hc
  have hfound : (extract (String.ofList (program functions))).map FunctionInfo.signature =
      (listed functions).map LineFunction.foundSignature := by
    have hdeclarations := onwards_program declaration_begins
      (fun hwell hbreak htext => finds_declared hwell hbreak htext (program functions))
      hfunctions hbreak rfl
    have hbindings := onwards_program binding_begins
      (fun hwell hbreak htext => finds_bound hwell hbreak htext (program functions))
      hfunctions hbreak rfl
    rw [filterMap_readDeclaration, filterMap_declared] at hdeclarations
    rw [filterMap_readBinding, filterMap_bound] at hbindings
    rw [listed, List.map_append, ← hdeclarations, ← hbindings, extract, String.toList_ofList]
    simp only [functionsOf, declarations, bindings, occurrences_eq_onwards, List.map_append,
      List.map_map, Function.comp_def]
  refine ⟨hfound, ?_⟩
  rw [hfound, List.map_inj_left]
  constructor
  · intro hsame function hmem
    exact function.foundSignature_eq_iff.mp (hsame function (mem_listed.mpr hmem))
  · intro hhides function hmem
    exact function.foundSignature_eq_iff.mpr (hhides function (mem_listed.mp hmem))

/-- A program whose first function stands after the second one in the order of extraction
and hides the word `async` in its parameter. -/
def hiddenProgram : List LineFunction :=
  [.bound ⟨false, .constant, "f".toList, false, .short "async$".toList, "x".toList⟩,
    .declared ⟨.default, true, true, [], "a, b = [1, 2]".toList, "\x7d\n".toList⟩]

theorem extract_hiddenProgram :
    (∀ function ∈ hiddenProgram, function.WellFormed) ∧
      (extract (String.ofList (program hiddenProgram))).map FunctionInfo.signature =
        [⟨"anonymous", ["a", "b"], true⟩, ⟨"f", ["$"], true⟩] :=
  ⟨by decide, (extract_program (by decide)).1.trans (by decide)⟩

theorem extract_hiddenAsync :
    (∀ function ∈ hiddenProgram.take 1, function.WellFormed) ∧
      String.ofList (program (hiddenProgram.take 1)) = "const f = async$ => \x7bx\x7d" ∧
      (extract "const f = async$ => \x7bx\x7d").map FunctionInfo.signature ≠
        (listed (hiddenProgram.take 1)).map LineFunction.signature := by
  refine ⟨by decide, by decide, by decide⟩

end Source

end TestScribe
