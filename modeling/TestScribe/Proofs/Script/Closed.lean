import TestScribe.Proofs.Script.Outline
/-!
Parts of scripts that are closed: they begin and end outside any literal and comment, and
close the brackets that they open.  Closed parts follow each other and stand inside calls.
-/

namespace TestScribe.Script

/-- The text is a closed part of a script, with the calls that `made` says. -/
def Closed (made : Nat → List Call → Prop) (text : List Char) : Prop :=
  ∃ tokens, Scans text tokens ∧ Encloses made tokens

/-- The text has tokens other than brackets where no word goes on after it. -/
def IsFlat (text : List Char) (tokens : List Token) : Prop :=
  ScansUpTo text tokens ∧ ∀ token ∈ tokens, token.isFlat = true

section Flat

variable {letters : List Char}

theorem isFlat_nil : IsFlat [] [] :=
  ⟨fun _ _ _ _ => rfl, by simp⟩

theorem isFlat_word (hletters : isWordText letters = true) :
    IsFlat letters [.word letters] :=
  ⟨scansUpTo_word hletters, by simp [Token.isFlat]⟩

theorem isFlat_negative (hletters : isWordText letters = true) :
    IsFlat ('-' :: letters) [.mark '-', .word letters] := by
  have hsign : Scans ['-'] [.mark '-'] := fun _ => rfl
  exact ⟨hsign.append_upTo (scansUpTo_word hletters), by simp [Token.isFlat]⟩

/-- Plain text in double quotes is a literal. -/
theorem isFlat_quoted (hletters : ∀ c ∈ letters, isPlainIn '"' c = true) :
    IsFlat ('"' :: (letters ++ ['"'])) [.literal (letters.map .plain)] := by
  have hspells : Spells '"' (letters.flatMap fun c => [c]) (letters.map .plain) :=
    spells_flatMap fun c hc => spells_plain (hletters c hc)
  rw [List.flatMap_singleton'] at hspells
  exact ⟨(hspells.scans (.inr rfl)).upTo, by simp [Token.isFlat]⟩

theorem IsFlat.comma {text more : List Char} {tokens further : List Token}
    (htext : IsFlat text tokens) (hmore : IsFlat more further) :
    IsFlat (text ++ (',' :: ' ' :: more)) (tokens ++ .mark ',' :: further) := by
  have hcomma : Scans [',', ' '] [.mark ','] := fun _ => rfl
  refine ⟨htext.1.append_upTo (hcomma.append_upTo hmore.1) (by decide), ?_⟩
  intro token htoken
  rcases List.mem_append.mp htoken with hfirst | hlater
  · exact htext.2 token hfirst
  · rcases List.mem_cons.mp hlater with rfl | hlast
    · rfl
    · exact hmore.2 token hlast

/-- Flat texts joined by commas are flat. -/
theorem isFlat_commas {texts : List String}
    (htexts : ∀ text ∈ texts, ∃ tokens, IsFlat text.toList tokens) :
    ∃ tokens, IsFlat (", ".intercalate texts).toList tokens := by
  induction texts with
  | nil => exact ⟨[], isFlat_nil⟩
  | cons text texts ih =>
      obtain ⟨tokens, htokens⟩ := htexts text List.mem_cons_self
      have hmore : ∀ text ∈ texts, ∃ tokens, IsFlat text.toList tokens := fun x hx =>
        htexts x (List.mem_cons_of_mem text hx)
      cases texts with
      | nil => exact ⟨tokens, by simpa using htokens⟩
      | cons next texts =>
          obtain ⟨further, hfurther⟩ := ih hmore
          refine ⟨tokens ++ .mark ',' :: further, ?_⟩
          have hjoined := htokens.comma hfurther
          simpa using hjoined

end Flat

namespace Closed

variable {made next : Nat → List Call → Prop} {text more : List Char}

theorem imp (htext : Closed made text)
    (hnext : ∀ depth calls, made depth calls → next depth calls) : Closed next text := by
  obtain ⟨tokens, hscans, hencloses⟩ := htext
  exact ⟨tokens, hscans, hencloses.imp hnext⟩

theorem append (htext : Closed made text) (hmore : Closed next more) :
    Closed (fun depth calls => ∃ first second, calls = first ++ second ∧
      made depth first ∧ next depth second) (text ++ more) := by
  obtain ⟨tokens, hscans, hencloses⟩ := htext
  obtain ⟨further, hfurther, hnext⟩ := hmore
  exact ⟨tokens ++ further, hscans.append hfurther, hencloses.append hnext⟩

/-- The text is a closed part without calls. -/
def Silent (text : List Char) : Prop := Closed (fun _ calls => calls = []) text

/-- Tokens that leave every outline as it is call nothing. -/
theorem silent_of_scans {tokens : List Token} (htext : Scans text tokens)
    (hidle : ∀ due latest, Outline.run tokens ⟨due, .idle, latest⟩ = some ⟨due, .idle, latest⟩) :
    Silent text :=
  ⟨tokens, htext, fun due latest => ⟨[], hidle due latest, rfl⟩⟩

theorem silent_space (htext : Scans text []) : Silent text :=
  silent_of_scans htext fun _ _ => rfl

/-- The end of a statement, with the space after it. -/
theorem silent_end (htext : Scans text []) : Silent (';' :: text) := by
  have hmark : Scans [';'] [.mark ';'] := fun _ => rfl
  exact silent_of_scans (hmark.append htext) fun _ _ => rfl

theorem append_silent (htext : Closed made text) (hmore : Silent more) :
    Closed made (text ++ more) := by
  refine (htext.append hmore).imp ?_
  rintro depth calls ⟨first, second, rfl, hfirst, rfl⟩
  rwa [List.append_nil]

theorem silent_append (hmore : Silent more) (htext : Closed made text) :
    Closed made (more ++ text) := by
  refine (hmore.append htext).imp ?_
  rintro depth calls ⟨first, second, rfl, rfl, hsecond⟩
  exact hsecond

theorem braced (htext : Closed made text) :
    Closed (fun depth => made (depth + 1)) ('{' :: (text ++ ['}'])) := by
  obtain ⟨tokens, hscans, hencloses⟩ := htext
  have hopen : Scans ['{'] [.opening '{'] := fun _ => rfl
  have hclose : Scans ['}'] [.closing '}'] := fun _ => rfl
  exact ⟨_, hopen.append (hscans.append hclose), hencloses.braced⟩

end Closed

section Calls

variable {callee : List Char} {tokens : List Token}

theorem scans_call {arguments : List Char} (hcallee : isWordText callee = true)
    (harguments : IsFlat arguments tokens) :
    Scans (callee ++ '(' :: (arguments ++ [')'])) (callTokens callee tokens) := by
  have hopen : Scans ['('] [.opening '('] := fun _ => rfl
  have hclose : Scans [')'] [.closing ')'] := fun _ => rfl
  have hinside : Scans (arguments ++ [')']) (tokens ++ [.closing ')']) :=
    harguments.1.append hclose (by decide)
  exact (scansUpTo_word hcallee).append (hopen.append hinside) (by decide)

theorem closed_call {arguments : List Char} (hcallee : isWordText callee = true)
    (harguments : IsFlat arguments tokens) :
    Closed (fun depth calls => calls = headCall depth callee tokens)
      (callee ++ '(' :: (arguments ++ [')'])) :=
  ⟨_, scans_call hcallee harguments, encloses_call harguments.2 callee⟩

/-- The result of a call may be awaited. -/
theorem closed_await {arguments : List Char} (hcallee : isWordText callee = true)
    (harguments : IsFlat arguments tokens) :
    Closed (fun depth calls => calls = headCall depth callee tokens)
      ("await ".toList ++ (callee ++ '(' :: (arguments ++ [')']))) := by
  have hawait : Scans "await ".toList [.word "await".toList] := fun _ => rfl
  exact ⟨_, hawait.append (scans_call hcallee harguments),
    (encloses_call harguments.2 callee).after_word _⟩

/-- A closed part is the body of a function that a call takes as its last argument. -/
theorem Closed.callback {made : Nat → List Call → Prop} {head body : List Char}
    (hcallee : isWordText callee = true) (hhead : IsFlat head tokens) (hbody : Closed made body) :
    Closed (fun depth calls => ∃ inner, calls = headCall depth callee tokens ++ inner ∧
      made (depth + 1) inner)
      (callee ++ '(' :: (head ++ ("() => ".toList ++ (body ++ [')'])))) := by
  obtain ⟨further, hscans, hencloses⟩ := hbody
  have hopen : Scans ['('] [.opening '('] := fun _ => rfl
  have hclose : Scans [')'] [.closing ')'] := fun _ => rfl
  have harrow : Scans "() => ".toList [.opening '(', .closing ')', .mark '=', .mark '>'] :=
    fun _ => rfl
  have hinside := hhead.1.append (harrow.append (hscans.append hclose)) (by decide)
  exact ⟨_, (scansUpTo_word hcallee).append (hopen.append hinside) (by decide),
    hencloses.callback hhead.2 callee⟩

end Calls

/-- A closed text is a script with its calls. -/
theorem Closed.outline?_eq {made : Nat → List Call → Prop} {text : List Char}
    (htext : Closed made text) :
    ∃ tokens calls, scan text = some tokens ∧ outline? tokens = some calls ∧ made 0 calls := by
  obtain ⟨tokens, hscans, hencloses⟩ := htext
  obtain ⟨calls, hcalls, hmade⟩ := hencloses.outline?_eq
  exact ⟨tokens, calls, hscans.scan_eq, hcalls, hmade⟩

end TestScribe.Script
