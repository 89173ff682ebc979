import TestScribe.Config.File
/-!
What a config file gives.  Either all of it can be read, and then it gives the entries of the
table `ai`, all of their kinds; or it gives nothing.
-/

namespace TestScribe

namespace Defaults

def entryNames : List String := ["provider", "model", "temperature", "max_tokens", "base_url"]

/-- An entry that is missing gives no value; one that is there has to be of its kind. -/
inductive FieldOf {Value : Type} (kind : Toml → Value → Prop) :
    Option Toml → Option Value → Prop where
  | missing : FieldOf kind none none
  | given {entry : Toml} {value : Value} (hkind : kind entry value) :
      FieldOf kind (some entry) (some value)

def IsText (entry : Toml) (value : String) : Prop := entry = .string value

/-- The entry is a double, or an integer next to which the double is. -/
inductive IsNumber : Toml → Float → Prop where
  | decimal (value : Float) : IsNumber (.decimal value) value
  | natural (value : Nat) : IsNumber (.integer value) (Decimal.nearest value 0)
  | negative (value : Nat) :
      IsNumber (.integer (Int.negSucc value)) (-(Decimal.nearest (value + 1) 0))

/-- The entry is a natural number of at most 32 bits. -/
def IsCount (entry : Toml) (value : Nat) : Prop :=
  entry = .integer value ∧ value < Nat.pow 2 32

/-- The known entries are of their kinds and give the settings. -/
structure ReadFrom (entries : Toml.Entries) (defaults : Defaults) : Prop where
  provider : FieldOf IsText (entries.lookup "provider") defaults.provider
  model : FieldOf IsText (entries.lookup "model") defaults.model
  temperature : FieldOf IsNumber (entries.lookup "temperature") defaults.temperature
  maxTokens : FieldOf IsCount (entries.lookup "max_tokens") defaults.maxTokens
  baseUrl : FieldOf IsText (entries.lookup "base_url") defaults.baseUrl

/-- The entries that a document has for `ai`: those of a table, or all of the known ones in the
order of an array. -/
inductive Holds (document : Toml.Entries) : Toml.Entries → Prop where
  | missing (hnone : document.lookup "ai" = none) : Holds document []
  | table {isInline : Bool} {origin : TableOrigin} {entries : Toml.Entries}
      (htable : document.lookup "ai" = some (.table isInline origin entries)) :
      Holds document entries
  | array {provider model temperature maxTokens baseUrl : Toml} {more : List Toml}
      (harray : document.lookup "ai" =
        some (.array (provider :: model :: temperature :: maxTokens :: baseUrl :: more))) :
      Holds document (entryNames.zip [provider, model, temperature, maxTokens, baseUrl])

/-- The entries that a config file gives, if there is one and all of it can be read. -/
inductive Gives : Option String → Toml.Entries → Prop where
  | absent : Gives none []
  | read {text : String} {document entries : Toml.Entries}
      (hread : Toml.read? text.toList = some document) (hholds : Holds document entries) :
      Gives (some text) entries

/-- The settings of a config file: what its entries give, or else nothing at all. -/
inductive FromFile (file : Option String) : Defaults → Prop where
  | read {entries : Toml.Entries} {defaults : Defaults} (hgives : Gives file entries)
      (hread : ReadFrom entries defaults) : FromFile file defaults
  | ignored (hnone : ∀ entries defaults, Gives file entries → ¬ ReadFrom entries defaults) :
      FromFile file empty

section Kinds

variable {entry : Toml}

theorem text?_eq_some_iff {value : String} : text? entry = some value ↔ IsText entry value := by
  cases entry <;> simp [text?, IsText]

theorem number?_negSucc (value : Nat) : number? (.integer (Int.negSucc value)) =
    some (-(Decimal.nearest (value + 1) 0)) := by
  simp only [number?, if_pos (Int.negSucc_lt_zero value), Int.natAbs_negSucc]

theorem number?_eq_some_iff {value : Float} :
    number? entry = some value ↔ IsNumber entry value := by
  constructor
  · intro hnumber
    cases entry with
    | decimal held =>
        cases hnumber
        exact .decimal value
    | integer held =>
        cases held with
        | ofNat held =>
            cases hnumber
            exact .natural held
        | negSucc held =>
            rw [number?_negSucc] at hnumber
            cases hnumber
            exact .negative held
    | _ => cases hnumber
  · intro hnumber
    cases hnumber with
    | decimal => rfl
    | natural => rfl
    | negative held => exact number?_negSucc held

theorem count?_eq_some_iff {value : Nat} : count? entry = some value ↔ IsCount entry value := by
  have hbound : (Environment.tokenBound : Int) = ((Nat.pow 2 32 : Nat) : Int) := rfl
  cases entry with
  | integer held =>
      simp only [count?, IsCount, hbound, Toml.integer.injEq, Bool.and_eq_true, decide_eq_true_eq]
      constructor
      · intro hcount
        split at hcount
        · cases hcount
          omega
        · cases hcount
      · rintro ⟨rfl, hvalue⟩
        rw [if_pos (by omega)]
        rfl
  | _ => simp [count?, IsCount]

end Kinds

theorem fieldOf_iff {Value : Type} {decode : Toml → Option Value}
    {kind : Toml → Value → Prop} (hkind : ∀ {entry value}, decode entry = some value ↔
      kind entry value) {entry : Option Toml} {field : Option Value} :
    entry? decode entry = some field ↔ FieldOf kind entry field := by
  constructor
  · intro hentry
    cases entry with
    | none =>
        cases hentry
        exact .missing
    | some entry =>
        obtain ⟨value, hvalue, rfl⟩ := Option.map_eq_some_iff.mp hentry
        exact .given (hkind.mp hvalue)
  · rintro (_ | hfield)
    · rfl
    · exact congrArg (Option.map some) (hkind.mpr hfield)

theorem ofEntries?_eq_some_iff {entries : Toml.Entries} {defaults : Defaults} :
    ofEntries? entries = some defaults ↔ ReadFrom entries defaults := by
  constructor
  · intro hread
    obtain ⟨provider, hprovider, hread⟩ := Option.bind_eq_some_iff.mp hread
    obtain ⟨model, hmodel, hread⟩ := Option.bind_eq_some_iff.mp hread
    obtain ⟨temperature, htemperature, hread⟩ := Option.bind_eq_some_iff.mp hread
    obtain ⟨maxTokens, hmaxTokens, hread⟩ := Option.bind_eq_some_iff.mp hread
    obtain ⟨baseUrl, hbaseUrl, hread⟩ := Option.bind_eq_some_iff.mp hread
    cases hread
    exact ⟨(fieldOf_iff text?_eq_some_iff).mp hprovider,
      (fieldOf_iff text?_eq_some_iff).mp hmodel,
      (fieldOf_iff number?_eq_some_iff).mp htemperature,
      (fieldOf_iff count?_eq_some_iff).mp hmaxTokens,
      (fieldOf_iff text?_eq_some_iff).mp hbaseUrl⟩
  · intro hread
    rw [ofEntries?, (fieldOf_iff text?_eq_some_iff).mpr hread.provider,
      (fieldOf_iff text?_eq_some_iff).mpr hread.model,
      (fieldOf_iff number?_eq_some_iff).mpr hread.temperature,
      (fieldOf_iff count?_eq_some_iff).mpr hread.maxTokens,
      (fieldOf_iff text?_eq_some_iff).mpr hread.baseUrl]
    rfl

theorem ofDocument?_of_holds {document entries : Toml.Entries}
    (hholds : Holds document entries) : ofDocument? document = ofEntries? entries := by
  cases hholds with
  | missing hnone =>
      rw [ofDocument?, hnone]
      rfl
  | table htable =>
      rw [ofDocument?, htable]
      rfl
  | array harray =>
      rw [ofDocument?, harray]
      rfl

theorem ofDocument?_eq_some_iff {document : Toml.Entries} {defaults : Defaults} :
    ofDocument? document = some defaults ↔
      ∃ entries, Holds document entries ∧ ReadFrom entries defaults := by
  constructor
  · intro hread
    rw [ofDocument?] at hread
    split at hread
    · next hnone => exact ⟨[], .missing hnone, ofEntries?_eq_some_iff.mp hread⟩
    · next value hvalue =>
      unfold ofToml? at hread
      split at hread
      · exact ⟨_, .table hvalue, ofEntries?_eq_some_iff.mp hread⟩
      · exact ⟨_, .array hvalue, ofEntries?_eq_some_iff.mp hread⟩
      · cases hread
  · rintro ⟨entries, hholds, hread⟩
    rw [ofDocument?_of_holds hholds]
    exact ofEntries?_eq_some_iff.mpr hread

/-- The settings that a config file gives, if there is one and it gives any. -/
def ofFile? : Option String → Option Defaults
  | none => some empty
  | some text => (Toml.read? text.toList).bind ofDocument?

def ofFile : Option String → Defaults
  | none => empty
  | some text => ofText text

theorem ofFile_eq (file : Option String) : ofFile file = (ofFile? file).getD empty := by
  cases file <;> rfl

theorem ofFile?_of_gives {file : Option String} {entries : Toml.Entries}
    (hgives : Gives file entries) : ofFile? file = ofEntries? entries := by
  cases hgives with
  | absent => rfl
  | read hdocument hholds =>
      rw [ofFile?, hdocument, Option.bind_some, ofDocument?_of_holds hholds]

theorem ofFile?_eq_some_iff {file : Option String} {defaults : Defaults} :
    ofFile? file = some defaults ↔ ∃ entries, Gives file entries ∧ ReadFrom entries defaults := by
  constructor
  · intro hfile
    cases file with
    | none => exact ⟨[], .absent, ofEntries?_eq_some_iff.mp hfile⟩
    | some text =>
        obtain ⟨document, hdocument, hread⟩ := Option.bind_eq_some_iff.mp hfile
        obtain ⟨entries, hholds, hentries⟩ := ofDocument?_eq_some_iff.mp hread
        exact ⟨entries, .read hdocument hholds, hentries⟩
  · rintro ⟨entries, hgives, hread⟩
    rw [ofFile?_of_gives hgives]
    exact ofEntries?_eq_some_iff.mpr hread

/-- A config file has settings of one kind only, those that are decoded. -/
theorem fromFile_iff {file : Option String} {defaults : Defaults} :
    FromFile file defaults ↔ defaults = ofFile file := by
  rw [ofFile_eq]
  constructor
  · intro hfile
    cases hfile with
    | read hgives hread => rw [ofFile?_eq_some_iff.mpr ⟨_, hgives, hread⟩, Option.getD_some]
    | ignored hnone =>
        cases hdecoded : ofFile? file with
        | none => rfl
        | some defaults =>
            obtain ⟨entries, hgives, hread⟩ := ofFile?_eq_some_iff.mp hdecoded
            exact absurd hread (hnone entries defaults hgives)
  · rintro rfl
    cases hdecoded : ofFile? file with
    | none =>
        refine .ignored fun entries defaults hgives hread => ?_
        rw [ofFile?_eq_some_iff.mpr ⟨entries, hgives, hread⟩] at hdecoded
        cases hdecoded
    | some defaults =>
        obtain ⟨entries, hgives, hread⟩ := ofFile?_eq_some_iff.mp hdecoded
        exact .read hgives hread

/-- Files that give the same known entries, or neither of which gives any. -/
inductive SameKnown (file other : Option String) : Prop where
  | given {entries others : Toml.Entries} (hfile : Gives file entries)
      (hother : Gives other others)
      (hsame : ∀ name ∈ entryNames, others.lookup name = entries.lookup name) :
      SameKnown file other
  | ungiven (hfile : ∀ entries, ¬ Gives file entries) (hother : ∀ entries, ¬ Gives other entries) :
      SameKnown file other

theorem ofEntries?_congr {entries others : Toml.Entries}
    (hsame : ∀ name ∈ entryNames, others.lookup name = entries.lookup name) :
    ofEntries? others = ofEntries? entries := by
  simp only [entryNames, List.forall_mem_cons] at hsame
  obtain ⟨hprovider, hmodel, htemperature, hmaxTokens, hbaseUrl, -⟩ := hsame
  rw [ofEntries?, ofEntries?, hprovider, hmodel, htemperature, hmaxTokens, hbaseUrl]

theorem ofFile?_eq_none {file : Option String} (hnone : ∀ entries, ¬ Gives file entries) :
    ofFile? file = none := by
  cases hdecoded : ofFile? file with
  | none => rfl
  | some defaults =>
      obtain ⟨entries, hgives, -⟩ := ofFile?_eq_some_iff.mp hdecoded
      exact absurd hgives (hnone entries)

/-- Only the known entries of a file matter. -/
theorem SameKnown.ofFile_eq {file other : Option String} (hsame : SameKnown file other) :
    ofFile other = ofFile file := by
  rw [Defaults.ofFile_eq, Defaults.ofFile_eq]
  cases hsame with
  | given hfile hother hsame =>
      rw [ofFile?_of_gives hfile, ofFile?_of_gives hother, ofEntries?_congr hsame]
  | ungiven hfile hother => rw [ofFile?_eq_none hfile, ofFile?_eq_none hother]

end Defaults

end TestScribe
