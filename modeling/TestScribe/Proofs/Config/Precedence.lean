import TestScribe.Proofs.CommandLine.Configuration
import TestScribe.Proofs.Config.File
import TestScribe.Proofs.Text.Characters
/-!
Where every setting comes from.  The environment comes before the config file, and that before
what holds anyway; the credential comes from one variable of the environment, which the provider
names.
-/

namespace TestScribe

/-- The value comes from the first source that gives any, in the order of the list. -/
inductive FirstOf {Value : Type} : List (Value → Prop) → Value → Prop where
  | here {gives : Value → Prop} {sources : List (Value → Prop)} {value : Value}
      (hgives : gives value) : FirstOf (gives :: sources) value
  | later {gives : Value → Prop} {sources : List (Value → Prop)} {value : Value}
      (hnone : ∀ other, ¬ gives other) (hlater : FirstOf sources value) :
      FirstOf (gives :: sources) value

section Sources

variable {Value : Type} {gives : Value → Prop} {sources : List (Value → Prop)}
  {option rest : Option Value} {value : Value}

theorem or_eq_some_iff_firstOf (hgives : ∀ value, option = some value ↔ gives value)
    (hrest : ∀ value, rest = some value ↔ FirstOf sources value) :
    option.or rest = some value ↔ FirstOf (gives :: sources) value := by
  rw [Option.or_eq_some_iff, hrest, hgives]
  constructor
  · rintro (hvalue | ⟨hnone, hlater⟩)
    · exact .here hvalue
    · refine .later (fun other hother => ?_) hlater
      rw [(hgives other).mpr hother] at hnone
      cases hnone
  · intro hfirst
    cases hfirst with
    | here hvalue => exact .inl hvalue
    | later hnone hlater =>
        refine .inr ⟨Option.eq_none_iff_forall_ne_some.mpr fun other hother => ?_, hlater⟩
        exact hnone other ((hgives other).mp hother)

theorem eq_some_iff_firstOf (hgives : ∀ value, option = some value ↔ gives value) :
    option = some value ↔ FirstOf [gives] value := by
  have hnothing : ∀ value : Value, none = some value ↔ FirstOf [] value :=
    fun _ => iff_of_false nofun nofun
  rw [← or_eq_some_iff_firstOf hgives hnothing, Option.or_none]

/-- Two sources, and a value where neither gives any. -/
theorem getD_eq_iff_firstOf {fallback : Value}
    (hgives : ∀ value, option = some value ↔ gives value) :
    (option.or rest).getD fallback = value ↔
      FirstOf [gives, (rest = some ·), (· = fallback)] value := by
  have hfallback : ∀ value, some fallback = some value ↔ FirstOf [(· = fallback)] value :=
    fun _ => eq_some_iff_firstOf fun _ => Option.some_inj.trans eq_comm
  have hlater : ∀ value, rest.or (some fallback) = some value ↔
      FirstOf [(rest = some ·), (· = fallback)] value :=
    fun _ => or_eq_some_iff_firstOf (fun _ => Iff.rfl) hfallback
  rw [← or_eq_some_iff_firstOf hgives hlater]
  cases option <;> cases rest <;> simp

end Sources

namespace Provider

theorem name_openai : openai.name = ("openai" : String).trimBlanks.toLower := by
  apply String.toList_injective
  rw [Text.toList_toLower]
  decide

variable {text : String} {provider : Provider} {failure : Failure}

theorem parse_eq_ok_iff :
    parse text = .ok provider ↔ provider.name = text.trimBlanks.toLower := by
  constructor
  · intro hparsed
    rw [parse] at hparsed
    split at hparsed
    · next found hfound =>
      cases hparsed
      have hname : (provider.name == text.trimBlanks.toLower) = true :=
        (List.find?_eq_some_iff_append.mp hfound).1
      exact beq_iff_eq.mp hname
    · cases hparsed
  · intro hname
    have hfound : all.find? (fun other => other.name == provider.name) = some provider := by
      cases provider <;> decide
    rw [hname] at hfound
    rw [parse, hfound]

theorem parse_eq_error (hparsed : parse text = .error failure) :
    failure = .unknownProvider text.trimBlanks.toLower := by
  rw [parse] at hparsed
  split at hparsed
  · cases hparsed
  · cases hparsed
    rfl

theorem parse_eq_error_iff : parse text = .error failure ↔
    (∀ provider : Provider, provider.name ≠ text.trimBlanks.toLower) ∧
      failure = .unknownProvider text.trimBlanks.toLower := by
  constructor
  · intro hparsed
    refine ⟨fun provider hname => ?_, parse_eq_error hparsed⟩
    rw [parse_eq_ok_iff.mpr hname] at hparsed
    cases hparsed
  · rintro ⟨hnone, rfl⟩
    cases hparsed : parse text with
    | ok provider => exact absurd (parse_eq_ok_iff.mp hparsed) (hnone provider)
    | error failure => rw [parse_eq_error hparsed]

end Provider

namespace Decimal

/-- The digits of a natural number below a bound, perhaps behind a plus sign. -/
def IsNatBelow (bound : Nat) (text : List Char) (value : Nat) : Prop :=
  ∃ digits, (text = digits ∨ text = '+' :: digits) ∧ Document.IsDigits digits ∧
    value = ofDigits digits ∧ value < bound

variable {bound value : Nat}

theorem ite_digits_eq_some_iff (digits : List Char) :
    (if digits.isEmpty || !digits.all Char.isDigit then none
      else if ofDigits digits < bound then some (ofDigits digits) else none) = some value ↔
        Document.IsDigits digits ∧ value = ofDigits digits ∧ value < bound := by
  by_cases hdigits : (digits.isEmpty || !digits.all Char.isDigit) = true
  · rw [if_pos hdigits]
    refine iff_of_false nofun fun hread => ?_
    have hnonempty := hread.1.nonempty
    have hall := List.all_eq_true.mpr hread.1.digits
    simp [hnonempty, hall] at hdigits
  · rw [if_neg hdigits]
    simp only [Bool.or_eq_true, List.isEmpty_iff, Bool.not_eq_true', not_or,
      Bool.not_eq_false, List.all_eq_true] at hdigits
    constructor
    · intro hread
      split at hread
      · next hvalue =>
        cases hread
        exact ⟨⟨hdigits.1, hdigits.2⟩, rfl, hvalue⟩
      · cases hread
    · rintro ⟨-, rfl, hvalue⟩
      rw [if_pos hvalue]

theorem natBelow?_eq_some_iff {text : List Char} :
    natBelow? bound text = some value ↔ IsNatBelow bound text value := by
  cases text with
  | nil =>
      refine iff_of_false nofun ?_
      rintro ⟨digits, hsame | hsame, hdigits, -⟩
      · exact hdigits.nonempty hsame.symm
      · cases hsame
  | cons c rest =>
      by_cases hplus : c = '+'
      · subst hplus
        refine (ite_digits_eq_some_iff rest).trans ⟨fun hread => ⟨rest, .inr rfl, hread⟩, ?_⟩
        rintro ⟨digits, rfl | hsame, hdigits, hvalue⟩
        · exact absurd (hdigits.digits '+' List.mem_cons_self) (by decide)
        · cases hsame
          exact ⟨hdigits, hvalue⟩
      · have hunsigned : natBelow? bound (c :: rest) =
            if (c :: rest).isEmpty || !(c :: rest).all Char.isDigit then none
            else if ofDigits (c :: rest) < bound then some (ofDigits (c :: rest)) else none := by
          simp [natBelow?, hplus]
        rw [hunsigned, ite_digits_eq_some_iff]
        refine ⟨fun hread => ⟨_, .inl rfl, hread⟩, ?_⟩
        rintro ⟨digits, rfl | hsame, hread⟩
        · exact hread
        · cases hsame
          exact absurd rfl hplus

end Decimal

namespace Environment

variable {environment : Environment}

/-- The variable is set to a value that is not blank, which counts without outer blanks. -/
def IsSet (environment : Environment) (name value : String) : Prop :=
  ∃ written, environment.lookup name = some written ∧ written.trimBlanks ≠ "" ∧
    value = written.trimBlanks

def IsTemperature (environment : Environment) (value : Float) : Prop :=
  ∃ text, environment.IsSet "AI_TEMPERATURE" text ∧ Decimal.float? text.toList = some value

/-- The variable of the number of tokens is set to a natural number of at most 32 bits. -/
def IsMaxTokens (environment : Environment) (value : Nat) : Prop :=
  ∃ text, environment.IsSet "AI_MAX_TOKENS" text ∧
    Decimal.IsNatBelow (Nat.pow 2 32) text.toList value

/-- The name that a provider is looked for by. -/
def NamedProvider (environment : Environment) (defaults : Defaults) : String → Prop :=
  FirstOf [environment.IsSet "AI_PROVIDER", (defaults.provider = some ·), (· = "openai")]

/-- The settings that an environment gives together with those of a config file. -/
structure Settles (environment : Environment) (defaults : Defaults) (settings : Settings) :
    Prop where
  provider : ∃ name, environment.NamedProvider defaults name ∧
    settings.provider.name = name.trimBlanks.toLower
  /-- The credential is in the variable of the provider. -/
  apiKey : ∀ key, settings.apiKey = some key ↔
    environment.IsSet (settings.provider.name.toUpper ++ "_API_KEY") key
  model : FirstOf [environment.IsSet "AI_MODEL", (defaults.model = some ·),
    (· = settings.provider.defaultModel)] settings.model
  temperature : FirstOf [environment.IsTemperature, (defaults.temperature = some ·), (· = 0.3)]
    settings.temperature
  maxTokens : FirstOf [environment.IsMaxTokens, (defaults.maxTokens = some ·), (· = 2000)]
    settings.maxTokens
  /-- Without any source the endpoint of the provider is not replaced. -/
  baseUrl : ∀ url, settings.baseUrl = some url ↔
    FirstOf [environment.IsSet "AI_BASE_URL", (defaults.baseUrl = some ·)] url

/-- The name that a provider is looked for by is that of none. -/
def IsUnknown (environment : Environment) (defaults : Defaults) (failure : Failure) : Prop :=
  ∃ name, environment.NamedProvider defaults name ∧
    (∀ provider : Provider, provider.name ≠ name.trimBlanks.toLower) ∧
      failure = .unknownProvider name.trimBlanks.toLower

theorem get?_eq_some_iff {name value : String} :
    environment.get? name = some value ↔ environment.IsSet name value := by
  rw [get?, IsSet]
  cases environment.lookup name with
  | none => simp
  | some written => exact String.ite_allBlank_eq_some_iff.trans (by simp)

theorem temperature?_eq_some_iff {value : Float} :
    environment.temperature? = some value ↔ environment.IsTemperature value := by
  simp only [temperature?, Option.bind_eq_some_iff, get?_eq_some_iff, IsTemperature]
  rfl

theorem maxTokens?_eq_some_iff {value : Nat} :
    environment.maxTokens? = some value ↔ environment.IsMaxTokens value := by
  simp only [maxTokens?, Option.bind_eq_some_iff, get?_eq_some_iff,
    Decimal.natBelow?_eq_some_iff, IsMaxTokens]
  rfl

variable {defaults : Defaults}

theorem namedProvider_iff {name : String} : environment.NamedProvider defaults name ↔
    ((environment.get? providerVariable).or defaults.provider).getD "openai" = name :=
  (getD_eq_iff_firstOf fun _ => get?_eq_some_iff).symm

theorem provider_eq (environment : Environment) (defaults : Defaults) :
    environment.provider defaults = Provider.parse
      (((environment.get? providerVariable).or defaults.provider).getD "openai") := by
  rw [Environment.provider]
  split
  · next hnone =>
    rw [hnone]
    exact (Provider.parse_eq_ok_iff.mpr Provider.name_openai).symm
  · next name hname => rw [hname, Option.getD_some]

theorem settings_of_provider {provider : Provider}
    (hprovider : environment.provider defaults = .ok provider) :
    environment.settings defaults = .ok {
      provider
      apiKey := environment.get? provider.keyVariable
      model := ((environment.get? modelVariable).or defaults.model).getD provider.defaultModel
      temperature :=
        (environment.temperature?.or defaults.temperature).getD Settings.defaultTemperature
      maxTokens := (environment.maxTokens?.or defaults.maxTokens).getD Settings.defaultMaxTokens
      baseUrl := (environment.get? baseUrlVariable).or defaults.baseUrl } := by
  rw [settings, hprovider]
  rfl

theorem settings_of_no_provider {failure : Failure}
    (hprovider : environment.provider defaults = .error failure) :
    environment.settings defaults = .error failure := by
  rw [settings, hprovider]
  rfl

theorem baseUrl_iff (url : String) :
    (environment.get? baseUrlVariable).or defaults.baseUrl = some url ↔
      FirstOf [environment.IsSet "AI_BASE_URL", (defaults.baseUrl = some ·)] url :=
  or_eq_some_iff_firstOf (fun _ => get?_eq_some_iff)
    (fun _ => eq_some_iff_firstOf fun _ => Iff.rfl)

/-- Exactly the settings that the sources give come out. -/
theorem settings_eq_ok_iff {settings : Settings} :
    environment.settings defaults = .ok settings ↔ environment.Settles defaults settings := by
  constructor
  · intro hsettings
    cases hprovider : environment.provider defaults with
    | error failure =>
        rw [settings_of_no_provider hprovider] at hsettings
        cases hsettings
    | ok provider =>
        rw [settings_of_provider hprovider] at hsettings
        cases hsettings
        rw [provider_eq] at hprovider
        constructor
        · exact ⟨_, namedProvider_iff.mpr rfl, Provider.parse_eq_ok_iff.mp hprovider⟩
        · exact fun key => get?_eq_some_iff
        · exact (getD_eq_iff_firstOf fun _ => get?_eq_some_iff).mp rfl
        · exact (getD_eq_iff_firstOf fun _ => temperature?_eq_some_iff).mp rfl
        · exact (getD_eq_iff_firstOf fun _ => maxTokens?_eq_some_iff).mp rfl
        · exact baseUrl_iff
  · intro hsettles
    obtain ⟨name, hname, hnamed⟩ := hsettles.provider
    have hprovider : environment.provider defaults = .ok settings.provider := by
      rw [provider_eq, namedProvider_iff.mp hname]
      exact Provider.parse_eq_ok_iff.mpr hnamed
    have hkey : environment.get? settings.provider.keyVariable = settings.apiKey :=
      Option.ext fun key => get?_eq_some_iff.trans (hsettles.apiKey key).symm
    have hmodel := (getD_eq_iff_firstOf fun _ => get?_eq_some_iff).mpr hsettles.model
    have htemperature :=
      (getD_eq_iff_firstOf fun _ => temperature?_eq_some_iff).mpr hsettles.temperature
    have hmaxTokens :=
      (getD_eq_iff_firstOf fun _ => maxTokens?_eq_some_iff).mpr hsettles.maxTokens
    have hbaseUrl : (environment.get? baseUrlVariable).or defaults.baseUrl = settings.baseUrl :=
      Option.ext fun url => (baseUrl_iff url).trans (hsettles.baseUrl url).symm
    rw [settings_of_provider hprovider, hkey, hbaseUrl, modelVariable, hmodel,
      Settings.defaultTemperature, htemperature, Settings.defaultMaxTokens, hmaxTokens]

/-- There are no settings exactly if the name of the provider is unknown. -/
theorem settings_eq_error_iff {failure : Failure} :
    environment.settings defaults = .error failure ↔ environment.IsUnknown defaults failure := by
  constructor
  · intro hsettings
    cases hprovider : environment.provider defaults with
    | ok provider =>
        rw [settings_of_provider hprovider] at hsettings
        cases hsettings
    | error cause =>
        rw [settings_of_no_provider hprovider] at hsettings
        cases hsettings
        rw [provider_eq] at hprovider
        exact ⟨_, namedProvider_iff.mpr rfl, Provider.parse_eq_error_iff.mp hprovider⟩
  · rintro ⟨name, hname, hunknown⟩
    apply settings_of_no_provider
    rw [provider_eq, namedProvider_iff.mp hname]
    exact Provider.parse_eq_error_iff.mpr hunknown

def commonVariables : List String :=
  ["AI_PROVIDER", "AI_MODEL", "AI_TEMPERATURE", "AI_MAX_TOKENS", "AI_BASE_URL"]

/-- Only these variables and that of the provider's credential matter. -/
theorem settings_congr {other : Environment}
    (hcommon : ∀ name ∈ commonVariables, other.get? name = environment.get? name)
    (hkey : ∀ settings, environment.settings defaults = .ok settings →
      other.get? settings.provider.keyVariable = environment.get? settings.provider.keyVariable) :
    other.settings defaults = environment.settings defaults := by
  simp only [commonVariables, List.forall_mem_cons] at hcommon
  obtain ⟨hname, hmodel, htemperature, hmaxTokens, hbaseUrl, -⟩ := hcommon
  have hproviders : other.provider defaults = environment.provider defaults := by
    rw [provider_eq, provider_eq, providerVariable, hname]
  cases hprovider : environment.provider defaults with
  | error failure =>
      rw [settings_of_no_provider hprovider]
      exact settings_of_no_provider (hproviders.trans hprovider)
  | ok provider =>
      have hsettings := settings_of_provider hprovider
      rw [hsettings, settings_of_provider (hproviders.trans hprovider), hkey _ hsettings,
        temperature?, temperature?, maxTokens?, maxTokens?, modelVariable, temperatureVariable,
        maxTokensVariable, baseUrlVariable, hmodel, htemperature, hmaxTokens, hbaseUrl]

end Environment

namespace Configuration

theorem settings_eq (configuration : Configuration) : configuration.settings =
    configuration.environment.settings (Defaults.ofFile configuration.file) := by
  obtain ⟨environment, file⟩ := configuration
  cases file <;> rfl

/-- Configurations with the same values of the variables that are read whatever the provider is,
the same credential of the provider that is chosen, and the same known entries of the file. -/
structure Agree (configuration other : Configuration) : Prop where
  common : ∀ name ∈ Environment.commonVariables, ∀ value,
    other.environment.IsSet name value ↔ configuration.environment.IsSet name value
  key : ∀ settings, configuration.settings = .ok settings → ∀ value,
    other.environment.IsSet (settings.provider.name.toUpper ++ "_API_KEY") value ↔
      configuration.environment.IsSet (settings.provider.name.toUpper ++ "_API_KEY") value
  file : Defaults.SameKnown configuration.file other.file

theorem Agree.settings_eq {configuration other : Configuration}
    (hagree : configuration.Agree other) : other.settings = configuration.settings := by
  have hget {name : String} (hset : ∀ value, other.environment.IsSet name value ↔
      configuration.environment.IsSet name value) :
      other.environment.get? name = configuration.environment.get? name :=
    Option.ext fun value => Environment.get?_eq_some_iff.trans
      ((hset value).trans Environment.get?_eq_some_iff.symm)
  rw [other.settings_eq, configuration.settings_eq, hagree.file.ofFile_eq]
  refine Environment.settings_congr (fun name hname => hget (hagree.common name hname)) ?_
  intro settings hsettings
  exact hget (hagree.key settings (configuration.settings_eq.trans hsettings))

end Configuration

/-- How settings come from a configuration. -/
structure ResolutionContract (configuration : Configuration) : Prop where
  /-- The file settles what it sets, all of it or nothing. -/
  file : ∃! defaults, Defaults.FromFile configuration.file defaults
  /-- Every setting is the one of the first source that gives any. -/
  resolved : ∀ defaults, Defaults.FromFile configuration.file defaults → ∀ settings,
    configuration.settings = .ok settings ↔
      configuration.environment.Settles defaults settings
  /-- There are no settings exactly if no provider has the name. -/
  unresolved : ∀ defaults, Defaults.FromFile configuration.file defaults → ∀ failure,
    configuration.settings = .error failure ↔
      configuration.environment.IsUnknown defaults failure
  /-- Other variables and other entries of the file do not matter. -/
  independent : ∀ other, configuration.Agree other → other.settings = configuration.settings
  /-- A machine has the settings of the configuration that it finds. -/
  found : ∀ surroundings tree, CommandLine.configurationIn surroundings tree = configuration →
    (tree.run (Machine.inMemory surroundings).settings).1 = configuration.settings

/-- Environment, file and provider give the settings in this order, and nothing else does. -/
theorem resolution_contract (configuration : Configuration) :
    ResolutionContract configuration where
  file := ⟨Defaults.ofFile configuration.file, Defaults.fromFile_iff.mpr rfl,
    fun _ hother => Defaults.fromFile_iff.mp hother⟩
  resolved := by
    intro defaults hfile settings
    rw [configuration.settings_eq, ← Defaults.fromFile_iff.mp hfile]
    exact Environment.settings_eq_ok_iff
  unresolved := by
    intro defaults hfile failure
    rw [configuration.settings_eq, ← Defaults.fromFile_iff.mp hfile]
    exact Environment.settings_eq_error_iff
  independent _ hagree := hagree.settings_eq
  found := by
    rintro surroundings tree rfl
    exact CommandLine.run_settings surroundings tree

end TestScribe
