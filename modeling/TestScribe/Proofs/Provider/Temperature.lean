import TestScribe.Proofs.Config.Precedence
import TestScribe.Proofs.Decimal.Overflow
import TestScribe.Provider.Request
/-!
The temperature of a request.  The first source that gives a double decides on it, also where the
double is not finite and has no form in the body.
-/

namespace TestScribe

/-- Where the body of a request holds the temperature. -/
def Provider.temperaturePath? : Provider → Option (List String)
  | .openai => some ["temperature"]
  | .anthropic => none
  | .gemini => some ["generationConfig", "temperature"]
  | .localModel => some ["options", "temperature"]

namespace Environment

variable {environment : Environment} {defaults : Defaults} {settings : Settings}

/-- The source that decides on the temperature gives a double that is not finite. -/
def LosesTemperature (environment : Environment) (defaults : Defaults) : Prop :=
  (∃ text, environment.IsSet "AI_TEMPERATURE" text ∧ Decimal.IsBoundlessText text.toList) ∨
    (∀ value, ¬ environment.IsTemperature value) ∧
      ∃ value, defaults.temperature = some value ∧ value.isFinite = false

theorem IsTemperature.unique {value other : Float} (hvalue : environment.IsTemperature value)
    (hother : environment.IsTemperature other) : value = other := by
  rw [← temperature?_eq_some_iff] at hvalue hother
  exact Option.some.inj (hvalue.symm.trans hother)

/-- A text that is boundless is read as a double all the same. -/
theorem isBoundless_iff :
    (∃ text, environment.IsSet "AI_TEMPERATURE" text ∧ Decimal.IsBoundlessText text.toList) ↔
      ∃ value, environment.IsTemperature value ∧ value.isFinite = false := by
  constructor
  · rintro ⟨text, hset, hboundless⟩
    obtain ⟨value, hread, hfinite⟩ := Decimal.float?_boundless_iff.mpr hboundless
    exact ⟨value, ⟨text, hset, hread⟩, hfinite⟩
  · rintro ⟨value, ⟨text, hset, hread⟩, hfinite⟩
    exact ⟨text, hset, Decimal.float?_boundless_iff.mp ⟨value, hread, hfinite⟩⟩

theorem Settles.losesTemperature_iff (hsettles : environment.Settles defaults settings) :
    environment.LosesTemperature defaults ↔ settings.temperature.isFinite = false := by
  have hdefault : (0.3 : Float).isFinite = true :=
    Decimal.isFinite_ofScientific_of_small (by decide) (by decide) true
  rw [LosesTemperature, isBoundless_iff]
  cases hsettles.temperature with
  | here hgives =>
      constructor
      · rintro (⟨value, hvalue, hfinite⟩ | ⟨hnone, -⟩)
        · rwa [hgives.unique hvalue]
        · exact absurd hgives (hnone _)
      · exact fun hfinite => .inl ⟨_, hgives, hfinite⟩
  | later hnone hlater =>
      have hset : ¬ ∃ value, environment.IsTemperature value ∧ value.isFinite = false :=
        fun ⟨value, hvalue, _⟩ => hnone value hvalue
      rw [or_iff_right hset, and_iff_right hnone]
      cases hlater with
      | here hgives => simp [hgives]
      | later hnone hlater =>
          cases hlater with
          | here hgives =>
              rw [hgives, hdefault]
              exact iff_of_false (fun ⟨value, hvalue, _⟩ => hnone value hvalue) nofun
          | later _ hlater => cases hlater

end Environment

namespace Request

variable {environment : Environment} {defaults : Defaults} {settings : Settings}
  {key prompt : String} {path : List String} {request : Request}

theorem body_of_build (hbuild : build settings key prompt = .ok request) :
    request.body = bodyFor settings prompt := by
  rw [build] at hbuild
  cases hurl : urlFor settings key with
  | error failure => rw [hurl] at hbuild; cases hbuild
  | ok url => rw [hurl] at hbuild; cases hbuild; rfl

theorem at?_bodyFor (hpath : settings.provider.temperaturePath? = some path) (prompt : String) :
    (bodyFor settings prompt).at? path = some (.ofFloat settings.temperature) := by
  rw [bodyFor]
  cases hprovider : settings.provider <;> rw [hprovider] at hpath <;> cases hpath <;> rfl

/-- The temperature of a request is a number, that of the first source that gives any, unless
that one is not finite; then there is null in its place, and no later source is asked. -/
theorem build_temperature (hsettings : environment.settings defaults = .ok settings)
    (hpath : settings.provider.temperaturePath? = some path)
    (hbuild : build settings key prompt = .ok request) :
    (environment.LosesTemperature defaults → request.body.at? path = some .null) ∧
      (¬ environment.LosesTemperature defaults → ∃ temperature,
        FirstOf [environment.IsTemperature, (defaults.temperature = some ·), (· = 0.3)]
          temperature ∧
            request.body.at? path = some (.number (.decimal temperature))) := by
  have hsettles := Environment.settings_eq_ok_iff.mp hsettings
  rw [body_of_build hbuild, at?_bodyFor hpath, hsettles.losesTemperature_iff, Json.ofFloat]
  constructor
  · intro hfinite
    rw [hfinite]
    rfl
  · intro hfinite
    rw [Bool.not_eq_false] at hfinite
    exact ⟨_, hsettles.temperature, by rw [if_pos hfinite]⟩

/-- An overflowing temperature, in front of a config file with one that is not. -/
def overflowing : Environment := [("AI_PROVIDER", "gemini"), ("AI_TEMPERATURE", "-2e308")]

theorem build_temperature_overflow :
    ∃ settings request,
      overflowing.settings { Defaults.empty with temperature := some 0.7 } = .ok settings ∧
      settings.provider.temperaturePath? = some ["generationConfig", "temperature"] ∧
      build settings "key" "prompt" = .ok request ∧
      request.body.at? ["generationConfig", "temperature"] = some .null := by
  have hsettings : overflowing.settings { Defaults.empty with temperature := some 0.7 } =
      .ok { Settings.ofProvider .gemini with temperature := -(1.0 / 0.0) } := by
    decide +kernel
  have hmade : (build { Settings.ofProvider .gemini with temperature := -(1.0 / 0.0) } "key"
      "prompt").toOption.isSome = true := by
    decide +kernel
  have hset : overflowing.IsSet "AI_TEMPERATURE" "-2e308" :=
    Environment.get?_eq_some_iff.mp (by decide +kernel)
  have hlarge : Decimal.IsTooLarge 2 308 := by
    rw [Decimal.IsTooLarge]
    decide +kernel
  have hloses : overflowing.LosesTemperature { Defaults.empty with temperature := some 0.7 } :=
    .inl ⟨_, hset, ['-'], by decide, "2e308".toList, by decide, .inr ⟨2, 308, by decide, hlarge⟩⟩
  cases hbuild : build { Settings.ofProvider .gemini with temperature := -(1.0 / 0.0) } "key"
      "prompt" with
  | error failure => rw [hbuild] at hmade; cases hmade
  | ok request =>
      exact ⟨_, request, hsettings, rfl, hbuild, (build_temperature hsettings rfl hbuild).1 hloses⟩

/-- A temperature that is not a number is a double, but there is null in its place. -/
theorem build_nanTemperature :
    ∃ settings request,
      Environment.settings [("AI_TEMPERATURE", "nan")] .empty = .ok settings ∧
      settings.provider = .openai ∧ build settings "k" "p" = .ok request ∧
      request.body.at? ["temperature"] = some .null ∧
      ¬ ∃ number, request.body.at? ["temperature"] = some (.number number) := by
  have hsettings : Environment.settings [("AI_TEMPERATURE", "nan")] .empty =
      .ok { Settings.ofProvider .openai with temperature := 0.0 / 0.0 } := by
    decide +kernel
  have hmade : (build { Settings.ofProvider .openai with temperature := 0.0 / 0.0 } "k"
      "p").toOption.isSome = true := by
    decide +kernel
  cases hbuild : build { Settings.ofProvider .openai with temperature := 0.0 / 0.0 } "k" "p" with
  | error failure => rw [hbuild] at hmade; cases hmade
  | ok request =>
      have hnull : request.body.at? ["temperature"] = some .null := by
        rw [body_of_build hbuild, at?_bodyFor rfl, Json.ofFloat, Decimal.isFinite_notANumber]
        rfl
      refine ⟨_, request, hsettings, rfl, hbuild, hnull, ?_⟩
      rintro ⟨number, hnumber⟩
      rw [hnull] at hnumber
      cases hnumber

end Request

end TestScribe
