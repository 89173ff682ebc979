import TestScribe.Framework
import TestScribe.Machine.Basic
import TestScribe.Text.Lines
/-!
The framework that a manifest names.  The manifest is looked for in a directory and in
those above it as its path is written.
-/

namespace TestScribe

/-- The framework that the text of a manifest names in quotes; where it names several,
vitest comes before mocha. -/
def Framework.ofManifest (text : String) : Framework :=
  if Text.occurs "\"vitest\"".toList text.toList then vitest
  else if Text.occurs "\"mocha\"".toList text.toList then mocha
  else jest

namespace Machine

variable {m : Type → Type} [Monad m]

def manifestName : Path := ⟨false, ["package.json"]⟩

/-- The places where the manifest of a directory may be, the nearest first. -/
def manifestPaths (start : Path) : List Path :=
  (start :: start.above).map (·.join manifestName)

/-- The framework that the nearest manifest names. -/
def detectFramework (machine : Machine m) (start : Path) : m Framework := do
  match ← (manifestPaths start).findM? machine.isFile with
  | none => pure Framework.default
  | some path =>
      match ← machine.read? path with
      | none => pure Framework.default
      | some text => pure (Framework.ofManifest text)

end Machine

end TestScribe
