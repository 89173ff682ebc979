import TestScribe.Proofs.Source.Recovery
import TestScribe.Proofs.Text.Lines
/-!
What the text of a function depends on.  Lines before the first one that declares it play no
part, whatever braces they leave open, and neither does anything behind its end.
-/

namespace TestScribe

namespace Source

variable {source name : List Char}

theorem linesFrom_append_left {before : List Char}
    (hbefore : ∀ line ∈ Text.lines (before ++ ['\n']), declares name line = false)
    (source : List Char) : linesFrom (before ++ '\n' :: source) name = linesFrom source name := by
  have hpassed : ∀ line ∈ Text.lines (before ++ ['\n']), (!declares name line) = true := by
    intro line hline
    rw [hbefore line hline]
    rfl
  rw [linesFrom, Text.lines_append_feed, List.dropWhile_append_of_pos hpassed]
  rfl

/-- The lines from the declaration on go on with the lines that are added. -/
theorem linesFrom_isPrefix (hlast : source.getLast? ≠ some '\r')
    (hdeclared : linesFrom source name ≠ []) (after : List Char) :
    linesFrom source name <+: linesFrom (source ++ '\n' :: after) name := by
  obtain ⟨more, hmore⟩ := Text.lines_isPrefix hlast after
  rw [linesFrom] at hdeclared
  rw [linesFrom, linesFrom, ← hmore, List.dropWhile_append, if_neg (by simpa using hdeclared)]
  exact List.prefix_append _ more

/-- Lines that are added behind an end are not recovered. -/
theorem recoveredLines_append_right (hends : Ends HasBrace (recoveredLines source name))
    (hlast : source.getLast? ≠ some '\r') (after : List Char) :
    recoveredLines (source ++ '\n' :: after) name = recoveredLines source name := by
  have hfirst := recoveredLines_isFirstEnd source name
  have hdeclared : linesFrom source name ≠ [] := by
    intro hnone
    rw [hnone] at hfirst
    rw [List.prefix_nil.mp hfirst.front] at hends
    exact not_ends_nil not_hasBrace_nil hends
  obtain ⟨more, hmore⟩ := linesFrom_isPrefix hlast hdeclared after
  have hlonger := recoveredLines_isFirstEnd (source ++ '\n' :: after) name
  rw [← hmore] at hlonger
  exact hlonger.unique (hfirst.append hends more)

end Source

/-- Text before the lines of a function changes nothing unless it declares the name, and text
behind them changes nothing if they end before it. -/
theorem recoverBody_local (before source after name : String) :
    ((∀ line ∈ Text.lines (before ++ "\n").toList, Source.declares name.toList line = false) →
      recoverBody (before ++ "\n" ++ source) name = recoverBody source name) ∧
    (Source.Ends Source.HasBrace (Source.recoveredLines source.toList name.toList) →
      source.toList.getLast? ≠ some '\r' →
      recoverBody (source ++ "\n" ++ after) name = recoverBody source name) := by
  have htext : ∀ first second : String,
      (first ++ "\n" ++ second).toList = first.toList ++ '\n' :: second.toList := by
    intro first second
    simp [String.toList_append]
  constructor
  · intro hbefore
    rw [String.toList_append] at hbefore
    rw [recoverBody, recoverBody, htext, Source.bodyOf_eq, Source.bodyOf_eq,
      Source.recoveredLines, Source.linesFrom_append_left hbefore]
    rfl
  · intro hends hlast
    rw [recoverBody, recoverBody, htext, Source.bodyOf_eq, Source.bodyOf_eq,
      Source.recoveredLines_append_right hends hlast]

/-- A function between a text that opens braces and one that binds its name again. -/
theorem recoverBody_between :
    recoverBody ("if (x) \x7b\r\n  g(f, [\r" ++ "\n" ++ "export const f = (a,\r\n  b) =>\n  a\n")
        "f" = "export const f = (a,\n  b) =>\n  a" ∧
    recoverBody ("export const f = (a,\r\n  b) =>\n  a\n" ++ "\n" ++ "\x7d f = (") "f" =
      "export const f = (a,\n  b) =>\n  a" := by
  have hbetween := recoverBody_local "if (x) \x7b\r\n  g(f, [\r"
    "export const f = (a,\r\n  b) =>\n  a\n" "\x7d f = (" "f"
  have hrecovered : recoverBody "export const f = (a,\r\n  b) =>\n  a\n" "f" =
      "export const f = (a,\n  b) =>\n  a" := by decide
  exact ⟨(hbetween.1 (by decide)).trans hrecovered,
    (hbetween.2 (by decide) (by decide)).trans hrecovered⟩

end TestScribe
