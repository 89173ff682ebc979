import Mathlib.Data.List.Infix
import TestScribe.Proofs.TestCase.Reading
import TestScribe.Proofs.Text.Characters
import TestScribe.Proofs.Url.Host
import TestScribe.Url.Basic
/-!
What the path of an address ends with.  A colon and letters at the end of the text come out at the
end of the path, whatever stands before them: they are part of no authority that can be read, and
they make no dot segment and no drive.
-/

namespace TestScribe

section Suffixes

variable {Symbol : Type} {ending front text : List Symbol} {c d : Symbol}

/-- An ending without a sign lies behind the sign. -/
theorem suffix_of_append_cons (hending : ending <:+ front ++ c :: text) (hc : c ∉ ending) :
    ending <:+ text := by
  rcases List.suffix_or_suffix_of_suffix hending (List.suffix_append front (c :: text)) with
    hshort | hlong
  · rcases List.suffix_cons_iff.mp hshort with rfl | hbehind
    · exact absurd List.mem_cons_self hc
    · exact hbehind
  · exact absurd (hlong.mem List.mem_cons_self) hc

/-- An ending begins behind a part that its first sign is not in. -/
theorem suffix_of_cons_suffix (hending : d :: ending <:+ front ++ c :: text) (hd : d ∉ front)
    (hother : d ≠ c) : ending <:+ text := by
  induction front with
  | nil =>
      rcases List.suffix_cons_iff.mp hending with hsame | hbehind
      · exact absurd (List.cons.inj hsame).1 hother
      · exact (List.suffix_cons d ending).trans hbehind
  | cons first front ih =>
      rw [List.mem_cons, not_or] at hd
      rcases List.suffix_cons_iff.mp hending with hsame | hbehind
      · exact absurd (List.cons.inj hsame).1 hd.1
      · exact ih hbehind hd.2

/-- What is dropped at the beginning does not reach an ending that is kept. -/
theorem suffix_dropWhile {drop : Symbol → Bool} (hending : ending <:+ text)
    (hkept : ∀ d ∈ ending, drop d = false) : ending <:+ text.dropWhile drop := by
  obtain ⟨front, rfl⟩ := hending
  induction front with
  | nil =>
      cases ending with
      | nil => exact List.nil_suffix
      | cons d ending =>
          rw [List.nil_append, List.dropWhile_cons_of_neg (by simp [hkept d List.mem_cons_self])]
  | cons d front ih =>
      rw [List.cons_append, List.dropWhile_cons]
      split
      · exact ih
      · exact List.suffix_append (d :: front) ending

/-- An ending that is kept is kept behind everything else that is. -/
theorem suffix_filter {keep : Symbol → Bool} (hending : ending <:+ text)
    (hkept : ∀ d ∈ ending, keep d = true) : ending <:+ text.filter keep := by
  have hfiltered := hending.filter keep
  rwa [List.filter_eq_self.mpr hkept] at hfiltered

/-- The part behind the last separator. -/
theorem splitOnP_ending {separates : Symbol → Bool} (hending : ending <:+ text)
    (hwhole : ∀ d ∈ ending, separates d = false) :
    ∃ parts last, text.splitOnP separates = parts ++ [last] ∧ ending <:+ last := by
  obtain ⟨front, rfl⟩ := hending
  induction front with
  | nil => exact ⟨[], ending, List.splitOnP_eq_singleton hwhole, List.suffix_refl ending⟩
  | cons d front ih =>
      obtain ⟨parts, last, hparts, hlast⟩ := ih
      rw [List.cons_append, List.splitOnP_cons_eq_if_modifyHead, hparts]
      split
      · exact ⟨[] :: parts, last, rfl, hlast⟩
      · cases parts with
        | nil => exact ⟨[], d :: last, rfl, hlast.trans (List.suffix_cons d last)⟩
        | cons part parts => exact ⟨(d :: part) :: parts, last, rfl, hlast⟩

end Suffixes

namespace Percent

/-- An ending that nothing of is encoded stays at the end. -/
theorem suffix_encode {ending text : List Char} {set : Char → Bool}
    (hset : ∀ c ∈ ending, set c = false) (hending : ending <:+ text) :
    ending <:+ encode set text := by
  obtain ⟨front, rfl⟩ := hending
  have hsame : encode set ending = ending := by
    induction ending with
    | nil => rfl
    | cons c ending ih =>
        rw [List.forall_mem_cons] at hset
        rw [encode, List.flatMap_cons, hset.1, ← encode, ih hset.2]
        rfl
  rw [encode, List.flatMap_append, ← encode, ← encode, hsame]
  exact List.suffix_append _ ending

end Percent

namespace Url

/-- A character that stands for itself in a path, and that parts nothing. -/
structure IsInner (c : Char) : Prop where
  noBreak : isBreak c = false
  noSlash : isSlash true c = false
  noUser : c ≠ '@'
  noDigit : c.isDigit = false
  plain : Percent.inPath c = false
  plainQuery : Percent.inWebQuery c = false
  visible : 32 < c.toNat

/-- A colon and letters: a method, as it stands behind what it is called on. -/
structure IsMethod (ending : List Char) : Prop where
  shape : ∃ first rest, ending = ':' :: first :: rest
  letters : ∀ c ∈ ending.tail, c.isAlpha = true

theorem isInner_colon : IsInner ':' := by
  constructor <;> decide

theorem isInner_of_isAlpha {c : Char} (hc : c.isAlpha = true) : IsInner c := by
  have hall : ∀ d ∈ (List.range 128).map Char.ofNat, d.isAlpha = true →
      isBreak d = false ∧ isSlash true d = false ∧ d ≠ '@' ∧ d.isDigit = false ∧
        Percent.inPath d = false ∧ Percent.inWebQuery d = false ∧ 32 < d.toNat := by
    decide +kernel
  have hcode := Text.code_of_isAlphanum (Bool.or_eq_true_iff.mpr (.inl hc))
  have hmem : c ∈ (List.range 128).map Char.ofNat :=
    List.mem_map.mpr ⟨c.toNat, List.mem_range.mpr (by omega), Char.ofNat_toNat c⟩
  obtain ⟨hbreak, hslash, huser, hdigit, hplain, hquery, hvisible⟩ := hall c hmem hc
  exact ⟨hbreak, hslash, huser, hdigit, hplain, hquery, hvisible⟩

theorem IsInner.isSlash {c : Char} (hc : IsInner c) (isSpecial : Bool) :
    Url.isSlash isSpecial c = false := by
  cases isSpecial with
  | true => exact hc.noSlash
  | false =>
      have hslash := hc.noSlash
      simp only [Url.isSlash, Bool.or_eq_false_iff] at hslash ⊢
      exact ⟨hslash.1, rfl⟩

namespace IsMethod

variable {ending text : List Char}

theorem isInner (hmethod : IsMethod ending) {c : Char} (hc : c ∈ ending) : IsInner c := by
  obtain ⟨first, rest, rfl⟩ := hmethod.shape
  rcases List.mem_cons.mp hc with rfl | hletter
  · exact isInner_colon
  · exact isInner_of_isAlpha (hmethod.letters c hletter)

theorem colon_mem (hmethod : IsMethod ending) (hending : ending <:+ text) : ':' ∈ text := by
  obtain ⟨first, rest, rfl⟩ := hmethod.shape
  exact hending.mem List.mem_cons_self

/-- A text that a method stands at the end of ends with a letter. -/
theorem getLast? (hmethod : IsMethod ending) (hending : ending <:+ text) :
    text.getLast? ≠ some ']' := by
  obtain ⟨first, rest, rfl⟩ := hmethod.shape
  obtain ⟨front, rfl⟩ := hending
  intro hlast
  rw [List.getLast?_append, List.getLast?_cons_cons] at hlast
  cases hend : (first :: rest).getLast? with
  | none => cases List.getLast?_eq_none_iff.mp hend
  | some c =>
      rw [hend, Option.some_or] at hlast
      cases hlast
      exact absurd (hmethod.letters ']' (List.mem_of_getLast? hend)) (by decide)

theorem suffix_withoutBreaks (hmethod : IsMethod ending) (hending : ending <:+ text) :
    ending <:+ withoutBreaks text :=
  suffix_filter hending fun c hc => by rw [(hmethod.isInner hc).noBreak]; rfl

/-- A method that begins at a colon or in front of it begins in front of no other. -/
theorem suffix_of_append_colon (hmethod : IsMethod ending) {front : List Char}
    (hending : ending <:+ front ++ ':' :: text) : ending <:+ ':' :: text := by
  rcases List.suffix_or_suffix_of_suffix hending (List.suffix_append front (':' :: text)) with
    hinside | hlonger
  · exact hinside
  · obtain ⟨first, rest, rfl⟩ := hmethod.shape
    rcases List.suffix_cons_iff.mp hlonger with hsame | hletters
    · rw [hsame]
    · exact absurd (hmethod.letters ':' (hletters.mem List.mem_cons_self)) (by decide)

/-- A method makes no dot segment. -/
theorem isDot_eq_false (hmethod : IsMethod ending) (hending : ending <:+ text) :
    isSingleDot text = false ∧ isDoubleDot text = false := by
  have hcolon : ':' ∈ text.map Char.toLower :=
    List.mem_map.mpr ⟨':', hmethod.colon_mem hending, rfl⟩
  have hnone (dots : List String) (hdots : ∀ dot ∈ dots, ':' ∉ dot.toList) :
      dots.contains (String.ofList (text.map Char.toLower)) = false := by
    rw [List.contains_eq_mem, decide_eq_false_iff_not]
    intro hmem
    exact hdots _ hmem (by rwa [String.toList_ofList])
  exact ⟨hnone _ (by decide), hnone _ (by decide)⟩

/-- Nor a drive. -/
theorem isDrive_eq_false (hmethod : IsMethod ending) (hending : ending <:+ text) :
    isDrive text = false := by
  obtain ⟨first, rest, rfl⟩ := hmethod.shape
  obtain ⟨front, rfl⟩ := hending
  rcases front with _ | ⟨letter, _ | ⟨mark, _ | _⟩⟩
  · cases rest <;> rfl
  all_goals rfl

/-- What is broken off behind a drive still ends with the method. -/
theorem suffix_brokenDrive (hmethod : IsMethod ending) (hending : ending <:+ text)
    {drive rest : List Char} (hdrive : brokenDrive? text = some (drive, rest)) :
    ending <:+ rest := by
  rw [brokenDrive?] at hdrive
  split at hdrive
  · next letter more hletter =>
    split at hdrive
    · next following behind hcolon =>
      dsimp only at hdrive
      split at hdrive
      · next hbroken =>
        cases hdrive
        simp only [Bool.and_eq_true] at hbroken
        have hseparates : following ∉ ending := by
          intro hmem
          rw [(hmethod.isInner hmem).noBreak] at hbroken
          cases hbroken.1.2
        obtain ⟨before, hbefore⟩ : letter :: more <:+ text :=
          hletter ▸ List.dropWhile_suffix isBreak
        obtain ⟨between, hbetween⟩ : ':' :: following :: behind <:+ more :=
          hcolon ▸ List.dropWhile_suffix isBreak
        have hsplit : text = (before ++ letter :: between ++ [':']) ++ following :: behind := by
          rw [← hbefore, ← hbetween]
          simp
        rw [hsplit] at hending
        exact hmethod.suffix_withoutBreaks (suffix_of_append_cons hending hseparates)
      · cases hdrive
    · cases hdrive
  · cases hdrive

end IsMethod

/-- The last of the segments ends with the text. -/
def EndsIn (ending : List Char) (segments : List (List Char)) : Prop :=
  ∃ front last, segments = front ++ [last] ∧ ending <:+ last

section Paths

variable {ending text : List Char}

theorem EndsIn.printPath {segments : List (List Char)} (hends : EndsIn ending segments) :
    ending <:+ printPath (.segments segments) := by
  obtain ⟨front, last, rfl, hlast⟩ := hends
  have hprinted : Url.printPath (.segments (front ++ [last])) =
      Url.printPath (.segments front) ++ '/' :: last := by
    simp [Url.printPath]
  rw [hprinted]
  exact (hlast.trans (List.suffix_cons '/' last)).trans (List.suffix_append _ _)

theorem EndsIn.dropEmpty {segments : List (List Char)} (hends : EndsIn ending segments) :
    EndsIn ending (dropEmpty segments) := by
  fun_induction Url.dropEmpty segments with
  | case1 second more ih =>
      refine ih ?_
      obtain ⟨front, last, hsegments, hlast⟩ := hends
      cases front with
      | nil => cases hsegments
      | cons first front => exact ⟨front, last, (List.cons.inj hsegments).2, hlast⟩
  | case2 segments => exact hends

variable {isFile isLast : Bool}

theorem Walk.endsIn_step (hmethod : IsMethod ending) (hending : ending <:+ text) (walk : Walk) :
    EndsIn ending (walk.step isFile isLast text).segments := by
  have hsegment := hmethod.suffix_withoutBreaks hending
  obtain ⟨hsingle, hdouble⟩ := hmethod.isDot_eq_false hsegment
  have hdrive := hmethod.isDrive_eq_false hsegment
  have hplain : ∀ c ∈ ending, Percent.inPath c = false := fun c hc => (hmethod.isInner hc).plain
  rw [Walk.step]
  dsimp only
  split
  · next drive rest hbroken =>
    split at hbroken
    · have hrest := hmethod.suffix_brokenDrive hending hbroken
      exact ⟨[drive], _, rfl, Percent.suffix_encode hplain hrest⟩
    · cases hbroken
  · simp only [hsingle, hdouble, hdrive, Bool.and_false, Bool.false_eq_true, if_false]
    exact ⟨walk.segments, _, rfl, Percent.suffix_encode hplain hsegment⟩

theorem Walk.endsIn_run (hmethod : IsMethod ending) {parts : List (List Char)}
    (hparts : EndsIn ending parts) (walk : Walk) :
    EndsIn ending (walk.run isFile parts).segments := by
  obtain ⟨front, last, rfl, hlast⟩ := hparts
  induction front generalizing walk with
  | nil => exact walk.endsIn_step hmethod hlast
  | cons part front ih => exact ih _

theorem endsIn_walkPath (hmethod : IsMethod ending) (hending : ending <:+ text)
    (scheme : List Char) : EndsIn ending (walkPath scheme text).segments := by
  refine Walk.endsIn_run hmethod ?_ _
  exact splitOnP_ending hending fun c hc => (hmethod.isInner hc).isSlash _

theorem suffix_of_afterSlash? (hmethod : IsMethod ending) (hending : ending <:+ text)
    {isSpecial : Bool} {rest : List Char} (hafter : afterSlash? isSpecial text = some rest) :
    ending <:+ rest := by
  have hdropped := suffix_dropWhile hending fun c hc => (hmethod.isInner hc).noBreak
  rw [afterSlash?] at hafter
  split at hafter
  · next c rest' hrest =>
    split at hafter
    · next hslash =>
      cases hafter
      rw [hrest, ← List.nil_append (c :: rest)] at hdropped
      refine suffix_of_append_cons hdropped fun hmem => ?_
      rw [(hmethod.isInner hmem).isSlash] at hslash
      cases hslash
    · cases hafter
  · cases hafter

theorem suffix_afterSlash (hmethod : IsMethod ending) (hending : ending <:+ text)
    (isSpecial : Bool) : ending <:+ (afterSlash? isSpecial text).getD text := by
  cases hafter : afterSlash? isSpecial text with
  | none => exact hending
  | some rest => exact suffix_of_afterSlash? hmethod hending hafter

theorem endsIn_parsePath (hmethod : IsMethod ending) (hending : ending <:+ text)
    (scheme : List Char) : EndsIn ending (parsePath scheme text) :=
  endsIn_walkPath hmethod (suffix_afterSlash hmethod hending _) scheme

end Paths

section Authorities

variable {ending text : List Char} {scheme : List Char} {isLast : Bool}

/-- A user in front is parted from the ending. -/
theorem suffix_splitUser (hmethod : IsMethod ending) (hending : ending <:+ text) :
    ending <:+ (splitUser text).2 := by
  rw [splitUser]
  split
  · exact hending
  · have hkept : ∀ c ∈ ending.reverse, (c != '@') = true := fun c hc =>
      bne_iff_ne.mpr (hmethod.isInner (List.mem_reverse.mp hc)).noUser
    obtain ⟨front, rfl⟩ := hending
    rw [List.reverse_append, List.takeWhile_append_of_pos hkept, List.reverse_append,
      List.reverse_reverse]
    exact List.suffix_append _ ending

/-- The port stands behind a colon. -/
theorem splitPort_eq (inBrackets : Bool) (text : List Char) :
    text = (splitPort inBrackets text).1 ∧ (splitPort inBrackets text).2 = none ∨
      ∃ port, (splitPort inBrackets text).2 = some port ∧
        text = (splitPort inBrackets text).1 ++ ':' :: port := by
  induction text generalizing inBrackets with
  | nil => exact .inl ⟨rfl, rfl⟩
  | cons c text ih =>
      rw [splitPort]
      split
      · next hcolon =>
        have hsame : c = ':' := beq_iff_eq.mp (Bool.and_eq_true_iff.mp hcolon).1
        exact .inr ⟨text, rfl, by rw [hsame]; rfl⟩
      · dsimp only
        have hinner := ih (if c == '[' then true else if c == ']' then false else inBrackets)
        generalize splitPort _ text = parts at hinner ⊢
        obtain ⟨host, port⟩ := parts
        rcases hinner with ⟨htext, hnone⟩ | ⟨port, hport, htext⟩
        · exact .inl ⟨congrArg (c :: ·) htext, hnone⟩
        · exact .inr ⟨port, hport, congrArg (c :: ·) htext⟩

/-- Behind the digits of a port there is nothing, or a backslash. -/
theorem after_of_parsePort {port : Option Nat} {after : List Char}
    (hport : parsePort scheme text = .ok (port, after)) :
    after = text.dropWhile Char.isDigit ∧ after.head?.all (· == '\\') = true := by
  rw [parsePort, List.span_eq_takeWhile_dropWhile] at hport
  dsimp only at hport
  split at hport
  · cases hport
  · next hlegal =>
    simp only [Bool.or_eq_true, not_or, Bool.not_eq_true', Bool.not_eq_false] at hlegal
    split at hport
    · cases hport
      exact ⟨rfl, hlegal.2⟩
    · cases hport
      exact ⟨rfl, hlegal.2⟩

/-- A method alone is no port. -/
theorem suffix_parsePort (hmethod : IsMethod ending) {port : Option Nat} {after : List Char}
    (hport : parsePort scheme text = .ok (port, after)) (hending : ending <:+ ':' :: text) :
    ending <:+ after := by
  obtain ⟨hafter, hhead⟩ := after_of_parsePort hport
  rcases List.suffix_cons_iff.mp hending with hwhole | hbehind
  · obtain ⟨first, rest, hshape⟩ := hmethod.shape
    cases hwhole.symm.trans hshape
    have hfirst : IsInner first := hmethod.isInner (by simp [hwhole])
    rw [List.dropWhile_cons_of_neg (by simp [hfirst.noDigit])] at hafter
    rw [hafter] at hhead
    have hslash := hfirst.noSlash
    simp only [List.head?_cons, Option.all_some] at hhead
    simp [isSlash, hhead] at hslash
  · rw [hafter]
    exact suffix_dropWhile hbehind fun c hc => (hmethod.isInner hc).noDigit

theorem isEmpty_eq_false (hmethod : IsMethod ending) (hending : ending <:+ text) :
    text.isEmpty = false := by
  have hcolon := hmethod.colon_mem hending
  cases text with
  | nil => cases hcolon
  | cons c text => rfl

theorem parseFileHost_ne_ok (hmethod : IsMethod ending) (hending : ending <:+ text)
    (host : Option Host) : parseFileHost text ≠ .ok host := by
  obtain ⟨fault, hfault⟩ := Host.exists_parse_eq_error (hmethod.colon_mem hending)
    (hmethod.getLast? hending)
  rw [parseFileHost, isEmpty_eq_false hmethod hending, hfault]
  nofun

/-- No host has a method at its end. -/
theorem parseHost_ne_ok (hmethod : IsMethod ending) (hending : ending <:+ text) (hasPort : Bool)
    (host : Option Host) : parseHost scheme text hasPort ≠ .ok host := by
  have hcolon := hmethod.colon_mem hending
  have hlast := hmethod.getLast? hending
  rw [parseHost, isEmpty_eq_false hmethod hending, if_neg (by decide)]
  split
  · obtain ⟨fault, hfault⟩ := Host.exists_parse_eq_error hcolon hlast
    rw [hfault]
    nofun
  · obtain ⟨fault, hfault⟩ := Host.exists_parseOpaque_eq_error hcolon hlast
    rw [hfault]
    nofun

/-- The method comes behind the authority. -/
theorem suffix_parseAuthority (hmethod : IsMethod ending) (hending : ending <:+ text)
    {authority : Authority} {after : List Char}
    (hauthority : parseAuthority scheme text isLast = .ok (authority, after)) :
    ending <:+ after := by
  have huser := suffix_splitUser hmethod hending
  rw [parseAuthority] at hauthority
  generalize splitUser text = parts at huser hauthority
  obtain ⟨userText, rest⟩ := parts
  dsimp only at huser hauthority
  split at hauthority
  · cases hauthority
  · obtain ⟨host, hhost, hauthority⟩ := bind_eq_ok_iff.mp hauthority
    rcases splitPort_eq false rest with ⟨hrest, -⟩ | ⟨portText, hport, hrest⟩
    · rw [hrest] at huser
      exact absurd hhost (parseHost_ne_ok hmethod huser _ host)
    · rw [hport] at hauthority
      obtain ⟨⟨port, behind⟩, hparsed, hauthority⟩ := bind_eq_ok_iff.mp hauthority
      have hafter : behind = after := by
        split at hauthority
        · cases hauthority
        · cases hauthority
          rfl
      rw [hrest] at huser
      exact hafter ▸ suffix_parsePort hmethod hparsed (hmethod.suffix_of_append_colon huser)

/-- The part up to the first slash, and the part from there on. -/
theorem suffix_dropWhile_slash (hmethod : IsMethod ending) (hending : ending <:+ text)
    (isSpecial : Bool) : ending <:+ text.dropWhile (!Url.isSlash isSpecial ·) ∨
      text.dropWhile (!Url.isSlash isSpecial ·) = [] ∧
        ending <:+ text.takeWhile (!Url.isSlash isSpecial ·) := by
  have hparts := List.takeWhile_append_dropWhile (p := (!Url.isSlash isSpecial ·)) (l := text)
  cases hrest : text.dropWhile (!Url.isSlash isSpecial ·) with
  | nil =>
      rw [hrest, List.append_nil] at hparts
      exact .inr ⟨rfl, hparts.symm ▸ hending⟩
  | cons c rest =>
      have hslash := List.head?_dropWhile_not (p := (!Url.isSlash isSpecial ·)) (l := text)
      rw [hrest] at hslash
      simp only [List.head?_cons, Bool.not_eq_false'] at hslash
      rw [hrest] at hparts
      rw [← hparts] at hending
      refine .inl ((suffix_of_append_cons hending fun hmem => ?_).trans (List.suffix_cons c rest))
      rw [(hmethod.isInner hmem).isSlash] at hslash
      cases hslash

theorem suffix_parseAfterSlashes (hmethod : IsMethod ending) (hending : ending <:+ text)
    {authority : Option Authority} {path : UrlPath}
    (hbody : parseAfterSlashes scheme isLast text = .ok (authority, path)) :
    ending <:+ printPath path := by
  rw [parseAfterSlashes] at hbody
  obtain ⟨⟨leading, after⟩, hauthority, hbody⟩ := bind_eq_ok_iff.mp hbody
  have hpath : ending <:+ after ++ text.dropWhile (!Url.isSlash (isWeb scheme) ·) := by
    rcases suffix_dropWhile_slash hmethod hending (isWeb scheme) with hbehind | ⟨hnone, hwhole⟩
    · exact hbehind.trans (List.suffix_append _ _)
    · rw [hnone, List.append_nil]
      exact suffix_parseAuthority hmethod hwhole hauthority
  dsimp only at hbody
  split at hbody
  · next hempty =>
    have hcolon := hmethod.colon_mem hpath
    rw [List.isEmpty_iff.mp (Bool.and_eq_true_iff.mp hempty).1] at hcolon
    cases hcolon
  · cases hbody
    exact (endsIn_parsePath hmethod hpath scheme).printPath

theorem suffix_parseFile (hmethod : IsMethod ending) (hending : ending <:+ text)
    {authority : Option Authority} {path : UrlPath}
    (hbody : parseFile text = .ok (authority, path)) : ending <:+ printPath path := by
  rw [parseFile] at hbody
  dsimp only at hbody
  split at hbody
  · cases hbody
    exact (endsIn_walkPath hmethod (suffix_afterSlash hmethod hending true) _).dropEmpty.printPath
  · next rest hrest =>
    obtain ⟨first, hfirst, hsecond⟩ := Option.bind_eq_some_iff.mp hrest
    have hbehind := suffix_of_afterSlash? hmethod (suffix_of_afterSlash? hmethod hending hfirst)
      hsecond
    split at hbody
    · cases hbody
      exact (endsIn_walkPath hmethod hbehind _).dropEmpty.printPath
    · obtain ⟨host, hhost, hbody⟩ := bind_eq_ok_iff.mp hbody
      have hpath : ending <:+ rest.dropWhile (!Url.isSlash true ·) := by
        rcases suffix_dropWhile_slash hmethod hbehind true with hlater | ⟨-, hwhole⟩
        · exact hlater
        · exact absurd hhost (parseFileHost_ne_ok hmethod (hmethod.suffix_withoutBreaks hwhole) _)
      cases host with
      | none =>
          cases hbody
          exact (endsIn_walkPath hmethod hpath _).dropEmpty.printPath
      | some host =>
          cases hbody
          have hsegments := suffix_afterSlash hmethod hpath true
          exact (endsIn_walkPath hmethod hsegments _).dropEmpty.printPath

theorem suffix_parseBody (hmethod : IsMethod ending) (hending : ending <:+ text)
    {authority : Option Authority} {path : UrlPath}
    (hbody : parseBody scheme isLast text = .ok (authority, path)) :
    ending <:+ printPath path := by
  rw [parseBody] at hbody
  split at hbody
  · exact suffix_parseFile hmethod hending hbody
  · split at hbody
    · refine suffix_parseAfterSlashes hmethod ?_ hbody
      exact suffix_dropWhile (hmethod.suffix_withoutBreaks hending)
        fun c hc => (hmethod.isInner hc).noSlash
    · have hplain := hmethod.suffix_withoutBreaks hending
      dsimp only at hbody
      split at hbody
      · next rest hslashes =>
        have hslash : '/' ∉ ending := fun hmem => by
          have hinner := (hmethod.isInner hmem).noSlash
          cases hinner
        rw [hslashes] at hplain
        have hrest : ending <:+ ['/'] ++ '/' :: rest := hplain
        exact suffix_parseAfterSlashes hmethod (suffix_of_append_cons hrest hslash) hbody
      · cases hbody
        exact (endsIn_parsePath hmethod hplain scheme).printPath
      · cases hbody
        refine Percent.suffix_encode (fun c hc => ?_) hplain
        exact (Bool.or_eq_false_iff.mp (Bool.or_eq_false_iff.mp (hmethod.isInner hc).plain).1).1

end Authorities

end Url

end TestScribe
