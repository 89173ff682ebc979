import TestScribe.Proofs.Text.Octets
import TestScribe.Proofs.Url.Form
/-!
Reading the pairs of a query.  What is written for a name or value is read back character by
character, so a query with one more pair has the pairs that it had, and that pair.
-/

namespace TestScribe

namespace Percent

theorem hexValue?_upperHex {value : Nat} (hvalue : value < 16) :
    Text.hexValue? (upperHex value) = some value := by
  have hdigits : ∀ digit < 16, Text.hexValue? (upperHex digit) = some digit := by decide
  exact hdigits value hvalue

theorem decode_encodeOctet (octet : UInt8) (rest : List Char) :
    decode (encodeOctet octet ++ rest) = octet :: decode rest := by
  have hoctet : octet.toNat < 256 := octet.toNat_lt
  have hvalue : octet.toNat / 16 * 16 + octet.toNat % 16 = octet.toNat := by omega
  simp only [encodeOctet, List.cons_append, List.nil_append, decode]
  rw [hexValue?_upperHex (by omega), hexValue?_upperHex (by omega)]
  simp only [hvalue, UInt8.ofNat_toNat]

theorem decode_encodeOctets (octets : List UInt8) (rest : List Char) :
    decode (octets.flatMap encodeOctet ++ rest) = octets ++ decode rest := by
  induction octets with
  | nil => rfl
  | cons octet octets ih =>
      rw [List.flatMap_cons, List.append_assoc, decode_encodeOctet, ih, List.cons_append]

/-- A character that is no percent sign stands for itself. -/
theorem decode_cons {c : Char} (hpercent : c ≠ '%') (rest : List Char) :
    decode (c :: rest) = String.utf8EncodeChar c ++ decode rest := by
  rw [decode]
  rintro high low more hsame -
  exact hpercent hsame

end Percent

namespace Form

theorem spaced_append (text rest : List Char) :
    spaced (text ++ rest) = spaced text ++ spaced rest :=
  List.map_append

theorem spaced_eq_self {text : List Char} (hplus : '+' ∉ text) : spaced text = text := by
  refine (List.map_congr_left fun c hc => ?_).trans (List.map_id text)
  have hchar : c ≠ '+' := fun hsame => hplus (hsame ▸ hc)
  rw [beq_false_of_ne hchar]
  rfl

theorem plus_notMem_encodeOctets (octets : List UInt8) :
    '+' ∉ octets.flatMap Percent.encodeOctet := by
  intro hplus
  obtain ⟨octet, -, hoctet⟩ := List.mem_flatMap.mp hplus
  rcases Percent.mem_encodeOctet hoctet with hpercent | hdigit
  · exact absurd hpercent (by decide)
  · exact absurd hdigit (by decide)

/-- What is written for a character is read as its octets. -/
theorem decode_spaced_encodeChar (c : Char) (rest : List Char) :
    Percent.decode (spaced (encodeChar c) ++ rest) =
      String.utf8EncodeChar c ++ Percent.decode rest := by
  unfold encodeChar
  split
  · next hspace =>
    rw [beq_iff_eq.mp hspace]
    exact Percent.decode_cons (by decide) rest
  · split
    · next hplain =>
      have hplus : '+' ∉ [c] := by
        rw [List.mem_singleton]
        rintro rfl
        exact absurd hplain (by decide)
      have hpercent : c ≠ '%' := by
        rintro rfl
        exact absurd hplain (by decide)
      rw [spaced_eq_self hplus]
      exact Percent.decode_cons hpercent rest
    · rw [Percent.encodeChar, spaced_eq_self (plus_notMem_encodeOctets _),
        Percent.decode_encodeOctets]

/-- A name or value is read back. -/
theorem decode_encode (text : List Char) : decode (encode text) = text := by
  have hoctets : Percent.decode (spaced (encode text)) = text.flatMap String.utf8EncodeChar := by
    induction text with
    | nil => rfl
    | cons c text ih =>
        rw [encode, List.flatMap_cons, spaced_append, decode_spaced_encodeChar, ← encode, ih,
          List.flatMap_cons]
  rw [decode, hoctets, Text.ofOctets_utf8]

/-- A pair is read back. -/
theorem pair_encodePair (name value : List Char) :
    pair (encodePair name value) = (name, value) := by
  have hname : ∀ c ∈ encode name, (c != '=') = true := fun c hc =>
    bne_iff_ne.mpr fun hsame =>
      notMem_encode (c := '=') (by decide) (by decide) name (hsame ▸ hc)
  have hbefore : (encodePair name value).takeWhile (· != '=') = encode name := by
    rw [encodePair, List.takeWhile_append_of_pos hname, List.takeWhile_cons_of_neg (by decide),
      List.append_nil]
  have hafter : (encodePair name value).dropWhile (· != '=') = '=' :: encode value := by
    rw [encodePair, List.dropWhile_append_of_pos hname, List.dropWhile_cons_of_neg (by decide)]
  rw [pair, hbefore, hafter, List.drop_one, List.tail_cons, decode_encode, decode_encode]

/-- The pairs of a query that may be missing. -/
theorem pairs_getD (query : Option (List Char)) :
    pairs (query.getD []) = ((stretches query).filter (!·.isEmpty)).map pair := by
  rcases query with _ | _ | ⟨first, rest⟩
  · rfl
  · rfl
  · rfl

/-- A query with one more pair has the pairs that it had, and that pair. -/
theorem pairs_append (query : Option (List Char)) (name value : List Char) :
    pairs (append query name value) = pairs (query.getD []) ++ [(name, value)] := by
  have hkept : [encodePair name value].filter (!·.isEmpty) = [encodePair name value] :=
    List.filter_cons_of_pos (by simp [encodePair])
  rw [pairs_getD, pairs, splitOn_append, List.filter_append, hkept, List.map_append,
    List.map_singleton, pair_encodePair]

end Form

end TestScribe
