import TestScribe.Url.Basic
/-!
Queries as pairs.  An encoded name or value holds no ampersand, so a query with one more pair
is cut into the stretches that it had, and the pair.
-/

namespace TestScribe

namespace Percent

theorem isAlphanum_upperHex {value : Nat} (hvalue : value < 16) :
    (upperHex value).isAlphanum = true := by
  have hdigits : ∀ digit < 16, (upperHex digit).isAlphanum = true := by decide
  exact hdigits value hvalue

theorem mem_encodeOctet {octet : UInt8} {c : Char} (hc : c ∈ encodeOctet octet) :
    c = '%' ∨ c.isAlphanum = true := by
  have hoctet : octet.toNat < 256 := octet.toNat_lt
  rw [encodeOctet] at hc
  simp only [List.mem_cons, List.not_mem_nil, or_false] at hc
  rcases hc with rfl | rfl | rfl
  · exact .inl rfl
  · exact .inr (isAlphanum_upperHex (by omega))
  · exact .inr (isAlphanum_upperHex (by omega))

end Percent

namespace Form

/-- An encoded text is made of plain characters, plus signs and percent signs. -/
theorem mem_encode {text : List Char} {c : Char} (hc : c ∈ encode text) :
    isPlain c = true ∨ c = '+' ∨ c = '%' := by
  obtain ⟨letter, -, hletter⟩ := List.mem_flatMap.mp hc
  rw [encodeChar] at hletter
  split at hletter
  · exact .inr (.inl (List.mem_singleton.mp hletter))
  · split at hletter
    · next hplain =>
      rw [List.mem_singleton.mp hletter]
      exact .inl hplain
    · obtain ⟨octet, -, hoctet⟩ := List.mem_flatMap.mp hletter
      rcases Percent.mem_encodeOctet hoctet with rfl | hdigit
      · exact .inr (.inr rfl)
      · exact .inl (Bool.or_eq_true_iff.mpr (.inl hdigit))

/-- A separator stands in no encoded text. -/
theorem notMem_encode {c : Char} (hplain : isPlain c = false) (hsigns : c ≠ '+' ∧ c ≠ '%')
    (text : List Char) : c ∉ encode text := by
  intro hmem
  rcases mem_encode hmem with hchar | hplus | hpercent
  · cases hplain.symm.trans hchar
  · exact hsigns.1 hplus
  · exact hsigns.2 hpercent

theorem ampersand_notMem_encodePair (name value : List Char) : '&' ∉ encodePair name value := by
  rw [encodePair, List.mem_append, List.mem_cons, not_or, not_or]
  exact ⟨notMem_encode (by decide) (by decide) name, by decide,
    notMem_encode (by decide) (by decide) value⟩

/-- The stretches of a query before which a further pair is written. -/
def stretches (query : Option (List Char)) : List (List Char) :=
  match query with
  | none | some [] => []
  | some query => query.splitOn '&'

/-- A query with one more pair is cut into its stretches and the pair. -/
theorem splitOn_append (query : Option (List Char)) (name value : List Char) :
    (append query name value).splitOn '&' = stretches query ++ [encodePair name value] := by
  have hpair := List.splitOn_eq_singleton (ampersand_notMem_encodePair name value)
  rcases query with _ | _ | ⟨first, rest⟩
  · exact hpair
  · exact hpair
  · have hcut : ((first :: rest) ++ '&' :: encodePair name value).splitOn '&' =
        (first :: rest).splitOn '&' ++ [encodePair name value] := by
      rw [List.splitOn_append_cons_self, hpair]
    exact hcut

/-- Two queries with the same stretches, but for the value of the last pair, which has the name. -/
def DifferInLast (name : List Char) (query other : Option (List Char)) : Prop :=
  ∃ before value value',
    (query.getD []).splitOn '&' = before ++ [name ++ '=' :: value] ∧
      (other.getD []).splitOn '&' = before ++ [name ++ '=' :: value']

theorem differInLast_append (query : Option (List Char)) (name value value' : List Char) :
    DifferInLast (encode name) (some (append query name value))
      (some (append query name value')) :=
  ⟨stretches query, encode value, encode value', splitOn_append query name value,
    splitOn_append query name value'⟩

end Form

end TestScribe
