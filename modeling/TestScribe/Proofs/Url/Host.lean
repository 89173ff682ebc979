import TestScribe.Proofs.Url.Domain
import TestScribe.Url.Host
/-!
Hosts with a colon.  A colon stands between brackets only: percent decoding keeps it, no domain
name holds one, and neither does a host that is taken as it is.
-/

namespace TestScribe

namespace Percent

variable {c : Char} {text : List Char}

/-- An octet of ASCII is one of an ASCII character, which it is the code of. -/
theorem toNat_eq_of_mem_utf8EncodeChar {octet : UInt8} (hoctet : octet ∈ String.utf8EncodeChar c)
    (hascii : octet.toNat < 128) : c.toNat = octet.toNat := by
  have hcode : c.toNat = c.val.toNat := rfl
  rw [String.utf8EncodeChar] at hoctet
  rw [hcode]
  generalize c.val.toNat = code at hoctet ⊢
  split at hoctet
  · rw [List.mem_singleton.mp hoctet, UInt8.toNat_ofNat']
    omega
  · -- every octet of a longer encoding has its highest bit set
    have hlarge {value : Nat} (hlow : 128 ≤ value) (hhigh : value < 256) :
        octet ≠ UInt8.ofNat value := by
      rintro rfl
      rw [UInt8.toNat_ofNat'] at hascii
      omega
    split_ifs at hoctet <;> simp only [List.mem_cons, List.not_mem_nil, or_false] at hoctet
    · rcases hoctet with hsame | hsame <;> exact absurd hsame (hlarge (by omega) (by omega))
    · rcases hoctet with hsame | hsame | hsame <;>
        exact absurd hsame (hlarge (by omega) (by omega))
    · rcases hoctet with hsame | hsame | hsame | hsame <;>
        exact absurd hsame (hlarge (by omega) (by omega))

/-- A sign that is no part of an encoded octet is kept. -/
theorem mem_decode (hascii : c.toNat < 128) (hpercent : c ≠ '%')
    (hdigit : Text.hexValue? c = none) (hc : c ∈ text) : UInt8.ofNat c.toNat ∈ decode text := by
  have halone : String.utf8EncodeChar c = [UInt8.ofNat c.toNat] := by
    have hcode : c.val.toNat = c.toNat := rfl
    rw [String.utf8EncodeChar, hcode, if_pos (by omega)]
  fun_induction decode text with
  | case1 => cases hc
  | case2 high low rest first second hlow hhigh ih =>
      have hother : c ∉ ['%', high, low] := by
        rintro hmem
        simp only [List.mem_cons, List.not_mem_nil, or_false] at hmem
        rcases hmem with rfl | rfl | rfl
        · exact hpercent rfl
        · rw [hdigit] at hhigh
          cases hhigh
        · rw [hdigit] at hlow
          cases hlow
      exact List.mem_cons_of_mem _ (ih ((List.mem_append.mp hc).resolve_left hother))
  | case3 high low rest _ ih =>
      exact List.mem_append_right _ (ih ((List.mem_cons.mp hc).resolve_left hpercent))
  | case4 d rest _ ih =>
      rcases List.mem_cons.mp hc with rfl | hlater
      · rw [halone]
        exact List.mem_cons_self
      · exact List.mem_append_right _ (ih hlater)

/-- A sign is in the text that octets spell if its code is among the octets. -/
theorem mem_of_text? {octets : List UInt8} (hascii : c.toNat < 128)
    (htext : text? octets = some text) (hc : UInt8.ofNat c.toNat ∈ octets) : c ∈ text := by
  obtain ⟨spelled, hspelled, rfl⟩ := Option.map_eq_some_iff.mp htext
  have hbytes : spelled.toByteArray = ⟨octets.toArray⟩ := by
    rw [String.fromUTF8?] at hspelled
    split at hspelled
    · cases hspelled
      rfl
    · cases hspelled
  have hoctets : octets = spelled.toList.flatMap String.utf8EncodeChar := by
    have hsame := congrArg ByteArray.data (String.utf8Encode_toList.trans hbytes)
    rw [List.utf8Encode, List.data_toByteArray] at hsame
    exact (List.toArray_inj hsame).symm
  rw [hoctets, List.mem_flatMap] at hc
  obtain ⟨d, hd, hoctet⟩ := hc
  have hvalue : (UInt8.ofNat c.toNat).toNat = c.toNat := by
    rw [UInt8.toNat_ofNat']
    omega
  have hcode := toNat_eq_of_mem_utf8EncodeChar hoctet (by omega)
  have hsame : d = c := by
    rw [← Char.ofNat_toNat d, hcode, hvalue, Char.ofNat_toNat]
  rwa [← hsame]

end Percent

namespace Host

variable {text : List Char}

theorem bracketed_eq_error (hlast : text.getLast? ≠ some ']') :
    bracketed text = .error .invalidIpv6 := by
  rw [bracketed]
  split
  · next hlast' => exact absurd hlast' hlast
  · rfl

/-- Outside brackets no host of a web or file address has a colon. -/
theorem exists_parse_eq_error (hcolon : ':' ∈ text) (hlast : text.getLast? ≠ some ']') :
    ∃ fault, parse text = .error fault := by
  rw [parse]
  split
  · exact ⟨_, bracketed_eq_error hlast⟩
  · cases htext : Percent.text? (Percent.decode text) with
    | none => exact ⟨_, rfl⟩
    | some name =>
        have hname : ':' ∈ name := Percent.mem_of_text? (by decide) htext
          (Percent.mem_decode (by decide) (by decide) (by decide) hcolon)
        have hnone := Domain.isLasting_colon.toAscii?_eq_none (by decide) hname
        rw [Option.bind_some, hnone]
        exact ⟨_, rfl⟩

/-- Nor does any host of another address. -/
theorem exists_parseOpaque_eq_error (hcolon : ':' ∈ text) (hlast : text.getLast? ≠ some ']') :
    ∃ fault, parseOpaque text = .error fault := by
  rw [parseOpaque]
  split
  · exact ⟨_, bracketed_eq_error hlast⟩
  · have hany : text.any isForbiddenOpaque = true :=
      List.any_eq_true.mpr ⟨':', hcolon, by decide⟩
    rw [if_pos hany]
    exact ⟨_, rfl⟩

end Host

end TestScribe
