import TestScribe.Text.Octets
/-!
Reading the octets of a text.  The octets of a character are read as that character, whatever
follows them, so the octets of a text are read as the text.
-/

namespace TestScribe.Text

namespace PartialChar

section Steps

variable {part : PartialChar} {value missing low high octet : Nat}

theorem run_cons (begun : Option PartialChar) (hoctet : octet < 256) (rest : List UInt8) :
    run begun (UInt8.ofNat octet :: rest) =
      (step begun octet).1 ++ run (step begun octet).2 rest := by
  have hvalue : (UInt8.ofNat octet).toNat = octet := UInt8.toNat_ofNat_of_lt' hoctet
  cases begun with
  | none => rw [run, hvalue]
  | some part => rw [run, hvalue]

/-- An octet stands alone. -/
theorem run_alone (hoctet : octet < 0x80) (rest : List UInt8) :
    run none (UInt8.ofNat octet :: rest) = Char.ofNat octet :: run none rest := by
  have hstep : step none octet = ([Char.ofNat octet], none) := by
    rw [step, start, begin?, if_pos hoctet]
    rfl
  rw [run_cons none (by omega), hstep]
  rfl

/-- The first octet of several begins a character. -/
theorem run_begin (hoctet : octet < 256) (hbegin : begin? octet = some part)
    (hmissing : part.missing ≠ 0) (rest : List UInt8) :
    run none (UInt8.ofNat octet :: rest) = run (some part) rest := by
  have hstep : step none octet = ([], some part) := by
    rw [step, start, hbegin]
    exact if_neg hmissing
  rw [run_cons none hoctet, hstep]
  rfl

/-- An octet in between is taken in. -/
theorem run_extend (hlow : low ≤ octet) (hhigh : octet ≤ high) (hoctet : octet < 256)
    (rest : List UInt8) :
    run (some ⟨value, missing + 2, low, high⟩) (UInt8.ofNat octet :: rest) =
      run (some ⟨value * 64 + octet % 64, missing + 1, 0x80, 0xBF⟩) rest := by
  have hstep : step (some ⟨value, missing + 2, low, high⟩) octet =
      ([], some ⟨value * 64 + octet % 64, missing + 1, 0x80, 0xBF⟩) := by
    simp [step, extend?, settle, hlow, hhigh]
  rw [run_cons _ hoctet, hstep]
  rfl

/-- The last octet completes the character. -/
theorem run_complete (hlow : low ≤ octet) (hhigh : octet ≤ high) (hoctet : octet < 256)
    (rest : List UInt8) :
    run (some ⟨value, 1, low, high⟩) (UInt8.ofNat octet :: rest) =
      Char.ofNat (value * 64 + octet % 64) :: run none rest := by
  have hstep : step (some ⟨value, 1, low, high⟩) octet =
      ([Char.ofNat (value * 64 + octet % 64)], none) := by
    simp [step, extend?, settle, hlow, hhigh]
  rw [run_cons _ hoctet, hstep]
  rfl

theorem begin?_two (hlow : 0xC2 ≤ octet) (hhigh : octet < 0xE0) :
    begin? octet = some ⟨octet % 32, 1, 0x80, 0xBF⟩ := by
  rw [begin?, if_neg (by omega), if_neg (by omega), if_pos hhigh]

theorem begin?_three (hlow : 0xE0 ≤ octet) (hhigh : octet < 0xF0) :
    begin? octet = some ⟨octet % 16, 2, if octet = 0xE0 then 0xA0 else 0x80,
      if octet = 0xED then 0x9F else 0xBF⟩ := by
  rw [begin?, if_neg (by omega), if_neg (by omega), if_neg (by omega), if_pos hhigh]

theorem begin?_four (hlow : 0xF0 ≤ octet) (hhigh : octet < 0xF5) :
    begin? octet = some ⟨octet % 8, 3, if octet = 0xF0 then 0x90 else 0x80,
      if octet = 0xF4 then 0x8F else 0xBF⟩ := by
  rw [begin?, if_neg (by omega), if_neg (by omega), if_neg (by omega), if_neg (by omega),
    if_pos hhigh]

end Steps

/-- The octets of a character complete it, whatever follows them. -/
theorem run_utf8EncodeChar (c : Char) (rest : List UInt8) :
    run none (String.utf8EncodeChar c ++ rest) = c :: run none rest := by
  have hvalid : c.val.toNat < 0xD800 ∨ 0xDFFF < c.val.toNat ∧ c.val.toNat < 0x110000 := c.valid
  have hcode : Char.ofNat c.val.toNat = c := Char.ofNat_toNat c
  rw [String.utf8EncodeChar]
  generalize c.val.toNat = code at hvalid hcode ⊢
  -- the cases are the lengths of the encoding
  split
  · rw [List.singleton_append, run_alone (by omega), hcode]
  split
  · have hbegin : begin? (code / 64 % 32 + 192) = _ := begin?_two (by omega) (by omega)
    have hvalue : (code / 64 % 32 + 192) % 32 * 64 + (code % 64 + 128) % 64 = code := by omega
    rw [List.cons_append, run_begin (by omega) hbegin (by simp), List.singleton_append,
      run_complete (by omega) (by omega) (by omega), hvalue, hcode]
  split
  · have hbegin : begin? (code / 4096 % 16 + 224) = _ := begin?_three (by omega) (by omega)
    have hvalue : ((code / 4096 % 16 + 224) % 16 * 64 + (code / 64 % 64 + 128) % 64) * 64 +
        (code % 64 + 128) % 64 = code := by omega
    rw [List.cons_append, run_begin (by omega) hbegin (by simp), List.cons_append,
      run_extend (by split <;> omega) (by split <;> omega) (by omega), List.singleton_append,
      run_complete (by omega) (by omega) (by omega), hvalue, hcode]
  · have hbegin : begin? (code / 262144 % 8 + 240) = _ := begin?_four (by omega) (by omega)
    have hvalue : (((code / 262144 % 8 + 240) % 8 * 64 + (code / 4096 % 64 + 128) % 64) * 64 +
        (code / 64 % 64 + 128) % 64) * 64 + (code % 64 + 128) % 64 = code := by omega
    rw [List.cons_append, run_begin (by omega) hbegin (by simp), List.cons_append,
      run_extend (by split <;> omega) (by split <;> omega) (by omega), List.cons_append,
      run_extend (by omega) (by omega) (by omega), List.singleton_append,
      run_complete (by omega) (by omega) (by omega), hvalue, hcode]

end PartialChar

/-- The octets of a text are read as the text. -/
theorem ofOctets_utf8 (text : List Char) :
    ofOctets (text.flatMap String.utf8EncodeChar) = text := by
  induction text with
  | nil => rfl
  | cons c text ih =>
      rw [ofOctets, List.flatMap_cons, PartialChar.run_utf8EncodeChar]
      exact congrArg (c :: ·) ih

example : ofOctets [0x61, 0xE2, 0x82, 0x62, 0xFF] = ['a', replacement, 'b', replacement] := by
  decide

end TestScribe.Text
