import Wikidown.Proofs.Encodings

/-!
# Reading UTF-8 back

The bytes of a character are read as this character, whatever comes behind them: the first byte says how
many others follow, and keeps the shorter forms, the surrogates and the numbers beyond Unicode out. So
the bytes of a text are read as this text (`Utf8.decode_encode`), also where they are a source in the
encoding of that name (`decodeSource_encode`).
-/

namespace Wikidown

namespace Utf8

variable {r : Bytes} {n x k low high bits : Nat}

lemma toNat_byte (h : n < 256) : (byte n).toNat = n := by
  simp [byte, Nat.mod_eq_of_lt h]

/-- One more byte of a character gives six bits. -/
lemma readTail_byte (hx : x < 64) (hlow : low ≤ 0x80 + x) (hhigh : 0x80 + x ≤ high) :
    readTail (n + 1) low high bits k (byte (0x80 + x) :: r) =
      readTail n 0x80 0xBF (bits * 64 + x) (k + 1) r := by
  have hbits : (0x80 + x) % 64 = x := by omega
  rw [readTail, toNat_byte (by omega), if_pos ⟨hlow, hhigh⟩, hbits]

lemma readTail_zero : readTail 0 low high bits k r = .chars [Char.ofNat bits] k := by
  rw [readTail]

/-! ## First bytes -/

lemma lead?_two (hlow : 2 ≤ x) (hhigh : x < 32) :
    lead? (0xC0 + x) = some (1, 0x80, 0xBF, x) := by
  have hbits : (0xC0 + x) % 32 = x := by omega
  rw [lead?, if_neg (by omega), if_pos (by omega), hbits]

lemma lead?_three (h : x < 16) : lead? (0xE0 + x) =
    some (2, if x = 0 then 0xA0 else 0x80, if x = 13 then 0x9F else 0xBF, x) := by
  have hall : ∀ x < 16, lead? (0xE0 + x) =
      some (2, if x = 0 then 0xA0 else 0x80, if x = 13 then 0x9F else 0xBF, x) := by decide
  exact hall x h

lemma lead?_four (h : x < 5) : lead? (0xF0 + x) =
    some (3, if x = 0 then 0x90 else 0x80, if x = 4 then 0x8F else 0xBF, x) := by
  have hall : ∀ x < 5, lead? (0xF0 + x) =
      some (3, if x = 0 then 0x90 else 0x80, if x = 4 then 0x8F else 0xBF, x) := by decide
  exact hall x h

/-- A first byte that is no character leads to the others. -/
lemma next_of_lead? {more : Nat} (hlow : 0x80 ≤ n) (hhigh : n < 256)
    (h : lead? n = some (more, low, high, bits)) :
    next (byte n) r = readTail more low high bits 0 r := by
  rw [next, toNat_byte hhigh, if_neg (by omega), h]

/-! ## Characters -/

/-- The code of a character is read as the character. -/
lemma exists_next_encodeChar (c : Char) : ∃ b code, encodeChar c = b :: code ∧
    ∀ r, next b (code ++ r) = .chars [c] code.length := by
  -- the number is no surrogate and not beyond Unicode
  have hvalid : c.toNat < 0xD800 ∨ 0xDFFF < c.toNat ∧ c.toNat < 0x110000 := c.valid
  have hchar : Char.ofNat c.toNat = c := Char.ofNat_toNat c
  rw [encodeChar]
  generalize c.toNat = n at hvalid hchar
  split_ifs with h1 h2 h3
  · refine ⟨_, _, rfl, fun r => ?_⟩
    rw [next, toNat_byte (by omega), if_pos h1, hchar]
    rfl
  · refine ⟨_, _, rfl, fun r => ?_⟩
    have hbits : n / 64 * 64 + n % 64 = n := by omega
    rw [next_of_lead? (by omega) (by omega) (lead?_two (by omega) (by omega)), List.singleton_append,
      readTail_byte (by omega) (by omega) (by omega), readTail_zero, hbits, hchar]
    rfl
  · refine ⟨_, _, rfl, fun r => ?_⟩
    have hbits : (n / 4096 * 64 + n / 64 % 64) * 64 + n % 64 = n := by omega
    rw [next_of_lead? (by omega) (by omega) (lead?_three (by omega)), List.cons_append,
      List.singleton_append, readTail_byte (by omega) (by split_ifs <;> omega)
        (by split_ifs <;> omega), readTail_byte (by omega) (by omega) (by omega), readTail_zero, hbits,
      hchar]
    rfl
  · refine ⟨_, _, rfl, fun r => ?_⟩
    have hbits : ((n / 262144 * 64 + n / 4096 % 64) * 64 + n / 64 % 64) * 64 + n % 64 = n := by omega
    rw [next_of_lead? (by omega) (by omega) (lead?_four (by omega)), List.cons_append,
      List.cons_append, List.singleton_append, readTail_byte (by omega) (by split_ifs <;> omega)
        (by split_ifs <;> omega), readTail_byte (by omega) (by omega) (by omega),
      readTail_byte (by omega) (by omega) (by omega), readTail_zero, hbits, hchar]
    rfl

/-- The bytes of a text are read as the text. -/
lemma decode_encode (s : Text) : decode (encode s) = .ok s := by
  suffices key : ∀ pos, decodeWith next pos (encode s) = .ok s from key 0
  induction s with
  | nil => intro pos; simp [encode, decodeWith]
  | cons c s ih =>
    intro pos
    obtain ⟨b, code, hcode, hnext⟩ := exists_next_encodeChar c
    have hbytes : encode (c :: s) = b :: code ++ encode s := by
      rw [encode, List.flatMap_cons, hcode, encode]
    rw [hbytes, decodeWith_append (hnext _), ih]
    rfl

end Utf8

/-! ## The encoding of that name -/

namespace Charset

lemma encodingOf_utf8 : encodingOf "UTF-8" = "utf_8" := by
  have hnormal : normal "UTF-8" = "utf_8" := by decide +kernel
  have halias : unaliased? "utf_8" = none := by decide +kernel
  rw [encodingOf, hnormal, halias]
  rfl

lemma find?_utf8 : find? "UTF-8" = some (Codec.scalar Utf8.decode) :=
  find?_eq_some_iff.2 ⟨by rw [encodingOf_utf8]; decide, by rw [encodingOf_utf8]; rfl⟩

end Charset

lemma readCharset_utf8 {source : String} : Config.readCharset source "UTF-8" = .ok "UTF-8" :=
  Config.readCharset_eq_ok_iff.2 ⟨by cbv, by decide, by rw [Charset.find?_utf8]; rfl⟩

/-- The bytes of a text are the text in UTF-8. -/
lemma decodeSource_encode (s : Text) (label : String) :
    decodeSource (Utf8.encode s) "UTF-8" label = .ok (.ofText s) := by
  have hnull : '\x00' ∉ "UTF-8".toList := by decide
  by_cases hbytes : Utf8.encode s = []
  · -- without bytes no codec is asked
    have hnil : Utf8.decode [] = .ok [] := Utf8.decode_encode []
    have hs := Utf8.decode_encode s
    rw [hbytes, hnil] at hs
    rw [hbytes, decodeSource_nil hnull, ← Except.ok.inj hs]
    rfl
  · rw [decodeSource_eq_of_find? hnull hbytes Charset.find?_utf8]
    dsimp only
    rw [Utf8.decode_encode]
    rfl

end Wikidown
