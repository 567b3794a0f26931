import Mathlib.Tactic.SplitIfs
import ContainerCpi.Text.Utf8

/-!
# Encoded text decodes back

The decoder reads every character of a string back from the string's UTF-8 bytes:
`Utf8.decode (Utf8.encode s)` is the characters of `s`, so the lossy and the strict reading
both give `s` back (`Utf8.lossy_encode`).

The bytes of a string are the encodings of its characters one after another
(`Utf8.encode_eq_flatMap`).  Each encoding is read as one step of the decoder
(`Utf8.step_utf8EncodeChar`): its lead byte announces its width, each continuation byte is in
the range the lead allows (the narrower ranges after `E0`, `ED`, `F0` and `F4` exclude only
overlong forms, surrogates and values beyond U+10FFFF, none of which a character has), and the
payload bits put together are the character's value.
-/

namespace ContainerCpi

namespace Utf8

/-! ## The bytes of a string -/

theorem toList_loop (bs : ByteArray) (i : Nat) (r : List UInt8) :
    ByteArray.toList.loop bs i r = r.reverse ++ bs.data.toList.drop i := by
  fun_induction ByteArray.toList.loop bs i r with
  | case1 i r hi ih =>
    rw [ih, List.reverse_cons, List.append_assoc]
    congr 1
    have hlt : i < bs.data.toList.length := by simpa using hi
    rw [List.drop_eq_getElem_cons hlt]
    simp [ByteArray.get!, hi]
  | case2 i r hi =>
    have hle : bs.data.toList.length ≤ i := by simpa using hi
    simp [List.drop_of_length_le hle]

theorem toList_eq (bs : ByteArray) : bs.toList = bs.data.toList := by
  simp [ByteArray.toList, toList_loop]

theorem encode_eq_flatMap (s : String) : encode s = s.toList.flatMap String.utf8EncodeChar := by
  rw [encode, toList_eq, String.toUTF8_eq_toByteArray, ← String.utf8Encode_toList, List.utf8Encode,
    List.toList_data_toByteArray]

/-! ## One character -/

theorem toNat_ofNat_of_lt {n : Nat} (h : n < 256) : (UInt8.ofNat n).toNat = n := by
  rw [UInt8.toNat_ofNat']
  exact Nat.mod_eq_of_lt h

theorem width_eq (b : UInt8) :
    width b = if b.toNat < 0x80 then 1 else if b.toNat < 0xC2 then 0 else if b.toNat < 0xE0 then 2
      else if b.toNat < 0xF0 then 3 else if b.toNat < 0xF5 then 4 else 0 := by
  simp only [width, UInt8.lt_iff_toNat_lt, UInt8.reduceToNat]

theorem fits_eq (lead : UInt8) (i : Nat) (c : UInt8) :
    fits lead i c = decide (
      (if i ≠ 0 then 0x80 else if lead.toNat = 0xE0 then 0xA0 else if lead.toNat = 0xED then 0x80
        else if lead.toNat = 0xF0 then 0x90 else 0x80) ≤ c.toNat ∧
      c.toNat ≤ (if i ≠ 0 then 0xBF else if lead.toNat = 0xE0 then 0xBF
        else if lead.toNat = 0xED then 0x9F else if lead.toNat = 0xF0 then 0xBF
        else if lead.toNat = 0xF4 then 0x8F else 0xBF)) := by
  -- bytes compare as their values
  have hbeq : ∀ k : UInt8, (lead == k) = decide (lead.toNat = k.toNat) := fun k => by
    by_cases h : lead = k
    · subst h
      simp
    · have hne : lead.toNat ≠ k.toNat := fun e => h (UInt8.toNat_inj.1 e)
      simp [h, hne]
  unfold fits
  simp only [hbeq, UInt8.reduceToNat, UInt8.le_iff_toNat_le, bne_iff_ne, ne_eq]
  split_ifs <;> simp_all

theorem toNat_valid (c : Char) : c.toNat < 0xD800 ∨ (0xDFFF < c.toNat ∧ c.toNat < 0x110000) :=
  c.valid

/-- A character's encoding is one step of the decoder: its lead byte is followed by exactly
the continuation bytes its width asks for, and they put the character together. -/
theorem step_utf8EncodeChar (c : Char) (rest : List UInt8) :
    ∃ b bs, String.utf8EncodeChar c = b :: bs ∧ step b (bs ++ rest) = (some c, bs.length) := by
  have hv := toNat_valid c
  have hval : c.val.toNat = c.toNat := rfl
  unfold String.utf8EncodeChar
  simp only [hval]
  split
  · -- one byte: an ASCII character stands for itself
    rename_i h1
    refine ⟨_, [], rfl, ?_⟩
    have hlt : c.toNat < 0x80 := by omega
    simp only [step, width_eq, toNat_ofNat_of_lt (show c.toNat < 256 by omega), if_pos hlt,
      beq_self_eq_true, if_true, List.length_nil, Char.ofNat_toNat]
  · split
    · -- two bytes: a lead from C2 to DF and one continuation
      rename_i h1 h2
      refine ⟨_, [_], rfl, ?_⟩
      have hb0 := toNat_ofNat_of_lt (show c.toNat / 64 % 32 + 192 < 256 by omega)
      have hb1 := toNat_ofNat_of_lt (show c.toNat % 64 + 128 < 256 by omega)
      have hw : width (UInt8.ofNat (c.toNat / 64 % 32 + 192)) = 2 := by
        rw [width_eq, hb0]
        split_ifs <;> omega
      have hfit : fits (UInt8.ofNat (c.toNat / 64 % 32 + 192)) 0 (UInt8.ofNat (c.toNat % 64 + 128)) =
          true := by
        rw [fits_eq, hb0, hb1]
        split_ifs <;> simp <;> omega
      simp only [step, hw, List.singleton_append, continued, hfit, if_true, Nat.reduceBEq,
        Bool.false_eq_true, if_false, List.take_succ_cons, List.take_zero, List.length_singleton]
      have hvalue : ((c.toNat / 64 % 32 + 192) % 32) * 64 + (c.toNat % 64 + 128) % 64 = c.toNat := by
        omega
      simp only [scalar, List.length_singleton, List.foldl_cons, List.foldl_nil, hb0, hb1]
      rw [show Nat.pow 2 (6 - 1) = 32 from rfl, hvalue, Char.ofNat_toNat]
      rfl
    · split
      · -- three bytes: a lead from E0 to EF, and two continuations
        rename_i h1 h2 h3
        refine ⟨_, [_, _], rfl, ?_⟩
        have hb0 := toNat_ofNat_of_lt (show c.toNat / 4096 % 16 + 224 < 256 by omega)
        have hb1 := toNat_ofNat_of_lt (show c.toNat / 64 % 64 + 128 < 256 by omega)
        have hb2 := toNat_ofNat_of_lt (show c.toNat % 64 + 128 < 256 by omega)
        have hw : width (UInt8.ofNat (c.toNat / 4096 % 16 + 224)) = 3 := by
          rw [width_eq, hb0]
          split_ifs <;> omega
        have hfit₁ : fits (UInt8.ofNat (c.toNat / 4096 % 16 + 224)) 0
            (UInt8.ofNat (c.toNat / 64 % 64 + 128)) = true := by
          rw [fits_eq, hb0, hb1]
          split_ifs <;> simp <;> omega
        have hfit₂ : fits (UInt8.ofNat (c.toNat / 4096 % 16 + 224)) 1
            (UInt8.ofNat (c.toNat % 64 + 128)) = true := by
          rw [fits_eq, hb2]
          simp
          omega
        simp only [step, hw, List.cons_append, List.nil_append, continued, hfit₁, hfit₂, if_true,
          Nat.reduceBEq, Bool.false_eq_true, if_false, List.take_succ_cons, List.take_zero,
          List.length_cons, List.length_nil]
        have hvalue : (((c.toNat / 4096 % 16 + 224) % 16) * 64 + (c.toNat / 64 % 64 + 128) % 64) * 64 +
            (c.toNat % 64 + 128) % 64 = c.toNat := by
          omega
        simp only [scalar, List.length_cons, List.length_nil, List.foldl_cons, List.foldl_nil, hb0,
          hb1, hb2]
        rw [show Nat.pow 2 (6 - (0 + 1 + 1)) = 16 from rfl, hvalue, Char.ofNat_toNat]
        rfl
      · -- four bytes: a lead from F0 to F4, and three continuations
        rename_i h1 h2 h3
        refine ⟨_, [_, _, _], rfl, ?_⟩
        have hb0 := toNat_ofNat_of_lt (show c.toNat / 262144 % 8 + 240 < 256 by omega)
        have hb1 := toNat_ofNat_of_lt (show c.toNat / 4096 % 64 + 128 < 256 by omega)
        have hb2 := toNat_ofNat_of_lt (show c.toNat / 64 % 64 + 128 < 256 by omega)
        have hb3 := toNat_ofNat_of_lt (show c.toNat % 64 + 128 < 256 by omega)
        have hw : width (UInt8.ofNat (c.toNat / 262144 % 8 + 240)) = 4 := by
          rw [width_eq, hb0]
          split_ifs <;> omega
        have hfit₁ : fits (UInt8.ofNat (c.toNat / 262144 % 8 + 240)) 0
            (UInt8.ofNat (c.toNat / 4096 % 64 + 128)) = true := by
          rw [fits_eq, hb0, hb1]
          split_ifs <;> simp <;> omega
        have hfit₂ : fits (UInt8.ofNat (c.toNat / 262144 % 8 + 240)) 1
            (UInt8.ofNat (c.toNat / 64 % 64 + 128)) = true := by
          rw [fits_eq, hb2]
          simp
          omega
        have hfit₃ : fits (UInt8.ofNat (c.toNat / 262144 % 8 + 240)) 2
            (UInt8.ofNat (c.toNat % 64 + 128)) = true := by
          rw [fits_eq, hb3]
          simp
          omega
        simp only [step, hw, List.cons_append, List.nil_append, continued, hfit₁, hfit₂, hfit₃,
          if_true, Nat.reduceBEq, Bool.false_eq_true, if_false, List.take_succ_cons, List.take_zero,
          List.length_cons, List.length_nil]
        have hvalue : ((((c.toNat / 262144 % 8 + 240) % 8) * 64 + (c.toNat / 4096 % 64 + 128) % 64) * 64 +
            (c.toNat / 64 % 64 + 128) % 64) * 64 + (c.toNat % 64 + 128) % 64 = c.toNat := by
          omega
        simp only [scalar, List.length_cons, List.length_nil, List.foldl_cons, List.foldl_nil, hb0,
          hb1, hb2, hb3]
        rw [show Nat.pow 2 (6 - (0 + 1 + 1 + 1)) = 8 from rfl, hvalue, Char.ofNat_toNat]
        rfl

/-! ## A whole string -/

theorem decode_utf8EncodeChar_append (c : Char) (rest : List UInt8) :
    decode (String.utf8EncodeChar c ++ rest) = some c :: decode rest := by
  obtain ⟨b, bs, henc, hstep⟩ := step_utf8EncodeChar c rest
  rw [henc, List.cons_append, decode.eq_2, hstep, List.drop_left]

theorem decode_flatMap (cs : List Char) :
    decode (cs.flatMap String.utf8EncodeChar) = cs.map some := by
  induction cs with
  | nil => simp [decode]
  | cons c cs ih => rw [List.flatMap_cons, decode_utf8EncodeChar_append, ih, List.map_cons]

theorem decode_encode (s : String) : decode (encode s) = s.toList.map some := by
  rw [encode_eq_flatMap, decode_flatMap]

theorem lossy_encode (s : String) : lossy (encode s) = s := by
  rw [lossy, decode_encode, List.map_map]
  have hid : ((fun c : Option Char => c.getD '�') ∘ some) = id := rfl
  rw [hid, List.map_id, String.ofList_toList]

/-- A string's bytes are well-formed, and read strictly as the string. -/
theorem strict?_encode (s : String) : strict? (encode s) = some s := by
  have hsome : ∀ cs : List Char, (cs.map some).mapM id = some cs := by
    intro cs
    induction cs with
    | nil => rfl
    | cons c cs ih => simp [List.mapM_cons, ih]
  rw [strict?, decode_encode, hsome, Option.map_some, String.ofList_toList]

theorem marked_flatMap (cs : List Char) (start : Nat) :
    marked start (cs.flatMap String.utf8EncodeChar) = (cs, []) := by
  induction cs generalizing start with
  | nil => simp [marked]
  | cons c cs ih =>
    obtain ⟨b, bs, henc, hstep⟩ := step_utf8EncodeChar c (cs.flatMap String.utf8EncodeChar)
    rw [List.flatMap_cons, henc, List.cons_append, marked, hstep]
    simp only [List.drop_left, ih]

theorem marked_encode (s : String) (start : Nat) : marked start (encode s) = (s.toList, []) := by
  rw [encode_eq_flatMap, marked_flatMap]

end Utf8

end ContainerCpi
