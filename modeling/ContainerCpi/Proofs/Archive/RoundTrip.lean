import ContainerCpi.Archive.Tar
import Mathlib.Tactic.Ring

/-!
# Reading back an archive of one file

The archive writer puts a file behind one 512-byte GNU header (the name field, the mode,
zero owners, the size and time, a checksum, the type and the magic), pads its bytes to
whole blocks and ends the archive with two zero blocks.  The reader takes the same header
apart again, so that

    read <$> archive mode [(path, contents)] = .ok ([⟨name, some mode, contents⟩], none)

(`read_archive`), where `name` is the path as the name field holds it
(`namePath path false = .ok name`).  It holds when the mode has at most seven octal digits
(the reader takes the mode as octal text only) and the file has fewer than `2 ^ 63` bytes,
well inside the sizes whose blocks the reader can count.

The proof reads the header field by field: a numeric field written from a value reads back
as that value, in octal digits while it has few enough of them and in binary beyond
(`octal_octalField`, `numeric_numericField`), the checksum written into the header is the
one the reader computes (`checksum_field_header`), and a name that fits the name field
(`NameFits`, which every name `namePath` gives has) is read back up to its first NUL
(`truncate_field`).
-/

namespace ContainerCpi

theorem Except.bind_eq_ok {ε α β : Type} {x : Except ε α} {f : α → Except ε β} {b : β}
    (h : (x >>= f) = .ok b) : ∃ a, x = .ok a ∧ f a = .ok b := by
  cases x with
  | error e => cases h
  | ok a => exact ⟨a, rfl, h⟩

namespace Utf8

theorem decode_of_ascii : ∀ {bs : List UInt8}, (∀ b ∈ bs, b < 0x80) →
    decode bs = bs.map fun b => some (Char.ofNat b.toNat)
  | [], _ => by simp [decode]
  | b :: rest, h => by
    have hb : step b rest = (some (Char.ofNat b.toNat), 0) := by
      have : width b = 1 := by simp [width, h b (List.mem_cons_self ..)]
      simp [step, this]
    rw [decode, hb, List.drop_zero, decode_of_ascii fun c hc => h c (List.mem_cons_of_mem _ hc)]
    rfl

/-- The bytes of characters below `0x80` read back as those characters. -/
theorem strict?_ascii {cs : List Char} (h : ∀ c ∈ cs, c.toNat < 0x80) :
    strict? (ascii (String.ofList cs)) = some (String.ofList cs) := by
  have hbytes : ∀ b ∈ ascii (String.ofList cs), b < 0x80 := by
    intro b hb
    simp only [ascii, String.toList_ofList, List.mem_map] at hb
    obtain ⟨c, hc, rfl⟩ := hb
    have := h c hc
    rw [UInt8.lt_iff_toNat_lt]
    simp
    omega
  rw [strict?, decode_of_ascii hbytes]
  simp only [ascii, String.toList_ofList, List.map_map]
  have hsame : List.map ((fun b : UInt8 => some (Char.ofNat b.toNat)) ∘ fun c => c.toNat.toUInt8) cs =
      cs.map some := List.map_congr_left fun c hc => by
    have := h c hc
    simp only [Function.comp, Nat.toUInt8_eq, UInt8.toNat_ofNat', Option.some.injEq]
    rw [Nat.mod_eq_of_lt (by omega), Char.ofNat_toNat]
  have hpure : ∀ l : List Char, List.mapM some l = some l := by
    intro l
    induction l with
    | nil => rfl
    | cons c l ih => simp [ih]
  rw [hsame, List.mapM_map, Function.id_comp, hpure]
  rfl

end Utf8

namespace Tar

/-- An octal digit character. -/
def IsOctal (c : Char) : Prop := 48 ≤ c.toNat ∧ c.toNat < 56

instance : DecidablePred IsOctal := fun c => inferInstanceAs (Decidable (48 ≤ c.toNat ∧ c.toNat < 56))

theorem isOctal_of_mem_toDigits {n : Nat} {c : Char} (hc : c ∈ Nat.toDigits 8 n) : IsOctal c := by
  induction n using Nat.base_induction 8 (by decide) with
  | single m hm =>
    rw [Nat.toDigits_of_lt_base hm, List.mem_singleton] at hc
    subst hc
    rw [IsOctal, Nat.toNat_digitChar_of_lt_ten (by omega)]
    omega
  | digit m k hk hm ih =>
    rw [← Nat.toDigits_append_toDigits (by decide) hm hk, List.mem_append] at hc
    rcases hc with hc | hc
    · exact ih hc
    · rw [Nat.toDigits_of_lt_base hk, List.mem_singleton] at hc
      subst hc
      rw [IsOctal, Nat.toNat_digitChar_of_lt_ten (by omega)]
      omega

theorem isOctal_of_mem_padded {k v : Nat} {c : Char}
    (hc : c ∈ List.replicate k '0' ++ Nat.toDigits 8 v) : IsOctal c := by
  rcases List.mem_append.mp hc with hc | hc
  · rw [List.eq_of_mem_replicate hc]
    decide
  · exact isOctal_of_mem_toDigits hc

theorem le_ofDigitChars (l : List Char) (init : Nat) : init ≤ Nat.ofDigitChars 8 l init := by
  induction l generalizing init with
  | nil => simp
  | cons c l ih =>
    rw [Nat.ofDigitChars_cons]
    exact Nat.le_trans (by omega) (ih _)

theorem foldl_octal {f : Option Nat → Char → Option Nat} :
    ∀ {cs : List Char} {acc : Nat}, (∀ c ∈ cs, IsOctal c) →
      (∀ n c, IsOctal c → 8 * n + (c.toNat - 48) < 2 ^ 64 →
        f (some n) c = some (8 * n + (c.toNat - 48))) →
      Nat.ofDigitChars 8 cs acc < 2 ^ 64 → cs.foldl f (some acc) = some (Nat.ofDigitChars 8 cs acc)
  | [], _, _, _, _ => by simp
  | c :: cs, acc, hd, hf, hv => by
    rw [Nat.ofDigitChars_cons] at hv ⊢
    have hstep : 8 * acc + (c.toNat - 48) < 2 ^ 64 :=
      Nat.lt_of_le_of_lt (le_ofDigitChars _ _) hv
    rw [List.foldl_cons, hf acc c (hd c (List.mem_cons_self ..)) hstep]
    exact foldl_octal (fun c' hc' => hd c' (List.mem_cons_of_mem _ hc')) hf hv

theorem parseUnsigned_octal {cs : List Char} (hd : ∀ c ∈ cs, IsOctal c) (hne : cs ≠ [])
    (hv : Nat.ofDigitChars 8 cs 0 < 2 ^ 64) :
    parseUnsigned 8 (String.ofList cs) = some (Nat.ofDigitChars 8 cs 0) := by
  obtain ⟨c, rest, rfl⟩ := List.exists_cons_of_ne_nil hne
  have hc := hd c (List.mem_cons_self ..)
  have hplus : c ≠ '+' := fun h => by subst h; simp [IsOctal] at hc
  unfold parseUnsigned
  simp only [String.toList_ofList]
  split
  · rename_i h
    exact absurd (List.cons.inj h).1 hplus
  rw [if_neg (by simp)]
  refine foldl_octal hd (fun n c' hc' hlt => ?_) hv
  have hdig : c'.isDigit = true := by
    simp only [Char.isDigit, IsOctal, Bool.and_eq_true, decide_eq_true_eq] at hc' ⊢
    have h0 : '0'.val.toNat = 48 := rfl
    have h9 : '9'.val.toNat = 57 := rfl
    simp only [ge_iff_le, UInt32.le_iff_toNat_le, h0, h9]
    exact ⟨hc'.1, Nat.le_of_lt (Nat.lt_of_lt_of_le hc'.2 (by decide))⟩
  simp only [hdig, if_true, Option.bind_some]
  have hpow : Nat.pow 2 64 = 2 ^ 64 := rfl
  rw [if_pos (by simp only [IsOctal] at hc'; simp only [hpow, Bool.and_eq_true, decide_eq_true_eq]; omega),
    Nat.mul_comm]

theorem truncate_append_nul {bs : List UInt8} (h : ∀ b ∈ bs, b ≠ 0) : truncate (bs ++ [0]) = bs := by
  unfold truncate
  rw [List.takeWhile_append_of_pos (fun b hb => by simpa using h b hb)]
  simp

theorem ascii_ne_zero {cs : List Char} (h : ∀ c ∈ cs, IsOctal c) :
    ∀ b ∈ Utf8.ascii (String.ofList cs), b ≠ 0 := by
  intro b hb
  simp only [Utf8.ascii, String.toList_ofList, List.mem_map] at hb
  obtain ⟨c, hc, rfl⟩ := hb
  have := h c hc
  simp only [IsOctal] at this
  intro h0
  have := congrArg UInt8.toNat h0
  simp at this
  omega

theorem trim_octal {cs : List Char} (h : ∀ c ∈ cs, IsOctal c) :
    Text.trim (String.ofList cs) = String.ofList cs := by
  have hspace : ∀ c ∈ cs, Text.isSpace c = false := by
    intro c hc
    have := h c hc
    simp only [IsOctal] at this
    simp only [Text.isSpace]
    revert this
    generalize c.toNat = n
    intro hn
    simp only [Bool.or_eq_false_iff, Bool.and_eq_false_iff, decide_eq_false_iff_not,
      beq_eq_false_iff_ne]
    omega
  have hdrop : ∀ l : List Char, (∀ c ∈ l, Text.isSpace c = false) → Text.dropSpace l = l := by
    intro l hl
    cases l with
    | nil => rfl
    | cons c l => exact List.dropWhile_cons_of_neg (by simp [hl c (List.mem_cons_self ..)])
  unfold Text.trim
  rw [String.toList_ofList, hdrop cs hspace,
    hdrop cs.reverse (fun c hc => hspace c (List.mem_reverse.mp hc)), List.reverse_reverse]

theorem octal_ascii (context : String) {cs : List Char} (hd : ∀ c ∈ cs, IsOctal c)
    (hne : cs ≠ []) (hv : Nat.ofDigitChars 8 cs 0 < 2 ^ 64) :
    octal context (Utf8.ascii (String.ofList cs) ++ [0]) = .ok (Nat.ofDigitChars 8 cs 0) := by
  have hascii : ∀ c ∈ cs, c.toNat < 0x80 := fun c hc => by
    have := hd c hc
    simp only [IsOctal] at this
    omega
  unfold octal
  dsimp only
  rw [truncate_append_nul (ascii_ne_zero hd), Utf8.strict?_ascii hascii]
  simp only [trim_octal hd, parseUnsigned_octal hd hne hv]

theorem octalField_of_lt {w v : Nat} (hw : 0 < w - 1) (hv : v < 8 ^ (w - 1)) :
    octalField w v = Utf8.ascii (String.ofList
      (List.replicate (w - 1 - (Nat.toDigits 8 v).length) '0' ++ Nat.toDigits 8 v)) ++ [0] := by
  have hlen := (Nat.length_toDigits_le_iff (by decide) hw).mpr hv
  unfold octalField
  simp only [Utf8.ascii, String.toList_ofList, List.length_map, List.map_append,
    List.map_replicate]
  split
  · rename_i hge
    have heq : (Nat.toDigits 8 v).length = w - 1 := by omega
    rw [heq, Nat.sub_self, List.drop_zero, List.replicate_zero, List.nil_append]
  · rfl

theorem octal_octalField (context : String) {w v : Nat} (hw : 0 < w - 1) (hv : v < 8 ^ (w - 1))
    (h64 : 8 ^ (w - 1) ≤ 2 ^ 64) : octal context (octalField w v) = .ok v := by
  have hdigits : ∀ c ∈ List.replicate (w - 1 - (Nat.toDigits 8 v).length) '0' ++ Nat.toDigits 8 v,
      IsOctal c := fun _ => isOctal_of_mem_padded
  have hvalue : Nat.ofDigitChars 8
      (List.replicate (w - 1 - (Nat.toDigits 8 v).length) '0' ++ Nat.toDigits 8 v) 0 = v := by
    rw [Nat.ofDigitChars_append, Nat.ofDigitChars_replicate_zero, Nat.mul_zero,
      Nat.ofDigitChars_toDigits (by decide) (by decide)]
  rw [octalField_of_lt hw hv, octal_ascii context hdigits (by simp [Nat.toDigits_ne_nil]),
    hvalue]
  rw [hvalue]
  omega

theorem and_high_bit {b : UInt8} (h : b < 0x80) : (b &&& 0x80 != 0) = false := by
  have hb : b.toNat < 2 ^ 7 := h
  have hand : b.toNat &&& 2 ^ 7 = 0 := Nat.eq_of_testBit_eq fun i => by
    rw [Nat.testBit_and, Nat.zero_testBit]
    by_cases hi : i = 7
    · subst hi
      rw [Nat.testBit_lt_two_pow hb, Bool.false_and]
    · rw [Nat.testBit_two_pow_of_ne (Ne.symm hi), Bool.and_false]
  have hzero : b &&& 0x80 = 0 := UInt8.toNat_inj.mp (by rw [UInt8.toNat_and]; exact hand)
  simp [hzero]

theorem numeric_octalField (context : String) {w v : Nat} (hw : 0 < w - 1) (hv : v < 8 ^ (w - 1))
    (h64 : 8 ^ (w - 1) ≤ 2 ^ 64) : numeric context (octalField w v) = .ok v := by
  have hhead : ∀ b, (octalField w v).head? = some b → b < 0x80 := by
    intro b hb
    have hmem := List.mem_of_mem_head? hb
    rw [octalField_of_lt hw hv, List.mem_append] at hmem
    rcases hmem with hmem | hmem
    · simp only [Utf8.ascii, String.toList_ofList, List.mem_map] at hmem
      obtain ⟨c, hc, rfl⟩ := hmem
      have hoct := isOctal_of_mem_padded hc
      rw [UInt8.lt_iff_toNat_lt]
      simp only [IsOctal] at hoct
      simp
      omega
    · rw [List.mem_singleton.mp hmem]
      decide
  unfold numeric
  split
  · rename_i b hb
    rw [if_neg (by simp [and_high_bit (hhead b hb)])]
    exact octal_octalField context hw hv h64
  · exact octal_octalField context hw hv h64

theorem length_octalField {w : Nat} (hw : 0 < w) (v : Nat) : (octalField w v).length = w := by
  unfold octalField
  dsimp only
  split <;> simp <;> omega

theorem length_field (w : Nat) (bytes : List UInt8) : (field w bytes).length = w := by
  simp [field]

theorem foldl_bigEndian (v : Nat) :
    ∀ (k acc : Nat), (bigEndian k v).foldl (fun n c => n * 256 + c.toNat) acc =
      acc * 256 ^ k + v % 256 ^ k
  | 0, acc => by simp [bigEndian, Nat.mod_one]
  | k + 1, acc => by
    have hbyte : (v / 256 ^ k % 256).toUInt8.toNat = v / 256 ^ k % 256 := by
      simp only [Nat.toUInt8_eq, UInt8.toNat_ofNat']
      omega
    rw [bigEndian, List.range_succ, List.reverse_append, List.reverse_singleton,
      List.singleton_append, List.map_cons, List.foldl_cons, Nat.pow_eq, hbyte]
    rw [show (List.range k).reverse.map (fun i => (v / Nat.pow 256 i % 256).toUInt8) = bigEndian k v
      from rfl, foldl_bigEndian v k, Nat.mod_pow_succ]
    ring

theorem length_bigEndian (k v : Nat) : (bigEndian k v).length = k := by
  simp [bigEndian]

theorem length_binaryField {w : Nat} (hw : 8 ≤ w) (v : Nat) : (binaryField w v).length = w := by
  have hlen : (List.replicate (w - 8) (0 : UInt8) ++ bigEndian 8 v).length = w := by
    rw [List.length_append, List.length_replicate, length_bigEndian]
    omega
  unfold binaryField
  split
  · rename_i b rest heq
    rw [heq, List.length_cons] at hlen
    rw [List.length_cons, hlen]
  · rename_i heq
    rw [heq] at hlen
    exact hlen

theorem length_numericField {w : Nat} (hw : 8 ≤ w) (v : Nat) : (numericField w v).length = w := by
  unfold numericField
  split
  · exact length_octalField (by omega) v
  · exact length_binaryField hw v

theorem numeric_binaryField (context : String) {v : Nat} (hv : v < 2 ^ 64) :
    numeric context (binaryField 12 v) = .ok v := by
  have hfield : binaryField 12 v = 0x80 :: (List.replicate 3 0 ++ bigEndian 8 v) := rfl
  have hlen : (List.replicate 3 (0 : UInt8) ++ bigEndian 8 v).length = 11 := by
    rw [List.length_append, List.length_replicate, length_bigEndian]
  rw [hfield]
  unfold numeric
  simp only [List.head?_cons, List.length_cons, hlen]
  rw [if_pos (by decide), List.drop_succ_cons, List.drop_left' (List.length_replicate ..),
    foldl_bigEndian, Nat.zero_mul, Nat.zero_add, Nat.mod_eq_of_lt (by omega)]

theorem numeric_numericField (context : String) {v : Nat} (hv : v < 2 ^ 64) :
    numeric context (numericField 12 v) = .ok v := by
  unfold numericField
  split
  · rename_i hsmall
    exact numeric_octalField context (by decide) hsmall (by decide)
  · exact numeric_binaryField context hv

theorem slice_append_of_le {a b : List UInt8} {start len : Nat} (h : a.length ≤ start) :
    slice (a ++ b) start len = slice b (start - a.length) len := by
  unfold slice
  rw [List.drop_append, List.drop_eq_nil_of_le h, List.nil_append]

theorem slice_self {a b : List UInt8} {len : Nat} (h : a.length = len) :
    slice (a ++ b) 0 len = a := by
  unfold slice
  rw [List.drop_zero, ← h, List.take_left]

theorem checksum_lt {block : List UInt8} (h : block.length = 512) : checksum block < 8 ^ 7 := by
  have htotal : ∀ (l : List UInt8) (init : Nat),
      l.foldl (fun acc b => acc + b.toNat) init ≤ init + 255 * l.length := by
    intro l
    induction l with
    | nil => simp
    | cons b l ih =>
      intro init
      have hb : b.toNat < 256 := b.toNat_lt
      rw [List.foldl_cons, List.length_cons]
      exact Nat.le_trans (ih _) (by omega)
  unfold checksum
  have h1 := htotal (block.take 148) 0
  have h2 := htotal (block.drop 156) 0
  simp only [List.length_take, List.length_drop, h] at h1 h2
  dsimp only
  omega

theorem truncate_field {name : List UInt8} (hfit : name.length ≤ 100) (hnul : ∀ b ∈ name, b ≠ 0) :
    truncate (field 100 name) = name := by
  unfold truncate field
  rw [List.take_append, List.take_of_length_le hfit, List.take_replicate,
    List.takeWhile_append_of_pos (fun b hb => by simpa using hnul b hb)]
  cases 100 - name.length with
  | zero => simp
  | succ k => simp

/-! ### Names that fit -/

/-- Bytes the name field holds and gives back: at most 100 of them, none NUL. -/
def NameFits (name : List UInt8) : Prop := name.length ≤ 100 ∧ ∀ b ∈ name, b ≠ 0

theorem NameFits.of_place {written bytes out : List UInt8} (hw : NameFits written)
    (h : place written bytes = .ok out) : NameFits out := by
  unfold place at h
  split at h
  · cases h
  split at h
  · cases h
  rename_i hlong hnul
  cases h
  have := hw.1
  refine ⟨by simp only [List.length_append]; omega, fun b hb => ?_⟩
  rcases List.mem_append.mp hb with hb | hb
  · exact hw.2 b hb
  · intro h0
    subst h0
    exact hnul (List.contains_iff_mem.mpr hb)

theorem NameFits.of_emit {written : List UInt8} {slash : Bool} {β : Type}
    {k : List UInt8 → Except (PathError × List UInt8) β} {out : β} {P : β → Prop}
    (hw : NameFits written) (hk : ∀ w out, NameFits w → k w = .ok out → P out)
    (h : (if slash = true then place written [47] >>= k else pure written >>= k) = .ok out) :
    P out := by
  split at h
  · obtain ⟨w, hsep, h⟩ := Except.bind_eq_ok h
    exact hk w out (hw.of_place hsep) h
  · exact hk written out hw h

/-- Every part placed keeps the name fitting. -/
theorem NameFits.of_placeParts {single cut : Bool} :
    ∀ {parts : List Component} {written : List UInt8} {slash emitted : Bool}
      {out : List UInt8 × Bool}, NameFits written →
      placeParts single cut parts written slash emitted = .ok out → NameFits out.1
  | [], _, _, _, _, hw, h => by
    cases h
    exact hw
  | c :: cs, written, slash, emitted, out, hw, h => by
    -- the part itself, then the parts after it
    have hk : ∀ w (out : List UInt8 × Bool), NameFits w →
        (place w c.bytes >>= fun w => placeParts single cut cs w (c.bytes != [47]) true) = .ok out →
          NameFits out.1 := by
      intro w out hw' h
      obtain ⟨w', hpart, h⟩ := Except.bind_eq_ok h
      exact NameFits.of_placeParts (hw'.of_place hpart) h
    unfold placeParts at h
    cases c with
    | root => cases h
    | parent =>
      dsimp only at h
      split at h
      · exact NameFits.of_emit (P := fun o => NameFits o.1) hw hk h
      · cases h
    | current =>
      dsimp only at h
      split at h
      · exact NameFits.of_emit (P := fun o => NameFits o.1) hw hk h
      · exact NameFits.of_placeParts hw h
    | normal bytes =>
      dsimp only at h
      exact NameFits.of_emit (P := fun o => NameFits o.1) hw hk h

theorem NameFits.of_namePath {path name : List UInt8} {cut : Bool} (h : namePath path cut = .ok name) :
    NameFits name := by
  unfold namePath at h
  obtain ⟨⟨written, emitted⟩, hparts, h⟩ := Except.bind_eq_ok h
  have hw : NameFits (written, emitted).1 := NameFits.of_placeParts ⟨by simp, by simp⟩ hparts
  split at h
  rename_i heq
  obtain ⟨rfl, rfl⟩ := Prod.mk.inj heq
  dsimp only at h
  split at h
  · cases h
  · split at h
    · exact hw.of_place h
    · cases h
      exact hw

section Header

variable {name owner : List UInt8} {mode size : Nat} {kind : UInt8}

/-- The fields before a header's checksum: name, mode, owners, size and time. -/
def headFields (name : List UInt8) (mode : Nat) (owner : List UInt8) (size : Nat) : List UInt8 :=
  field 100 name ++ numericField 8 mode ++ owner ++ owner ++ numericField 12 size ++
    numericField 12 0

/-- The fields after a header's checksum: type, link name and magic. -/
def tailFields (kind : UInt8) : List UInt8 :=
  [kind] ++ List.replicate 100 0 ++ gnuMagic ++ List.replicate 247 0

theorem header_eq :
    header name mode owner size kind =
      headFields name mode owner size ++
        octalField 8 (checksum (headFields name mode owner size ++ List.replicate 8 0 ++
          tailFields kind)) ++
        tailFields kind := rfl

theorem length_headFields (howner : owner.length = 8) :
    (headFields name mode owner size).length = 148 := by
  simp only [headFields, List.length_append, length_numericField (by decide : 8 ≤ 8),
    length_numericField (by decide : 8 ≤ 12), length_field, howner]

theorem length_tailFields : (tailFields kind).length = 356 := by
  simp only [tailFields, List.length_append, List.length_replicate, List.length_cons,
    List.length_nil, gnuMagic, Utf8.ascii, List.length_map]
  rfl

theorem slice_header_name : slice (header name mode owner size kind) 0 100 = field 100 name := by
  rw [header_eq, headFields]
  simp only [List.append_assoc]
  exact slice_self (length_field _ _)

theorem slice_header_mode : slice (header name mode owner size kind) 100 8 = numericField 8 mode := by
  rw [header_eq, headFields]
  simp only [List.append_assoc]
  rw [slice_append_of_le (Nat.le_of_eq (length_field _ _)), length_field]
  exact slice_self (length_numericField (by decide) _)

variable (howner : owner.length = 8)
include howner

theorem length_header : (header name mode owner size kind).length = 512 := by
  rw [header_eq, List.length_append, List.length_append, length_headFields howner,
    length_octalField (by decide), length_tailFields]

theorem take_header : (header name mode owner size kind).take 148 = headFields name mode owner size := by
  rw [header_eq, List.append_assoc, List.take_left' (length_headFields howner)]

theorem drop_header : (header name mode owner size kind).drop 156 = tailFields kind := by
  rw [header_eq, List.append_assoc, List.drop_append,
    List.drop_eq_nil_of_le (by rw [length_headFields howner]; omega), List.nil_append,
    length_headFields howner]
  exact List.drop_left' (length_octalField (by decide) _)

theorem checksum_header :
    checksum (header name mode owner size kind) =
      checksum (headFields name mode owner size ++ List.replicate 8 0 ++ tailFields kind) := by
  have htake : (headFields name mode owner size ++ List.replicate 8 0 ++ tailFields kind).take 148 =
      headFields name mode owner size := by
    rw [List.append_assoc, List.take_left' (length_headFields howner)]
  have hdrop : (headFields name mode owner size ++ List.replicate 8 0 ++ tailFields kind).drop 156 =
      tailFields kind := by
    rw [List.append_assoc, List.drop_append,
      List.drop_eq_nil_of_le (by rw [length_headFields howner]; omega), List.nil_append,
      length_headFields howner]
    exact List.drop_left' (List.length_replicate ..)
  unfold checksum
  rw [take_header howner, drop_header howner, htake, hdrop]

theorem slice_header_checksum :
    slice (header name mode owner size kind) 148 8 =
      octalField 8 (checksum (header name mode owner size kind)) := by
  rw [checksum_header howner, header_eq, List.append_assoc,
    slice_append_of_le (Nat.le_of_eq (length_headFields howner)), length_headFields howner]
  exact slice_self (length_octalField (by decide) _)

theorem slice_header_size :
    slice (header name mode owner size kind) 124 12 = numericField 12 size := by
  rw [header_eq, headFields]
  simp only [List.append_assoc]
  rw [slice_append_of_le (by rw [length_field]; omega), length_field,
    slice_append_of_le (by rw [length_numericField (by decide)]; omega),
    length_numericField (by decide), slice_append_of_le (by omega), howner,
    slice_append_of_le (by omega), howner]
  exact slice_self (length_numericField (by decide) _)

theorem head?_drop_header :
    ((header name mode owner size kind).drop 156).head? = some kind := by
  rw [drop_header howner]
  rfl

theorem slice_header_magic : slice (header name mode owner size kind) 257 8 = gnuMagic := by
  rw [slice, ← Nat.add_sub_cancel' (by decide : 156 ≤ 257), ← List.drop_drop, drop_header howner]
  rfl

theorem isUstar_header : isUstar (header name mode owner size kind) = false := by
  rw [isUstar, slice_header_magic howner]
  decide

theorem header_not_zero : (header name mode owner size kind).all (· == 0) = false := by
  rw [Bool.eq_false_iff]
  intro hall
  have hu : (0x75 : UInt8) ∈ header name mode owner size kind := by
    have hmem : (0x75 : UInt8) ∈ slice (header name mode owner size kind) 257 8 := by
      rw [slice_header_magic howner]
      decide
    exact List.mem_of_mem_drop (List.mem_of_mem_take hmem)
  have := List.all_eq_true.mp hall _ hu
  simp at this

theorem checksum_field_header :
    octal (fieldOf "cksum" (header name mode owner size kind))
        (slice (header name mode owner size kind) 148 8) =
      .ok (checksum (header name mode owner size kind)) := by
  rw [slice_header_checksum howner]
  exact octal_octalField _ (by decide) (checksum_lt (length_header howner)) (by decide)

end Header

section Read

variable {name owner rest : List UInt8} {mode size : Nat} {kind : UInt8}

theorem ok_bind {α β : Type} (a : α) (f : α → Except ReadError β) : (Except.ok a >>= f) = f a := rfl

/-- The header at the start of the bytes, of a member of `size` bytes. -/
theorem readBlock_header (howner : owner.length = 8) (hsize : size < 2 ^ 63) :
    readBlock (header name mode owner size kind ++ rest) 0 0 none =
      .ok (some ⟨header name mode owner size kind, size, 512, 512 + (size + 511) / 512 * 512⟩) := by
  have hlen : (header name mode owner size kind).length = 512 := length_header howner
  have hsum : checksum (header name mode owner size kind) % Nat.pow 2 32 =
      checksum (header name mode owner size kind) :=
    Nat.mod_eq_of_lt (Nat.lt_trans (checksum_lt hlen) (by decide))
  have hnum : numeric (fieldOf "size" (header name mode owner size kind))
      (slice (header name mode owner size kind) 124 12) = .ok size := by
    rw [slice_header_size howner]
    exact numeric_numericField _ (by omega)
  have hbig : ¬ size + (512 - 1) ≥ Nat.pow 2 64 := by
    have : Nat.pow 2 64 = 2 ^ 64 := rfl
    omega
  have hnext : ¬ 0 + 512 + (size + (512 - 1)) / 512 * 512 ≥ Nat.pow 2 64 := by
    have : Nat.pow 2 64 = 2 ^ 64 := rfl
    omega
  have hne : ¬ (header name mode owner size kind = [] ∧ rest = []) := fun h => by
    rw [h.1] at hlen
    cases hlen
  unfold readBlock
  simp only [List.drop_zero, blockSize, List.take_append_of_le_length (Nat.le_of_eq hlen.symm),
    List.take_of_length_le (Nat.le_of_eq hlen), header_not_zero howner,
    checksum_field_header howner, hnum, head?_drop_header howner, ok_bind, gt_iff_lt,
    Nat.lt_irrefl, decide_false, Bool.false_and, Bool.false_eq_true, if_false,
    List.isEmpty_iff, List.append_eq_nil_iff, if_neg hne, List.length_append, hlen,
    Nat.not_lt.mpr (Nat.le_add_right 512 rest.length), hsum, bne_self_eq_false,
    Option.getD_some, Option.map_none, Option.bind_none, Option.getD_none, ite_self, hbig, hnext]
  rfl

theorem readBlock_zeros {bytes more : List UInt8} {pos next : Nat} {extension : Option (List UInt8)}
    (hz : bytes.drop next = List.replicate 512 0 ++ more) :
    readBlock bytes pos next extension = .ok none := by
  have hlen := congrArg List.length hz
  simp only [List.length_drop, List.length_append, List.length_replicate] at hlen
  have hnext : ¬ next > bytes.length := by omega
  have hzero : (List.replicate 512 (0 : UInt8)).all (· == 0) = true := by
    simp only [List.all_replicate, beq_self_eq_true, Bool.if_true_left, Bool.or_true]
  have hne : (List.replicate 512 (0 : UInt8) ++ more).isEmpty = false := by
    rw [Bool.eq_false_iff]
    intro h
    have := congrArg List.length (List.isEmpty_iff.mp h)
    simp only [List.length_append, List.length_replicate, List.length_nil] at this
    omega
  have hlong : ¬ (List.replicate 512 (0 : UInt8) ++ more).length < 512 := by
    simp only [List.length_append, List.length_replicate]
    omega
  unfold readBlock
  simp only [hz, hnext, decide_false, Bool.and_false, Bool.false_eq_true, if_false, blockSize,
    List.take_append_of_le_length (Nat.le_of_eq (List.length_replicate ..).symm),
    List.take_of_length_le (Nat.le_of_eq (List.length_replicate ..)), hzero, if_true, hne, hlong]
  rfl

theorem length_padding (n : Nat) : n + (padding n).length = (n + 511) / 512 * 512 := by
  simp only [padding, List.length_replicate, blockSize]
  omega

theorem headerPath_header (howner : owner.length = 8) (hname : NameFits name) :
    headerPath (header name mode owner size kind) = name := by
  unfold headerPath
  dsimp only
  rw [isUstar_header howner, if_neg (by decide), slice_header_name, truncate_field hname.1 hname.2]

theorem mode_field_header (hmode : mode < 8 ^ 7) :
    octal (fieldOf "mode" (header name mode owner size kind))
        (slice (header name mode owner size kind) 100 8) = .ok mode := by
  rw [slice_header_mode, numericField, if_pos (show mode < Nat.pow 8 (8 - 1) from hmode)]
  exact octal_octalField _ (by decide) hmode (by decide)

/-- An archive of one member whose name fits the name field reads back as that member. -/
theorem read_single {contents : List UInt8} (hname : NameFits name) (hmode : mode < 8 ^ 7)
    (hsize : contents.length < 2 ^ 63) :
    read (header name mode (List.replicate 8 0) contents.length 0 ++
        (contents ++ padding contents.length) ++ List.replicate (2 * blockSize) 0) =
      ([⟨name, some mode, contents⟩], none) := by
  have howner : (List.replicate 8 (0 : UInt8)).length = 8 := List.length_replicate ..
  generalize hbytes : header name mode (List.replicate 8 0) contents.length 0 ++
    (contents ++ padding contents.length) ++ List.replicate (2 * blockSize) 0 = bytes
  have hlen : (header name mode (List.replicate 8 0) contents.length 0).length = 512 :=
    length_header howner
  have hfirst : readBlock bytes 0 0 none = .ok (some ⟨header name mode (List.replicate 8 0)
      contents.length 0, contents.length, 512, 512 + (contents.length + 511) / 512 * 512⟩) := by
    rw [← hbytes, List.append_assoc]
    exact readBlock_header howner hsize
  have hdata : (bytes.drop 512).take contents.length = contents := by
    rw [← hbytes, List.append_assoc, List.drop_left' hlen, List.append_assoc, List.take_left]
  have hzeros : bytes.drop (512 + (contents.length + 511) / 512 * 512) =
      List.replicate 512 0 ++ List.replicate 512 0 := by
    rw [← hbytes, List.drop_left' (by
      rw [List.length_append, List.length_append, hlen, length_padding]),
      List.replicate_append_replicate]
    rfl
  have hend : readBlock bytes (512 + contents.length)
      (512 + (contents.length + 511) / 512 * 512) none = .ok none := readBlock_zeros hzeros
  obtain ⟨k, hk⟩ : ∃ k, bytes.length / blockSize + 2 = k + 1 + 1 := ⟨_, rfl⟩
  rw [read, hk, readFrom]
  simp only [Pending.empty]
  rw [hfirst]
  dsimp only
  have hkinds : ((0 : UInt8) == 76) = false ∧ ((0 : UInt8) == 75) = false ∧
      ((0 : UInt8) == 120) = false ∧ ((0 : UInt8) == 83) = false := by decide
  simp only [head?_drop_header howner, Option.getD_some, hkinds, Bool.and_false, Bool.false_eq_true,
    if_false, hdata, mode_field_header hmode, Except.toOption]
  have hpath : memberPath ⟨none, none, none, 0 + 1⟩
      (header name mode (List.replicate 8 0) contents.length 0) = name :=
    headerPath_header howner hname
  rw [hpath, readFrom]
  dsimp only
  rw [hend]
  rfl

variable {path contents : List UInt8}

theorem archive_single (hpath : namePath path false = .ok name) :
    archive mode [(path, contents)] =
      .ok (header name mode (List.replicate 8 0) contents.length 0 ++
        (contents ++ padding contents.length) ++ List.replicate (2 * blockSize) 0) := by
  simp only [archive, member, hpath]
  rfl

theorem read_archive (hpath : namePath path false = .ok name) (hmode : mode < 8 ^ 7)
    (hsize : contents.length < 2 ^ 63) :
    read <$> archive mode [(path, contents)] = .ok ([⟨name, some mode, contents⟩], none) := by
  rw [archive_single hpath]
  exact congrArg Except.ok (read_single (NameFits.of_namePath hpath) hmode hsize)

end Read

end Tar

end ContainerCpi
