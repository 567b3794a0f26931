import Mathlib.Data.Nat.Digits.Defs
import ContainerCpi.Net.Address
import ContainerCpi.Proofs.Json.Scalars
import ContainerCpi.Proofs.Net.Render

/-!
# Written addresses read back

Every address of its family's width reads back from its standard text
(`IpAddr.parse?_render`), and every address read from a text fits its family's width
(`IpAddr.bits_lt_of_parse?`).

Reading an IPv4 address reads four decimal numbers, and a written octet is read back whole
because a dot follows it.  An IPv6 text is hex groups joined by colons, with the longest run of
zero groups written `::`: the groups on either side are read back one by one, the run of zeros
is restored from the count of groups missing, and the run the writer dropped is a run of zero
groups (`ZeroRun`), so nothing else is lost.  An IPv4-mapped address is read through its dotted
part, as the reader allows in the last two groups.
-/

namespace ContainerCpi.Net

namespace Parse

/-- The value of digits in base `radix`, most significant first, after a value `v` read
before them.  A 128-bit address is the value of its eight groups in base 65536. -/
def foldDigits (radix : Nat) (ds : List Nat) (v : Nat) : Nat :=
  ds.foldl (fun acc d => acc * radix + d) v

@[simp] theorem foldDigits_nil (radix v : Nat) : foldDigits radix [] v = v := rfl

@[simp] theorem foldDigits_cons (radix d : Nat) (ds : List Nat) (v : Nat) :
    foldDigits radix (d :: ds) v = foldDigits radix ds (v * radix + d) := rfl

theorem foldDigits_append (radix : Nat) (ds ds' : List Nat) (v : Nat) :
    foldDigits radix (ds ++ ds') v = foldDigits radix ds' (foldDigits radix ds v) :=
  List.foldl_append

theorem foldDigits_lt {radix : Nat} {ds : List Nat} (hds : ∀ d ∈ ds, d < radix) (v : Nat) :
    foldDigits radix ds v < (v + 1) * radix ^ ds.length := by
  induction ds generalizing v with
  | nil => simp
  | cons d ds ih =>
    have hd := hds d List.mem_cons_self
    have hrest := ih (fun x hx => hds x (List.mem_cons_of_mem d hx)) (v * radix + d)
    -- one more digit multiplies the room by the base
    have hle : v * radix + d + 1 ≤ (v + 1) * radix := by
      rw [Nat.add_mul, Nat.one_mul]
      omega
    have hstep : (v * radix + d + 1) * radix ^ ds.length ≤ (v + 1) * radix ^ (ds.length + 1) := by
      rw [Nat.pow_succ', ← Nat.mul_assoc]
      exact Nat.mul_le_mul_right _ hle
    rw [foldDigits_cons, List.length_cons]
    omega

theorem toDigits_eq_map_digitChar {b : Nat} (hb : 1 < b) (n : Nat) :
    ∃ ds : List Nat, Nat.toDigits b n = ds.map Nat.digitChar ∧ (∀ d ∈ ds, d < b) ∧
      foldDigits b ds 0 = n := by
  induction n using Nat.strong_induction_on with
  | _ n ih =>
    rw [Nat.toDigits_eq_if hb]
    split
    · exact ⟨[n], rfl, by simpa using ‹n < b›, by simp⟩
    · -- the leading digits are those of the number without its last digit
      obtain ⟨ds, hds, hlt, hval⟩ := ih (n / b) (Nat.div_lt_self (by omega) hb)
      refine ⟨ds ++ [n % b], by rw [hds, List.map_append]; rfl, ?_, ?_⟩
      · intro d hd
        rcases List.mem_append.1 hd with hd | hd
        · exact hlt d hd
        · rw [List.mem_singleton.1 hd]
          exact Nat.mod_lt n (by omega)
      · rw [foldDigits_append, hval, foldDigits_cons, foldDigits_nil, Nat.div_add_mod']

/-! ## Reading one number -/

theorem digitValue?_digitChar {radix d : Nat} (hradix : radix = 10 ∨ radix = 16) (hd : d < radix) :
    digitValue? radix (Nat.digitChar d) = some d := by
  rcases hradix with rfl | rfl
  · revert d
    decide
  · revert d
    decide

theorem digitValue?_lt {radix : Nat} (hradix : 10 ≤ radix) {c : Char} {d : Nat}
    (h : digitValue? radix c = some d) : d < radix := by
  unfold digitValue? at h
  simp only [Char.isDigit, Bool.and_eq_true, decide_eq_true_eq] at h
  -- the letters count only in base 16, where they are at most 15
  split_ifs at h with hdigit ha hA <;> cases h
  · have : c.toNat ≤ 57 := hdigit.2
    omega
  · have : c.toNat ≤ 102 := ha.2.2
    omega
  · have : c.toNat ≤ 70 := hA.2.2
    omega

@[simp] theorem digitValue?_colon (radix : Nat) : digitValue? radix ':' = none := by
  simp [digitValue?]

@[simp] theorem digitValue?_dot (radix : Nat) : digitValue? radix '.' = none := by
  simp [digitValue?]

section Go

variable {radix maxDigits : Nat}

theorem go_digits (ds : List Nat) (hds : ∀ d ∈ ds, digitValue? radix (Nat.digitChar d) = some d)
    (rest : List Char) (n v : Nat) (hn : n + ds.length ≤ maxDigits) :
    number.go radix maxDigits (ds.map Nat.digitChar ++ rest) n v =
      number.go radix maxDigits rest (n + ds.length) (foldDigits radix ds v) := by
  induction ds generalizing n v with
  | nil => rfl
  | cons d ds ih =>
    have hd := hds d List.mem_cons_self
    rw [List.map_cons, List.cons_append, number.go, hd]
    dsimp only
    simp only [List.length_cons] at hn
    rw [if_neg (by omega), ih (fun x hx => hds x (List.mem_cons_of_mem d hx)) _ _ (by omega),
      List.length_cons, foldDigits_cons, Nat.add_assoc, Nat.add_comm 1]

theorem go_stop {rest : List Char} (hrest : ∀ c ∈ rest.head?, digitValue? radix c = none)
    (n v : Nat) : number.go radix maxDigits rest n v = some (n, v, rest) := by
  cases rest with
  | nil => rfl
  | cons c r =>
    rw [number.go, hrest c rfl]

theorem go_suffix {cs : List Char} {n v n' v' : Nat} {rest : List Char}
    (h : number.go radix maxDigits cs n v = some (n', v', rest)) : rest <:+ cs := by
  induction cs generalizing n v with
  | nil =>
    cases h
    exact List.suffix_refl []
  | cons c r ih =>
    rw [number.go] at h
    split at h
    · split at h
      · cases h
      · exact (ih h).trans (List.suffix_cons c r)
    · cases h
      exact List.suffix_refl _

theorem go_lt (hradix : 10 ≤ radix) {cs : List Char} {n v n' v' : Nat} {rest : List Char}
    (h : number.go radix maxDigits cs n v = some (n', v', rest)) (hv : v < radix ^ n)
    (hn : n ≤ maxDigits) : v' < radix ^ maxDigits := by
  induction cs generalizing n v with
  | nil =>
    cases h
    exact Nat.lt_of_lt_of_le hv (Nat.pow_le_pow_right (by omega) hn)
  | cons c r ih =>
    rw [number.go] at h
    split at h
    · rename_i d hd
      split at h
      · cases h
      · -- one more digit below the base stays below the next power
        have hdlt := digitValue?_lt hradix hd
        have hnext : v * radix + d < radix ^ (n + 1) := by
          rw [Nat.pow_succ]
          have := Nat.mul_le_mul_right radix (Nat.succ_le_of_lt hv)
          rw [Nat.succ_mul] at this
          omega
        exact ih h hnext (by omega)
    · cases h
      exact Nat.lt_of_lt_of_le hv (Nat.pow_le_pow_right (by omega) hn)

end Go

theorem number_suffix {radix maxDigits : Nat} {zeroPrefix : Bool} {cs : List Char} {v : Nat}
    {rest : List Char} (h : number radix maxDigits zeroPrefix cs = some (v, rest)) : rest <:+ cs := by
  unfold number at h
  split at h
  · cases h
  · cases h
  · rename_i hgo
    split at h
    · cases h
    · cases h
      exact go_suffix hgo

theorem number_lt {radix maxDigits : Nat} (hradix : 10 ≤ radix) {zeroPrefix : Bool}
    {cs : List Char} {v : Nat} {rest : List Char}
    (h : number radix maxDigits zeroPrefix cs = some (v, rest)) : v < radix ^ maxDigits := by
  unfold number at h
  split at h
  · cases h
  · cases h
  · rename_i hgo
    split at h
    · cases h
    · cases h
      exact go_lt hradix hgo (by simp) (Nat.zero_le _)

theorem number_of_stop {radix maxDigits : Nat} {zeroPrefix : Bool} {cs : List Char}
    (hcs : ∀ c ∈ cs.head?, digitValue? radix c = none) :
    number radix maxDigits zeroPrefix cs = none := by
  unfold number
  rw [go_stop hcs]
  rfl

/-- A written number is read back whole when nothing that could continue it follows; a
decimal one also where leading zeros are refused, since it has none. -/
theorem number_toDigits {radix maxDigits : Nat} (hradix : radix = 10 ∨ radix = 16)
    (hmax : 0 < maxDigits) {n : Nat} (hn : n < radix ^ maxDigits) {zeroPrefix : Bool}
    (hlead : zeroPrefix = true ∨ radix = 10) {rest : List Char}
    (hrest : ∀ c ∈ rest.head?, digitValue? radix c = none) :
    number radix maxDigits zeroPrefix (Nat.toDigits radix n ++ rest) = some (n, rest) := by
  have hb : 1 < radix := by omega
  obtain ⟨ds, hds, hlt, hval⟩ := toDigits_eq_map_digitChar hb n
  have hlen : ds.length ≤ maxDigits := by
    have := Nat.toDigits_length radix n maxDigits hmax hn
    rwa [hds, List.length_map] at this
  have hpos : ds.length ≠ 0 := by
    intro h0
    have hne : Nat.toDigits radix n ≠ [] := Nat.toDigits_ne_nil
    rw [hds, List.eq_nil_of_length_eq_zero h0, List.map_nil] at hne
    exact hne rfl
  -- a decimal number of more than one digit starts with a digit other than zero
  have hzero : (!zeroPrefix && (Nat.toDigits radix n ++ rest).head? == some '0' &&
      decide (0 + ds.length > 1)) = false := by
    rcases hlead with rfl | rfl
    · rfl
    · by_cases hsmall : n < 10
      · have hone : ds.length = 1 := by
          have := Nat.toDigits_length 10 n 1 (by decide) (by simpa using hsmall)
          rw [hds, List.length_map] at this
          omega
        simp [hone]
      · obtain ⟨d, ds', hd, hd0⟩ := Reader.toDigits_head_ne_zero n (by omega)
        simp [hd, hd0]
  unfold number
  rw [hds, go_digits ds (fun d hd => digitValue?_digitChar hradix (hlt d hd)) rest 0 0 (by omega),
    go_stop hrest, hval, ← hds]
  obtain ⟨k, hk⟩ : ∃ k, 0 + ds.length = k + 1 := ⟨ds.length - 1, by omega⟩
  rw [hk] at hzero ⊢
  simp only [hzero, Bool.false_eq_true, if_false]

/-! ## IPv4 text -/

theorem toList_ipv4 (b : Nat) :
    (Render.ipv4 b).toList = Nat.toDigits 10 (b / 16777216 % 256) ++ '.' ::
      (Nat.toDigits 10 (b / 65536 % 256) ++ '.' ::
        (Nat.toDigits 10 (b / 256 % 256) ++ '.' :: Nat.toDigits 10 (b % 256))) := by
  have hdot : (toString "." : String).toList = ['.'] := rfl
  simp [Render.ipv4, String.toList_append, hdot]

theorem number_octet {n : Nat} (hn : n < 256) {rest : List Char}
    (hrest : ∀ c ∈ rest.head?, digitValue? 10 c = none) :
    number 10 3 false (Nat.toDigits 10 n ++ rest) = some (n, rest) :=
  number_toDigits (.inl rfl) (by decide) (by omega) (.inr rfl) hrest

theorem head_dot (r : List Char) (radix : Nat) :
    ∀ c ∈ ('.' :: r).head?, digitValue? radix c = none := by
  intro c hc
  rw [List.head?_cons, Option.mem_def, Option.some.injEq] at hc
  rw [← hc, digitValue?_dot]

theorem ipv4_render {b : Nat} (hb : b < 2 ^ 32) {rest : List Char}
    (hrest : ∀ c ∈ rest.head?, digitValue? 10 c = none) :
    ipv4 ((Render.ipv4 b).toList ++ rest) = some (b, rest) := by
  rw [toList_ipv4]
  simp only [List.append_assoc, List.cons_append]
  unfold ipv4
  -- the four octets are read in turn, each up to the dot after it
  rw [number_octet (Nat.mod_lt _ (by decide)) (head_dot _ 10)]
  simp only [bind, Option.bind]
  rw [number_octet (Nat.mod_lt _ (by decide)) (head_dot _ 10)]
  simp only
  rw [number_octet (Nat.mod_lt _ (by decide)) (head_dot _ 10)]
  simp only
  rw [number_octet (Nat.mod_lt _ (by decide)) hrest]
  simp only
  have hb' : b < 4294967296 := hb
  rw [if_pos (by omega), Option.some.injEq, Prod.mk.injEq]
  exact ⟨by omega, rfl⟩

@[simp] theorem number_nil (radix maxDigits : Nat) (zeroPrefix : Bool) :
    number radix maxDigits zeroPrefix [] = none :=
  number_of_stop (by simp)

@[simp] theorem number_colon (radix maxDigits : Nat) (zeroPrefix : Bool) (r : List Char) :
    number radix maxDigits zeroPrefix (':' :: r) = none :=
  number_of_stop (by simp)

@[simp] theorem ipv4_nil : ipv4 [] = none := by
  unfold ipv4
  rw [number_nil]
  rfl

@[simp] theorem ipv4_of_colon (r : List Char) : ipv4 (':' :: r) = none := by
  unfold ipv4
  rw [number_colon]
  rfl

theorem ipv4_of_no_dot {cs : List Char} (hcs : '.' ∉ cs) : ipv4 cs = none := by
  unfold ipv4
  cases hnum : number 10 3 false cs with
  | none => rfl
  | some p =>
    obtain ⟨a, r⟩ := p
    have hsuffix := number_suffix hnum
    simp only [bind, Option.bind]
    -- the first number is followed by no dot
    cases r with
    | nil => rfl
    | cons c r =>
      have hc : c ≠ '.' := fun h => hcs (hsuffix.subset (h ▸ List.mem_cons_self))
      simp [hc]

theorem ipv4_lt {cs : List Char} {v : Nat} {rest : List Char} (h : ipv4 cs = some (v, rest)) :
    v < 2 ^ 32 := by
  unfold ipv4 at h
  simp only [bind, Option.bind_eq_some_iff] at h
  obtain ⟨⟨a, r⟩, -, h⟩ := h
  -- past each octet but the last a dot must follow, else nothing is read
  split at h
  · simp only [Option.bind_some, Option.bind_eq_some_iff] at h
    obtain ⟨⟨b, r⟩, -, h⟩ := h
    split at h
    · simp only [Option.bind_eq_some_iff] at h
      obtain ⟨⟨c, r⟩, -, h⟩ := h
      split at h
      · simp only [Option.bind_eq_some_iff] at h
        obtain ⟨⟨d, r⟩, -, h⟩ := h
        split_ifs at h with hoctets
        cases h
        omega
      · simp [Option.bind_none] at h
    · simp [Option.bind_none] at h
  · simp [Option.bind_none] at h

/-! ## IPv6 groups -/

theorem digitChar_ne_dot (d : Nat) : Nat.digitChar d ≠ '.' := by
  by_cases hd : d < 16
  · revert d
    decide
  · rw [Nat.digitChar_eq_star.2 (by omega)]
    decide

theorem dot_not_mem_toDigits {b : Nat} (hb : 1 < b) (n : Nat) : '.' ∉ Nat.toDigits b n := by
  intro h
  obtain ⟨d, hd⟩ := digitChar_of_mem_toDigits hb h
  exact digitChar_ne_dot d hd.symm

/-- Hex groups after the first, each after a colon. -/
def colonGroups (gs : List Nat) : List Char := gs.flatMap fun g => ':' :: Nat.toDigits 16 g

theorem toList_joinGroups_cons (g : Nat) (gs : List Nat) :
    (Render.joinGroups (g :: gs)).toList = Nat.toDigits 16 g ++ colonGroups gs := by
  induction gs generalizing g with
  | nil => simp [Render.joinGroups, Render.hex, colonGroups]
  | cons g' gs ih =>
    have hsplit : Render.joinGroups (g :: g' :: gs) =
        Render.hex g ++ ":" ++ Render.joinGroups (g' :: gs) := by
      simp only [Render.joinGroups, List.map_cons, String.intercalate_cons_cons]
    rw [hsplit, String.toList_append, String.toList_append, ih]
    simp [Render.hex, colonGroups]

theorem dot_not_mem_colonGroups (gs : List Nat) : '.' ∉ colonGroups gs := by
  simp only [colonGroups, List.mem_flatMap, List.mem_cons, not_exists, not_and, not_or]
  exact fun g _ => ⟨by decide, dot_not_mem_toDigits (by decide) g⟩

theorem dot_not_mem_joinGroups (gs : List Nat) : '.' ∉ (Render.joinGroups gs).toList := by
  cases gs with
  | nil => simp [Render.joinGroups]
  | cons g gs =>
    rw [toList_joinGroups_cons, List.mem_append, not_or]
    exact ⟨dot_not_mem_toDigits (by decide) g, dot_not_mem_colonGroups gs⟩

theorem ipv4_of_head {cs : List Char} (hcs : ∀ c ∈ cs.head?, digitValue? 10 c = none) :
    ipv4 cs = none := by
  unfold ipv4
  rw [number_of_stop hcs]
  rfl

theorem head_colonGroups_append (gs : List Nat) {rest : List Char}
    (hrest : ∀ c ∈ rest.head?, digitValue? 16 c = none) :
    ∀ c ∈ (colonGroups gs ++ rest).head?, digitValue? 16 c = none := by
  cases gs with
  | nil => simpa [colonGroups] using hrest
  | cons g gs =>
    intro c hc
    simp only [colonGroups, List.flatMap_cons, List.cons_append, List.head?_cons,
      Option.mem_def, Option.some.injEq] at hc
    rw [← hc, digitValue?_colon]

theorem ipv4_groups (g : Nat) (gs : List Nat) {rest : List Char} (hdot : '.' ∉ rest) :
    ipv4 (Nat.toDigits 16 g ++ (colonGroups gs ++ rest)) = none := by
  refine ipv4_of_no_dot ?_
  simp only [List.mem_append, not_or]
  exact ⟨dot_not_mem_toDigits (by decide) g, dot_not_mem_colonGroups gs, hdot⟩

section Groups

variable {limit : Nat}

/-- A text the group reader stops at: its end, or the `::` that stands for zero groups. -/
def GroupsEnd (rest : List Char) : Prop := rest = [] ∨ ∃ r, rest = ':' :: ':' :: r

theorem GroupsEnd.head {rest : List Char} (h : GroupsEnd rest) :
    ∀ c ∈ rest.head?, digitValue? 16 c = none := by
  rcases h with rfl | ⟨r, rfl⟩
  · intro c hc
    cases hc
  · intro c hc
    rw [List.head?_cons, Option.mem_def, Option.some.injEq] at hc
    rw [← hc, digitValue?_colon]

theorem groups_stop {rest : List Char} (hrest : GroupsEnd rest) (fuel : Nat) (acc : List Nat) :
    groups limit fuel rest acc = (acc.reverse, false, rest) := by
  cases fuel with
  | zero => rfl
  | succ fuel =>
    rw [groups.eq_def]
    dsimp only
    by_cases hlimit : acc.length ≥ limit
    · rw [if_pos hlimit]
    rw [if_neg hlimit]
    -- neither an IPv4 address nor a hex group starts at the end or at a colon, and a later
    -- group needs a colon before it
    by_cases hfirst : acc.length = 0 <;> rcases hrest with rfl | ⟨r, rfl⟩ <;>
      simp [hfirst]

theorem groups_first (hlimit : 0 < limit) {g : Nat} (hg : g < 65536) {rest : List Char}
    (hv4 : ipv4 (Nat.toDigits 16 g ++ rest) = none)
    (hrest : ∀ c ∈ rest.head?, digitValue? 16 c = none) (fuel : Nat) :
    groups limit (fuel + 1) (Nat.toDigits 16 g ++ rest) [] = groups limit fuel rest [g] := by
  rw [groups.eq_def]
  simp only [List.length_nil, if_true, Nat.not_le.2 hlimit, if_false, hv4, ite_self]
  rw [number_toDigits (.inr rfl) (by decide) (by simpa using hg) (.inl rfl) hrest]

theorem groups_next {acc : List Nat} (hacc : acc ≠ []) (hlimit : acc.length < limit) {g : Nat}
    (hg : g < 65536) {rest : List Char} (hv4 : ipv4 (Nat.toDigits 16 g ++ rest) = none)
    (hrest : ∀ c ∈ rest.head?, digitValue? 16 c = none) (fuel : Nat) :
    groups limit (fuel + 1) (':' :: (Nat.toDigits 16 g ++ rest)) acc =
      groups limit fuel rest (g :: acc) := by
  have hlen : acc.length ≠ 0 := fun h => hacc (List.eq_nil_of_length_eq_zero h)
  rw [groups.eq_2]
  simp only [hlen, Nat.not_le.2 hlimit, if_false, hv4, ite_self]
  rw [number_toDigits (.inr rfl) (by decide) (by simpa using hg) (.inl rfl) hrest]

theorem groups_colonGroups (gs : List Nat) (hgs : ∀ g ∈ gs, g < 65536) {rest : List Char}
    (hdot : '.' ∉ rest) (hrest : ∀ c ∈ rest.head?, digitValue? 16 c = none) :
    ∀ (fuel : Nat) (acc : List Nat), acc ≠ [] → acc.length + gs.length ≤ limit →
      gs.length ≤ fuel →
      groups limit fuel (colonGroups gs ++ rest) acc = groups limit (fuel - gs.length) rest
        (gs.reverse ++ acc) := by
  induction gs with
  | nil => intro fuel acc _ _ _; rfl
  | cons g gs ih =>
    intro fuel acc hacc hlimit hfuel
    obtain ⟨fuel, rfl⟩ : ∃ f, fuel = f + 1 := ⟨fuel - 1, by simp at hfuel; omega⟩
    have hg := hgs g List.mem_cons_self
    have hgs' : ∀ x ∈ gs, x < 65536 := fun x hx => hgs x (List.mem_cons_of_mem g hx)
    simp only [List.length_cons] at hlimit hfuel
    have htext : colonGroups (g :: gs) ++ rest = ':' :: (Nat.toDigits 16 g ++ (colonGroups gs ++ rest)) := by
      simp [colonGroups]
    rw [htext, groups_next hacc (by omega) hg (ipv4_groups g gs hdot) (head_colonGroups_append gs hrest),
      ih hgs' fuel (g :: acc) (List.cons_ne_nil g acc) (by simp; omega) (by omega)]
    simp only [List.length_cons, List.reverse_cons, List.append_assoc, List.singleton_append,
      Nat.add_sub_add_right]

theorem groups_joinGroups {gs : List Nat} (hgs : ∀ g ∈ gs, g < 65536) (hlen : gs.length ≤ limit)
    {fuel : Nat} (hfuel : gs.length ≤ fuel) {rest : List Char} (hrest : GroupsEnd rest)
    (hdot : '.' ∉ rest) :
    groups limit fuel ((Render.joinGroups gs).toList ++ rest) [] = (gs, false, rest) := by
  cases gs with
  | nil => simpa [Render.joinGroups] using groups_stop hrest fuel []
  | cons g gs =>
    obtain ⟨fuel, rfl⟩ : ∃ f, fuel = f + 1 := ⟨fuel - 1, by simp at hfuel; omega⟩
    simp only [List.length_cons] at hlen hfuel
    have hg := hgs g List.mem_cons_self
    have hgs' : ∀ x ∈ gs, x < 65536 := fun x hx => hgs x (List.mem_cons_of_mem g hx)
    rw [toList_joinGroups_cons, List.append_assoc,
      groups_first (by omega) hg (ipv4_groups g gs hdot) (head_colonGroups_append gs hrest.head),
      groups_colonGroups gs hgs' hdot hrest.head fuel [g] (List.cons_ne_nil g []) (by simp; omega)
        (by omega), groups_stop hrest]
    simp

end Groups

end Parse

namespace Render

open Parse

/-! ## Groups of a 128-bit number -/

theorem foldDigits_range (B b k : Nat) :
    foldDigits B ((List.range k).map fun i => b / B ^ (k - 1 - i) % B) 0 = b % B ^ k := by
  induction k generalizing b with
  | zero => simp only [List.range_zero, List.map_nil, foldDigits_nil, Nat.pow_zero, Nat.mod_one]
  | succ k ih =>
    -- the digits above the last are those of `b / B`
    have hhigh : ((List.range k).map fun i => b / B ^ (k + 1 - 1 - i) % B) =
        (List.range k).map fun i => b / B / B ^ (k - 1 - i) % B := by
      refine List.map_congr_left fun i hi => ?_
      have hik : k + 1 - 1 - i = (k - 1 - i) + 1 := by
        have := List.mem_range.1 hi
        omega
      rw [hik, Nat.div_div_eq_div_mul, Nat.pow_succ, Nat.mul_comm]
    rw [List.range_succ, List.map_append, foldDigits_append, hhigh, ih, List.map_singleton,
      foldDigits_cons, foldDigits_nil, Nat.add_sub_cancel, Nat.sub_self, Nat.pow_zero, Nat.div_one,
      Nat.pow_succ', Nat.mod_mul, Nat.mul_comm, Nat.add_comm]

theorem length_groupsOf (b : Nat) : (groupsOf b).length = 8 := by
  simp [groupsOf]

theorem lt_of_mem_groupsOf {b g : Nat} (h : g ∈ groupsOf b) : g < 65536 := by
  obtain ⟨i, -, rfl⟩ := List.mem_map.1 h
  exact Nat.mod_lt _ (by decide)

theorem foldDigits_groupsOf {b : Nat} (hb : b < 2 ^ 128) : foldDigits 65536 (groupsOf b) 0 = b := by
  have hgroups : groupsOf b = (List.range 8).map fun i => b / 65536 ^ (8 - 1 - i) % 65536 := by
    refine List.map_congr_left fun i _ => ?_
    rw [show Nat.pow 2 (16 * (7 - i)) = 65536 ^ (8 - 1 - i) by rw [Nat.pow_eq, Nat.pow_mul]]
  rw [hgroups, foldDigits_range, Nat.mod_eq_of_lt (by simpa using hb)]

/-! ## The run of zero groups the writer drops -/

/-- `len` groups from `start` on are all zero. -/
def ZeroRun (gs : List Nat) (start len : Nat) : Prop :=
  start + len ≤ gs.length ∧ (gs.drop start).take len = List.replicate len 0

theorem ZeroRun.eq_append {gs : List Nat} {start len : Nat} (h : ZeroRun gs start len) :
    gs = gs.take start ++ List.replicate len 0 ++ gs.drop (start + len) := by
  rw [List.append_assoc, ← h.2, ← List.drop_drop, List.take_append_drop, List.take_append_drop]

theorem ZeroRun.append {gs : List Nat} {start len : Nat} (h : ZeroRun gs start len) (g : Nat) :
    ZeroRun (gs ++ [g]) start len := by
  have hle := h.1
  refine ⟨by simp; omega, ?_⟩
  rw [List.drop_append_of_le_length (by omega), List.take_append_of_le_length (by simp; omega), h.2]

theorem zeroRun_last (gs : List Nat) : ZeroRun (gs ++ [0]) gs.length 1 :=
  ⟨by simp, by simp⟩

theorem ZeroRun.grow {gs : List Nat} {start len : Nat} (h : ZeroRun gs start len)
    (hend : start + len = gs.length) : ZeroRun (gs ++ [0]) start (len + 1) := by
  have hle := h.1
  have hlen : (gs.drop start).length = len := by simp; omega
  have hdrop : gs.drop start = List.replicate len 0 := by
    rw [← h.2, List.take_of_length_le (by omega)]
  refine ⟨by simp; omega, ?_⟩
  rw [List.drop_append_of_le_length (by omega), hdrop, List.replicate_succ',
    List.take_of_length_le (by simp)]

/-- What the search for zero runs knows after the groups `gs`: its index is past them, the
best and the current run are runs of zeros, and the current run ends at the index. -/
structure ZeroRuns (gs : List Nat) (st : (Nat × Nat) × (Nat × Nat) × Nat) : Prop where
  index : st.2.2 = gs.length
  best : ZeroRun gs st.1.1 st.1.2
  current : ZeroRun gs st.2.1.1 st.2.1.2
  current_ends : st.2.1.2 = 0 ∨ st.2.1.1 + st.2.1.2 = gs.length

theorem ZeroRuns.step {gs : List Nat} {st : (Nat × Nat) × (Nat × Nat) × Nat} (h : ZeroRuns gs st)
    (g : Nat) : ZeroRuns (gs ++ [g]) (zeroRunStep st g) := by
  obtain ⟨⟨bs, bl⟩, ⟨cs, cl⟩, i⟩ := st
  obtain ⟨hi, hbest, hcur, hends⟩ := h
  dsimp only at hi hbest hcur hends
  subst hi
  unfold zeroRunStep
  by_cases hg : g = 0
  · subst hg
    simp only [if_true]
    -- the zero group starts a run or lengthens the current one
    have hnew : ZeroRun (gs ++ [0]) (if cl = 0 then (gs.length, 1) else (cs, cl + 1)).1
        (if cl = 0 then (gs.length, 1) else (cs, cl + 1)).2 ∧
        (if cl = 0 then (gs.length, 1) else (cs, cl + 1)).1 +
          (if cl = 0 then (gs.length, 1) else (cs, cl + 1)).2 = (gs ++ [0]).length := by
      by_cases hcl : cl = 0
      · simp only [hcl, if_true]
        exact ⟨zeroRun_last gs, by simp⟩
      · have hend : cs + cl = gs.length := hends.resolve_left hcl
        simp only [hcl, if_false]
        exact ⟨hcur.grow hend, by simp; omega⟩
    generalize (if cl = 0 then (gs.length, 1) else (cs, cl + 1)) = cur at hnew ⊢
    refine ⟨by simp, ?_, hnew.1, .inr hnew.2⟩
    -- the longer of the best and the current run is kept
    by_cases hlonger : cur.2 > bl
    · simp only [hlonger, if_true]
      exact hnew.1
    · simp only [hlonger, if_false]
      exact hbest.append 0
  · simp only [hg, if_false]
    exact ⟨by simp, hbest.append g, ⟨by simp, by simp⟩, .inl rfl⟩

theorem ZeroRuns.foldl {gs : List Nat} {st : (Nat × Nat) × (Nat × Nat) × Nat}
    (h : ZeroRuns gs st) (rest : List Nat) : ZeroRuns (gs ++ rest) (rest.foldl zeroRunStep st) := by
  induction rest generalizing gs st with
  | nil => simpa using h
  | cons g rest ih =>
    rw [List.foldl_cons, List.append_cons]
    exact ih (h.step g)

theorem zeroRun_longestZeroRun (gs : List Nat) :
    ZeroRun gs (longestZeroRun gs).1 (longestZeroRun gs).2 := by
  have hstart : ZeroRuns [] ((0, 0), (0, 0), 0) := ⟨rfl, ⟨by simp, rfl⟩, ⟨by simp, rfl⟩, .inl rfl⟩
  have hrun := (hstart.foldl gs).best
  rw [List.nil_append] at hrun
  exact hrun

end Render

namespace Parse

open Render

theorem groups_ipv4 {limit : Nat} {acc : List Nat} (hacc : acc ≠ [])
    (hlimit : acc.length + 1 < limit) {r : List Char} {v : Nat} {rest : List Char}
    (hv4 : ipv4 r = some (v, rest)) (fuel : Nat) :
    groups limit (fuel + 1) (':' :: r) acc = ((v % 65536 :: v / 65536 :: acc).reverse, true, rest) := by
  have hlen : acc.length ≠ 0 := fun h => hacc (List.eq_nil_of_length_eq_zero h)
  rw [groups.eq_2]
  simp only [hlen, Nat.not_le.2 (Nat.lt_of_succ_lt hlimit), if_false, if_pos hlimit, hv4]

theorem ipv6_joinGroups {gs : List Nat} (hlen : gs.length = 8) (hgs : ∀ g ∈ gs, g < 65536) :
    ipv6 (joinGroups gs).toList = some (ofGroups gs, []) := by
  unfold ipv6
  rw [← List.append_nil (joinGroups gs).toList,
    @groups_joinGroups 8 gs hgs (by omega) 9 (by omega) [] (.inl rfl) (by simp)]
  simp only [hlen, if_true]

theorem ipv6_compressed {gs : List Nat} (hlen : gs.length = 8) (hgs : ∀ g ∈ gs, g < 65536)
    {start len : Nat} (hrun : ZeroRun gs start len) (hlong : 1 < len) :
    ipv6 ((joinGroups (gs.take start)).toList ++
      ':' :: ':' :: (joinGroups (gs.drop (start + len))).toList) = some (ofGroups gs, []) := by
  have hfits : start + len ≤ 8 := hlen ▸ hrun.1
  have hhead : ∀ g ∈ gs.take start, g < 65536 := fun g hg => hgs g (List.mem_of_mem_take hg)
  have htail : ∀ g ∈ gs.drop (start + len), g < 65536 :=
    fun g hg => hgs g (List.mem_of_mem_drop hg)
  have hheadLen : (gs.take start).length = start := by simp; omega
  have htailLen : (gs.drop (start + len)).length = 8 - (start + len) := by simp [hlen]
  unfold ipv6
  -- the groups before the `::` are read up to it
  rw [@groups_joinGroups 8 (gs.take start) hhead (by omega) 9 (by omega) _ (.inr ⟨_, rfl⟩)
    (by simp [dot_not_mem_joinGroups])]
  simp only [hheadLen, show start ≠ 8 by omega, if_false, Bool.false_eq_true]
  -- the groups after it are read to the end, and the missing ones are the run of zeros
  rw [← List.append_nil (joinGroups (gs.drop (start + len))).toList,
    @groups_joinGroups (8 - (start + 1)) _ htail (by omega) 9 (by omega) [] (.inl rfl) (by simp)]
  simp only [htailLen, show 8 - start - (8 - (start + len)) = len by omega]
  rw [← hrun.eq_append]

theorem ipv6_mapped {low : Nat} (hlow : low < 2 ^ 32) :
    ipv6 (':' :: ':' :: (Nat.toDigits 16 65535 ++ ':' :: (Render.ipv4 low).toList)) =
      some (ofGroups [0, 0, 0, 0, 0, 65535, low / 65536, low % 65536], []) := by
  unfold ipv6
  -- nothing stands before the `::`
  rw [groups_stop (.inr ⟨_, rfl⟩)]
  simp only [List.reverse_nil, List.length_nil, show (0 : Nat) ≠ 8 by decide, if_false,
    Bool.false_eq_true]
  have hffff : Nat.toDigits 16 65535 = ['f', 'f', 'f', 'f'] := by decide
  have hv4 : ipv4 (Nat.toDigits 16 65535 ++ ':' :: (Render.ipv4 low).toList) = none :=
    ipv4_of_head (by rw [hffff]; simp [digitValue?])
  have hdotted : ipv4 (Render.ipv4 low).toList = some (low, []) := by
    simpa using ipv4_render hlow (show ∀ c ∈ ([] : List Char).head?, digitValue? 10 c = none by simp)
  rw [groups_first (by decide) (by decide) hv4 (by simp),
    groups_ipv4 (List.cons_ne_nil _ _) (by decide) hdotted]
  rfl

theorem toList_mapped (low : Nat) :
    ("::ffff:" ++ Render.ipv4 low).toList =
      ':' :: ':' :: (Nat.toDigits 16 65535 ++ ':' :: (Render.ipv4 low).toList) := by
  rw [String.toList_append]
  rfl

/-- The text of a 128-bit number reads back as that number. -/
theorem ipv6_render {b : Nat} (hb : b < 2 ^ 128) : ipv6 (Render.ipv6 b).toList = some (b, []) := by
  unfold Render.ipv6
  split
  · -- an IPv4-mapped address: 65535 above the low 32 bits
    rename_i hmapped
    have hlow : b % Nat.pow 2 32 < 2 ^ 32 := Nat.mod_lt _ (by decide)
    rw [toList_mapped, ipv6_mapped hlow]
    have hpow : Nat.pow 2 32 = 4294967296 := rfl
    rw [hpow] at hmapped ⊢
    simp only [ofGroups, List.foldl_cons, List.foldl_nil, Option.some.injEq, Prod.mk.injEq,
      and_true]
    omega
  · -- the groups, with the longest run of two or more zero groups written `::`
    dsimp only
    have hrun := zeroRun_longestZeroRun (groupsOf b)
    generalize longestZeroRun (groupsOf b) = run at hrun ⊢
    obtain ⟨start, len⟩ := run
    have hgroups : ofGroups (groupsOf b) = b := foldDigits_groupsOf hb
    split
    · rename_i hlong
      rw [String.toList_append, String.toList_append, List.append_assoc,
        show ("::" : String).toList = [':', ':'] from rfl, List.cons_append, List.cons_append,
        List.nil_append, ipv6_compressed (length_groupsOf b) (fun _ => lt_of_mem_groupsOf) hrun hlong,
        hgroups]
    · rw [ipv6_joinGroups (length_groupsOf b) (fun _ => lt_of_mem_groupsOf), hgroups]

theorem ipv4_ipv6 (b : Nat) : ipv4 (Render.ipv6 b).toList = none := by
  unfold Render.ipv6
  split
  · rw [toList_mapped, ipv4_of_colon]
  · dsimp only
    split
    · refine ipv4_of_no_dot ?_
      simp only [String.toList_append, List.mem_append, not_or]
      exact ⟨⟨dot_not_mem_joinGroups _, by decide⟩, dot_not_mem_joinGroups _⟩
    · exact ipv4_of_no_dot (dot_not_mem_joinGroups _)

/-! ## What is read fits the family -/

/-- The reader returns groups of 16 bits, no more of them than it is asked for. -/
theorem groups_bound {limit : Nat} (fuel : Nat) :
    ∀ (cs : List Char) (acc : List Nat), (∀ g ∈ acc, g < 65536) → acc.length ≤ limit →
      (∀ g ∈ (groups limit fuel cs acc).1, g < 65536) ∧ (groups limit fuel cs acc).1.length ≤ limit := by
  induction fuel with
  | zero =>
    intro cs acc hacc hlen
    simpa [groups] using ⟨hacc, hlen⟩
  | succ fuel ih =>
    intro cs acc hacc hlen
    have hstop : (∀ g ∈ acc.reverse, g < 65536) ∧ acc.reverse.length ≤ limit := by
      simpa using ⟨hacc, hlen⟩
    rw [groups.eq_def]
    dsimp only
    split
    · exact hstop
    split
    · exact hstop
    rename_i hlimit _ r _
    split
    · -- an IPv4 address in the last two groups gives two groups of 16 bits
      rename_i v rest hv4
      split_ifs at hv4 with hroom
      have hv := ipv4_lt hv4
      have hhigh : v / 65536 < 65536 := by omega
      have hlow : v % 65536 < 65536 := Nat.mod_lt _ (by decide)
      refine ⟨?_, by simp; omega⟩
      intro g hg
      simp only [List.reverse_cons, List.mem_append, List.mem_reverse, List.mem_singleton] at hg
      rcases hg with (hg | rfl) | rfl
      · exact hacc g hg
      · exact hhigh
      · exact hlow
    · split
      · -- a hex group has at most four digits
        rename_i g rest hnum
        have hg : g < 65536 := number_lt (by decide) hnum
        refine ih rest (g :: acc) ?_ (by simp; omega)
        intro x hx
        rcases List.mem_cons.1 hx with rfl | hx
        · exact hg
        · exact hacc x hx
      · exact hstop

theorem ofGroups_lt {gs : List Nat} (hgs : ∀ g ∈ gs, g < 65536) (hlen : gs.length = 8) :
    ofGroups gs < 2 ^ 128 := by
  have h := foldDigits_lt hgs 0
  rw [hlen, Nat.zero_add, Nat.one_mul] at h
  exact h

theorem ipv6_lt {cs : List Char} {v : Nat} {rest : List Char} (h : ipv6 cs = some (v, rest)) :
    v < 2 ^ 128 := by
  unfold ipv6 at h
  obtain ⟨hheadLt, hheadLen⟩ := @groups_bound 8 9 cs [] (by simp) (by simp)
  generalize groups 8 9 cs [] = read at h hheadLt hheadLen
  obtain ⟨head, headV4, r⟩ := read
  dsimp only at h hheadLt hheadLen
  split_ifs at h with h8
  · cases h
    exact ofGroups_lt hheadLt h8
  · -- after a `::` the zeros fill the groups up to eight
    split at h
    · rename_i r'
      obtain ⟨htailLt, htailLen⟩ :=
        @groups_bound (8 - (head.length + 1)) 9 r' [] (by simp) (by simp)
      generalize groups (8 - (head.length + 1)) 9 r' [] = read at h htailLt htailLen
      obtain ⟨tail, _, r''⟩ := read
      dsimp only at h htailLt htailLen
      cases h
      refine ofGroups_lt ?_ (by simp; omega)
      intro g hg
      simp only [List.mem_append, List.mem_replicate] at hg
      rcases hg with (hg | ⟨-, rfl⟩) | hg
      · exact hheadLt g hg
      · decide
      · exact htailLt g hg
    · cases h

end Parse

theorem IpAddr.bits_lt_of_parse? {s : String} {a : IpAddr} (h : IpAddr.parse? s = some a) :
    a.bits < 2 ^ a.width := by
  unfold IpAddr.parse? at h
  dsimp only at h
  split at h
  · cases h
    exact Parse.ipv4_lt ‹_›
  · split at h
    · cases h
      exact Parse.ipv6_lt ‹_›
    · cases h

theorem IpAddr.parse?_render {a : IpAddr} (ha : a.bits < 2 ^ a.width) :
    IpAddr.parse? a.render = some a := by
  cases a with
  | v4 b =>
    have hb : b < 2 ^ 32 := ha
    have hdotted : Parse.ipv4 (Render.ipv4 b).toList = some (b, []) := by
      simpa using Parse.ipv4_render hb
        (show ∀ c ∈ ([] : List Char).head?, Parse.digitValue? 10 c = none by simp)
    simp only [IpAddr.parse?, IpAddr.render, hdotted]
  | v6 b =>
    have hb : b < 2 ^ 128 := ha
    simp only [IpAddr.parse?, IpAddr.render, Parse.ipv4_ipv6, Parse.ipv6_render hb]

theorem IpAddr.sep_mem_render (a : IpAddr) : '.' ∈ a.render.toList ∨ ':' ∈ a.render.toList := by
  cases a with
  | v4 b =>
    left
    simp [IpAddr.render, Parse.toList_ipv4]
  | v6 b =>
    right
    simp only [IpAddr.render]
    unfold Render.ipv6
    split
    · rw [Parse.toList_mapped]
      exact List.mem_cons_self
    · dsimp only
      split
      · simp [String.toList_append]
      · -- eight groups are joined by seven colons
        obtain ⟨g, g', gs, hgs⟩ : ∃ g g' gs, Render.groupsOf b = g :: g' :: gs := by
          match h : Render.groupsOf b, Render.length_groupsOf b with
          | g :: g' :: gs, _ => exact ⟨g, g', gs, rfl⟩
        rw [hgs, Parse.toList_joinGroups_cons]
        simp [Parse.colonGroups]

end ContainerCpi.Net
