import ContainerCpi.Director.Network
import ContainerCpi.Proofs.Net.AddressText
import ContainerCpi.Proofs.Net.Prefixes
import ContainerCpi.Proofs.Text.Decimal

/-!
# The subnet of a manual network

A manual network's subnet is its address truncated to the prefix length of its netmask.  The
netmask is read first as a decimal prefix length, an unsigned numeral of at most 255
(`DecimalMask`), and only when it is none as the text of an address of the network address's
family whose bits are a run of ones and then zeros, the prefix length being the number of ones
(`ReadsLength`).  Within the family's width the subnet is the address AND the mask of that
length; it contains the address and is its own truncation.  A length and the text of its mask
give the same subnet.

A network is refused for the first check it fails, in this order: its address, the netmask's
syntax, the two families, the netmask's contiguity, the prefix length's range.  `SubnetLaws`
gathers these facts.
-/

namespace ContainerCpi.DirectorNetwork

open Net Text

/-! ## Reading the netmask -/

/-- `mask` is the decimal prefix length `len`: an unsigned decimal numeral of at most 255. -/
def DecimalMask (mask : String) (len : Nat) : Prop := UnsignedDecimal mask len ∧ len ≤ 255

theorem prefixLength?_eq_some_iff {mask : String} {len : Nat} :
    prefixLength? mask = some len ↔ DecimalMask mask len :=
  @readBounded_eq_some_iff mask len (· ≤ 255) _

theorem prefixLength?_eq_none_iff {mask : String} :
    prefixLength? mask = none ↔ ∀ len, ¬DecimalMask mask len := by
  simp only [← prefixLength?_eq_some_iff, Option.eq_none_iff_forall_ne_some, ne_eq]

/-- The prefix length the netmask `mask` gives the address `a`: its decimal value, or, when it
is no decimal prefix length, the length within `a`'s width whose mask the bits of `mask`'s
address of `a`'s family are. -/
def ReadsLength (a : IpAddr) (mask : String) (len : Nat) : Prop :=
  DecimalMask mask len ∨
    (∀ k, ¬DecimalMask mask k) ∧
      ∃ m, IpAddr.parse? mask = some m ∧ m.isV6 = a.isV6 ∧ len ≤ a.width ∧
        m.bits = IpNet.maskBits a.width len

variable {n : DirectorNetwork} {name : String} {a : IpAddr}

theorem maskLength_eq_ok_iff {len : Nat} :
    n.maskLength name a = .ok len ↔ ReadsLength a n.netmask len := by
  unfold maskLength ReadsLength
  dsimp only
  cases hdec : prefixLength? n.netmask with
  | some k =>
    -- a decimal length is taken as it is
    have hk := prefixLength?_eq_some_iff.1 hdec
    constructor
    · rintro ⟨⟩
      exact .inl hk
    · rintro (hlen | ⟨hno, -⟩)
      · rw [prefixLength?_eq_some_iff.2 hlen, Option.some.injEq] at hdec
        rw [hdec]
        rfl
      · exact absurd hk (hno k)
  | none =>
    have hno := prefixLength?_eq_none_iff.1 hdec
    simp only [hno, false_or, not_false_eq_true, implies_true, true_and]
    cases hm : IpAddr.parse? n.netmask with
    | none => simp only [reduceCtorEq, false_and, exists_false]
    | some m =>
      simp only [Option.some.injEq, exists_eq_left']
      by_cases hfam : m.isV6 = a.isV6
      · -- the netmask's own width is the address's
        have hw := IpAddr.width_eq_of_isV6 hfam
        simp only [hfam, bne_self_eq_false, Bool.false_eq_true, if_false, true_and, ← hw]
        cases hp : prefixOfMask? m.width m.bits with
        | some l =>
          have hl := prefixOfMask?_eq_some_iff.1 hp
          constructor
          · rintro ⟨⟩
            exact hl
          · rintro ⟨hlen, hbits⟩
            rw [hbits, prefixOfMask?_eq_some_iff.2 ⟨hlen, rfl⟩, Option.some.injEq] at hp
            rw [hp]
            rfl
        | none =>
          simp only [reduceCtorEq, false_iff, not_and]
          intro hlen hbits
          rw [prefixOfMask?_eq_some_iff.2 ⟨hlen, hbits⟩] at hp
          cases hp
      · have hne : (m.isV6 != a.isV6) = true := by simpa using hfam
        simp only [hne, if_true, hfam, false_and, iff_false]
        intro h
        cases h

theorem maskLength_not_netmask (hdec : ∀ k, ¬DecimalMask n.netmask k)
    (hm : IpAddr.parse? n.netmask = none) :
    n.maskLength name a = .error (.invalidNetwork name ("'" ++ n.netmask ++ "' is not a netmask")) := by
  unfold maskLength
  dsimp only
  rw [prefixLength?_eq_none_iff.2 hdec, hm]
  rfl

theorem maskLength_family {m : IpAddr} (hdec : ∀ k, ¬DecimalMask n.netmask k)
    (hm : IpAddr.parse? n.netmask = some m) (hfam : m.isV6 ≠ a.isV6) :
    n.maskLength name a = .error (.invalidNetwork name
      ("address '" ++ n.ip ++ "' and netmask '" ++ n.netmask ++ "' differ in family")) := by
  have hne : (m.isV6 != a.isV6) = true := by simpa using hfam
  unfold maskLength
  simp only [prefixLength?_eq_none_iff.2 hdec, hm, hne, if_true]
  rfl

theorem maskLength_not_contiguous {m : IpAddr} (hdec : ∀ k, ¬DecimalMask n.netmask k)
    (hm : IpAddr.parse? n.netmask = some m) (hfam : m.isV6 = a.isV6)
    (hmask : ∀ len ≤ a.width, m.bits ≠ IpNet.maskBits a.width len) :
    n.maskLength name a = .error (.invalidNetwork name ("'" ++ n.netmask ++ "' is not contiguous")) := by
  have hp : prefixOfMask? m.width m.bits = none := by
    cases hp : prefixOfMask? m.width m.bits with
    | none => rfl
    | some l =>
      obtain ⟨hl, hbits⟩ := prefixOfMask?_eq_some_iff.1 hp
      rw [IpAddr.width_eq_of_isV6 hfam] at hl hbits
      exact absurd hbits (hmask l hl)
  unfold maskLength
  simp only [prefixLength?_eq_none_iff.2 hdec, hm, hfam, bne_self_eq_false, Bool.false_eq_true,
    if_false, hp]
  rfl

/-! ## The subnet -/

theorem subnet_of_bad_address (ha : IpAddr.parse? n.ip = none) :
    n.subnet name = .error (.invalidNetwork name ("'" ++ n.ip ++ "' is not an IP address")) := by
  unfold subnet address
  rw [ha]
  rfl

theorem subnet_of_maskLength_error (ha : IpAddr.parse? n.ip = some a) {e : SpecError}
    (he : n.maskLength name a = .error e) : n.subnet name = .error e := by
  unfold subnet address
  rw [ha]
  simp only [bind, Except.bind, he]

theorem subnet_of_maskLength {len : Nat} (ha : IpAddr.parse? n.ip = some a)
    (hl : n.maskLength name a = .ok len) :
    n.subnet name = if len ≤ a.width then .ok (IpNet.mk a len).trunc
      else .error (.invalidNetwork name ("prefix length " ++ toString len ++ " out of range")) := by
  unfold subnet address
  rw [ha]
  simp only [bind, Except.bind, hl, IpNet.make?]
  by_cases hlen : len ≤ a.width
  · simp only [hlen, if_true]
    rfl
  · simp only [hlen, if_false]
    rfl

theorem trunc_eq_and_of_parse? {s : String} (ha : IpAddr.parse? s = some a) {len : Nat}
    (hlen : len ≤ a.width) :
    (IpNet.mk a len).trunc = ⟨a.withBits (a.bits &&& IpNet.maskBits a.width len), len⟩ :=
  IpNet.trunc_eq_and (IpAddr.bits_lt_of_parse? ha) hlen

/-- The subnet is found exactly when the address reads, the netmask gives it a length within
its width, and it is then the address AND the mask. -/
theorem subnet_eq_ok_iff {net : IpNet} :
    n.subnet name = .ok net ↔ ∃ a len, IpAddr.parse? n.ip = some a ∧ ReadsLength a n.netmask len ∧
      len ≤ a.width ∧ net = ⟨a.withBits (a.bits &&& IpNet.maskBits a.width len), len⟩ := by
  constructor
  · intro h
    cases ha : IpAddr.parse? n.ip with
    | none =>
      rw [subnet_of_bad_address ha] at h
      cases h
    | some a =>
      cases hl : n.maskLength name a with
      | error e =>
        rw [subnet_of_maskLength_error ha hl] at h
        cases h
      | ok len =>
        rw [subnet_of_maskLength ha hl] at h
        split at h
        · rename_i hlen
          cases h
          exact ⟨a, len, rfl, maskLength_eq_ok_iff.1 hl, hlen, trunc_eq_and_of_parse? ha hlen⟩
        · cases h
  · rintro ⟨a, len, ha, hread, hlen, rfl⟩
    rw [subnet_of_maskLength ha (maskLength_eq_ok_iff.2 hread), if_pos hlen,
      trunc_eq_and_of_parse? ha hlen]

example :
    ({ (Inhabited.default : DirectorNetwork) with
        ip := "10.0.5.17", netmask := "255.255.255.0" } : DirectorNetwork).subnet "default" =
      .ok ⟨.v4 167773440, 24⟩ := by
  decide

theorem subnet_contains {net : IpNet} (h : n.subnet name = .ok net) :
    ∃ a, IpAddr.parse? n.ip = some a ∧ net.contains a = true ∧ net.trunc = net := by
  obtain ⟨a, len, ha, -, hlen, rfl⟩ := subnet_eq_ok_iff.1 h
  rw [← trunc_eq_and_of_parse? ha hlen]
  exact ⟨a, ha, IpNet.trunc_contains _, IpNet.trunc_trunc _⟩

/-! ## The two notations of a netmask -/

theorem not_decimalMask_render (m : IpAddr) (k : Nat) : ¬DecimalMask m.render k := by
  rintro ⟨hdec, -⟩
  -- the separator would have to be a digit or the sign
  rcases IpAddr.sep_mem_render m with hsep | hsep <;>
    rcases hdec.isDigit_or_plus hsep with h | h <;> revert h <;> decide

theorem subnet_of_mask_notations (ha : IpAddr.parse? n.ip = some a) {len : Nat}
    (hlen : len ≤ a.width) :
    { n with netmask := toString len }.subnet name =
        .ok ⟨a.withBits (a.bits &&& IpNet.maskBits a.width len), len⟩ ∧
      { n with netmask := (a.withBits (IpNet.maskBits a.width len)).render }.subnet name =
        .ok ⟨a.withBits (a.bits &&& IpNet.maskBits a.width len), len⟩ := by
  -- the mask read back from its text is of the address's family, with the mask's bits
  have hmask : IpAddr.parse? (a.withBits (IpNet.maskBits a.width len)).render =
      some (a.withBits (IpNet.maskBits a.width len)) :=
    IpAddr.parse?_render (by simpa using IpNet.maskBits_lt hlen)
  refine ⟨subnet_eq_ok_iff.2 ⟨a, len, ha, .inl ⟨unsignedDecimal_toString len, ?_⟩, hlen, rfl⟩,
    subnet_eq_ok_iff.2 ⟨a, len, ha, .inr ⟨not_decimalMask_render _, _, hmask, by simp, hlen,
      by simp⟩, hlen, rfl⟩⟩
  exact Nat.le_trans hlen (Nat.le_trans (IpAddr.width_le a) (by decide))

/-! ## The laws -/

/-- What a manual network's subnet is, and which refusal comes first. -/
structure SubnetLaws (n : DirectorNetwork) (name : String) : Prop where
  /-- The subnet is found exactly when the address reads and the netmask gives it a length
  within its width; it is then the address AND the mask of that length. -/
  ok_iff : ∀ net, n.subnet name = .ok net ↔ ∃ a len, IpAddr.parse? n.ip = some a ∧
    ReadsLength a n.netmask len ∧ len ≤ a.width ∧
      net = ⟨a.withBits (a.bits &&& IpNet.maskBits a.width len), len⟩
  /-- The subnet contains the address and is its own truncation. -/
  contains : ∀ net, n.subnet name = .ok net →
    ∃ a, IpAddr.parse? n.ip = some a ∧ net.contains a = true ∧ net.trunc = net
  /-- A length in decimal and the text of its mask give the same subnet. -/
  notations_agree : ∀ a len, IpAddr.parse? n.ip = some a → len ≤ a.width →
    { n with netmask := toString len }.subnet name =
      { n with netmask := (a.withBits (IpNet.maskBits a.width len)).render }.subnet name
  /-- First the address must read. -/
  bad_address : IpAddr.parse? n.ip = none →
    n.subnet name = .error (.invalidNetwork name ("'" ++ n.ip ++ "' is not an IP address"))
  /-- Then a netmask that is no decimal length must read as an address. -/
  bad_netmask : ∀ a, IpAddr.parse? n.ip = some a → (∀ k, ¬DecimalMask n.netmask k) →
    IpAddr.parse? n.netmask = none →
      n.subnet name = .error (.invalidNetwork name ("'" ++ n.netmask ++ "' is not a netmask"))
  /-- Then it must be of the address's family. -/
  family_mismatch : ∀ a m, IpAddr.parse? n.ip = some a → (∀ k, ¬DecimalMask n.netmask k) →
    IpAddr.parse? n.netmask = some m → m.isV6 ≠ a.isV6 →
      n.subnet name = .error (.invalidNetwork name
        ("address '" ++ n.ip ++ "' and netmask '" ++ n.netmask ++ "' differ in family"))
  /-- Then its bits must be the mask of a length. -/
  not_contiguous : ∀ a m, IpAddr.parse? n.ip = some a → (∀ k, ¬DecimalMask n.netmask k) →
    IpAddr.parse? n.netmask = some m → m.isV6 = a.isV6 →
    (∀ len ≤ a.width, m.bits ≠ IpNet.maskBits a.width len) →
      n.subnet name = .error (.invalidNetwork name ("'" ++ n.netmask ++ "' is not contiguous"))
  /-- Last, a decimal length must be within the width. -/
  out_of_range : ∀ a len, IpAddr.parse? n.ip = some a → DecimalMask n.netmask len →
    a.width < len →
      n.subnet name = .error (.invalidNetwork name
        ("prefix length " ++ toString len ++ " out of range"))

theorem subnet_laws (n : DirectorNetwork) (name : String) : SubnetLaws n name where
  ok_iff _ := subnet_eq_ok_iff
  contains _ := subnet_contains
  notations_agree _ _ ha hlen := by
    rw [(subnet_of_mask_notations ha hlen).1, (subnet_of_mask_notations ha hlen).2]
  bad_address := subnet_of_bad_address
  bad_netmask _ ha hdec hm := subnet_of_maskLength_error ha (maskLength_not_netmask hdec hm)
  family_mismatch _ _ ha hdec hm hfam :=
    subnet_of_maskLength_error ha (maskLength_family hdec hm hfam)
  not_contiguous _ _ ha hdec hm hfam hmask :=
    subnet_of_maskLength_error ha (maskLength_not_contiguous hdec hm hfam hmask)
  out_of_range _ len ha hdec hwide := by
    rw [subnet_of_maskLength ha (maskLength_eq_ok_iff.2 (.inl hdec)), if_neg (Nat.not_le.2 hwide)]

end ContainerCpi.DirectorNetwork
