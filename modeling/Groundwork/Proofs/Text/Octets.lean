import Groundwork.Proofs.Text.Imports
import Groundwork.Proofs.Text.Utf8
import Mathlib.Tactic.SplitIfs

/-!
# Octets of a text

Octets that are a text at all are the octets of that text, since every character is written in one
way only. Line ends can therefore be unified before or after decoding.
-/

namespace Groundwork.Text.Utf8

variable {position v : Nat} {b : UInt8} {octets rest : List UInt8} {p : Pending} {cs : List Char}

theorem ofNat_of_toNat {n : Nat} (h : b.toNat = n) : UInt8.ofNat n = b := by
  rw [← h, UInt8.ofNat_toNat]

/-- What a first octet says about the second one. The bounds rule out what could be written with
fewer octets, surrogates, and what is no character. -/
inductive Starts (b : UInt8) (p : Pending) : Prop
  | two (hb : b.toNat = p.bits + 0xC0) (howed : p.owed = 1) (hmin : 2 ≤ p.bits) (hmax : p.bits ≤ 0x1F)
      (hlow : p.low = 0x80) (hhigh : p.high = 0xBF)
  | three (hb : b.toNat = p.bits + 0xE0) (howed : p.owed = 2) (hmax : p.bits ≤ 0xF)
      (hlow : 0x80 ≤ p.low) (hhigh : p.high ≤ 0xBF) (hmin : p.bits = 0 → 0xA0 ≤ p.low)
      (hno : p.bits = 0xD → p.high ≤ 0x9F)
  | four (hb : b.toNat = p.bits + 0xF0) (howed : p.owed = 3) (hmax : p.bits ≤ 4)
      (hlow : 0x80 ≤ p.low) (hhigh : p.high ≤ 0xBF) (hmin : p.bits = 0 → 0x90 ≤ p.low)
      (hno : p.bits = 4 → p.high ≤ 0x8F)

theorem starts_of_start? (h : Pending.start? position b = some p) : Starts b p := by
  unfold Pending.start? at h
  dsimp only at h
  split_ifs at h with h2 hE0 hED hE hF0 hF hF4
  case pos =>
    cases h
    exact .two (by dsimp only; omega) rfl (by dsimp only; omega) (by dsimp only; omega) rfl rfl
  case pos | pos | pos =>
    cases h
    exact .three (by dsimp only; omega) rfl (by dsimp only; omega) (by simp) (by simp)
      (by dsimp only; omega) (by dsimp only; omega)
  all_goals
    cases h
    exact .four (by dsimp only; omega) rfl (by dsimp only; omega) (by simp) (by simp)
      (by dsimp only; omega) (by dsimp only; omega)

/-- A sequence under way goes on with an octet within the bounds. -/
theorem decodeFrom_pending_ok (h : decodeFrom position (some p) octets = .ok cs) :
    ∃ b rest, octets = b :: rest ∧ p.low ≤ b.toNat ∧ b.toNat ≤ p.high ∧
      (p.owed ≤ 1 → ∃ later, decodeFrom (position + 1) none rest = .ok later ∧
        cs = Char.ofNat (64 * p.bits + (b.toNat - 0x80)) :: later) ∧
      (1 < p.owed → decodeFrom (position + 1)
        (some ⟨p.first, p.octet, p.owed - 1, 0x80, 0xBF, 64 * p.bits + (b.toNat - 0x80)⟩) rest
          = .ok cs) := by
  cases octets with
  | nil => cases h
  | cons b rest =>
    rw [decodeFrom] at h
    split at h
    · rename_i hbounds
      refine ⟨b, rest, rfl, hbounds.1, hbounds.2, fun howed => ?_, fun howed => ?_⟩
      · dsimp only at h
        rw [if_pos howed] at h
        cases hlater : decodeFrom (position + 1) none rest with
        | error f =>
          rw [hlater] at h
          cases h
        | ok later =>
          rw [hlater] at h
          cases h
          exact ⟨later, rfl, rfl⟩
      · dsimp only at h
        rwa [if_neg (by omega)] at h
    · cases h

theorem toNat_val_ofNat (h : v < 0xD800 ∨ 0xDFFF < v ∧ v < 0x110000) :
    (Char.ofNat v).val.toNat = v := by
  have hvalid : v.isValidChar := h
  rw [Char.ofNat, dif_pos hvalid]
  exact UInt32.toNat_ofNatLT

theorem encodeChar_one (h : v ≤ 0x7F) : String.utf8EncodeChar (Char.ofNat v) = [UInt8.ofNat v] := by
  unfold String.utf8EncodeChar
  rw [toNat_val_ofNat (by omega)]
  dsimp only
  rw [if_pos h]

theorem encodeChar_two (hmin : 0x80 ≤ v) (hmax : v ≤ 0x7FF) :
    String.utf8EncodeChar (Char.ofNat v)
      = [UInt8.ofNat (v / 64 % 0x20 + 0xC0), UInt8.ofNat (v % 0x40 + 0x80)] := by
  unfold String.utf8EncodeChar
  rw [toNat_val_ofNat (by omega)]
  dsimp only
  rw [if_neg (by omega), if_pos hmax]

theorem encodeChar_three (hmin : 0x800 ≤ v) (hmax : v ≤ 0xFFFF) (hv : v < 0xD800 ∨ 0xDFFF < v) :
    String.utf8EncodeChar (Char.ofNat v)
      = [UInt8.ofNat (v / 4096 % 0x10 + 0xE0), UInt8.ofNat (v / 64 % 0x40 + 0x80),
        UInt8.ofNat (v % 0x40 + 0x80)] := by
  unfold String.utf8EncodeChar
  rw [toNat_val_ofNat (by omega)]
  dsimp only
  rw [if_neg (by omega), if_neg (by omega), if_pos hmax]

theorem encodeChar_four (hmin : 0x10000 ≤ v) (hmax : v < 0x110000) :
    String.utf8EncodeChar (Char.ofNat v)
      = [UInt8.ofNat (v / 262144 % 0x08 + 0xF0), UInt8.ofNat (v / 4096 % 0x40 + 0x80),
        UInt8.ofNat (v / 64 % 0x40 + 0x80), UInt8.ofNat (v % 0x40 + 0x80)] := by
  unfold String.utf8EncodeChar
  rw [toNat_val_ofNat (by omega)]
  dsimp only
  rw [if_neg (by omega), if_neg (by omega), if_neg (by omega)]

/-- A sequence that was started and decoded is how its character is written. -/
theorem encodeChar_of_starts (hs : Starts b p) (h : decodeFrom position (some p) octets = .ok cs) :
    ∃ c tail rest next later, octets = tail ++ rest ∧ String.utf8EncodeChar c = b :: tail ∧
      decodeFrom next none rest = .ok later ∧ cs = c :: later := by
  obtain ⟨b₁, rest₁, rfl, hlow₁, hhigh₁, hlast₁, hmore₁⟩ := decodeFrom_pending_ok h
  cases hs with
  | two hb howed hmin hmax hlow hhigh =>
    obtain ⟨later, hlater, rfl⟩ := hlast₁ (by omega)
    refine ⟨_, [b₁], rest₁, _, later, rfl, ?_, hlater, rfl⟩
    rw [encodeChar_two (by omega) (by omega), ofNat_of_toNat (b := b) (by omega),
      ofNat_of_toNat (b := b₁) (by omega)]
  | three hb howed hmax hlow hhigh hmin hno =>
    obtain ⟨b₂, rest₂, rfl, hlow₂, hhigh₂, hlast₂, -⟩ := decodeFrom_pending_ok (hmore₁ (by omega))
    dsimp only at hlow₂ hhigh₂ hlast₂
    obtain ⟨later, hlater, rfl⟩ := hlast₂ (by omega)
    refine ⟨_, [b₁, b₂], rest₂, _, later, rfl, ?_, hlater, rfl⟩
    rw [encodeChar_three (by omega) (by omega) (by omega), ofNat_of_toNat (b := b) (by omega),
      ofNat_of_toNat (b := b₁) (by omega), ofNat_of_toNat (b := b₂) (by omega)]
  | four hb howed hmax hlow hhigh hmin hno =>
    obtain ⟨b₂, rest₂, rfl, hlow₂, hhigh₂, -, hmore₂⟩ := decodeFrom_pending_ok (hmore₁ (by omega))
    dsimp only at hlow₂ hhigh₂ hmore₂
    obtain ⟨b₃, rest₃, rfl, hlow₃, hhigh₃, hlast₃, -⟩ := decodeFrom_pending_ok (hmore₂ (by omega))
    dsimp only at hlow₃ hhigh₃ hlast₃
    obtain ⟨later, hlater, rfl⟩ := hlast₃ (by omega)
    refine ⟨_, [b₁, b₂, b₃], rest₃, _, later, rfl, ?_, hlater, rfl⟩
    rw [encodeChar_four (by omega) (by omega), ofNat_of_toNat (b := b) (by omega),
      ofNat_of_toNat (b := b₁) (by omega), ofNat_of_toNat (b := b₂) (by omega),
      ofNat_of_toNat (b := b₃) (by omega)]

/-- What was decoded is encoded to the same octets. -/
theorem encode_of_decode (h : decode octets = .ok cs) : encode cs = octets := by
  suffices hall : ∀ n position octets cs, octets.length ≤ n →
      decodeFrom position none octets = .ok cs → encode cs = octets from
    hall octets.length 0 octets cs (Nat.le_refl _) h
  intro n
  -- a character takes one octet or more, so the induction is on how many octets there are
  induction n with
  | zero =>
    intro position octets cs hlength h
    rw [List.length_eq_zero_iff.1 (Nat.le_zero.1 hlength)] at h ⊢
    cases h
    rfl
  | succ n ih =>
    intro position octets cs hlength h
    cases octets with
    | nil =>
      cases h
      rfl
    | cons b rest =>
      rw [List.length_cons] at hlength
      rw [decodeFrom] at h
      split at h
      · cases hlater : decodeFrom (position + 1) none rest with
        | error f =>
          rw [hlater] at h
          cases h
        | ok later =>
          rw [hlater] at h
          cases h
          show String.utf8EncodeChar (Char.ofNat b.toNat) ++ encode later = _
          rw [encodeChar_one (by omega), UInt8.ofNat_toNat, ih _ _ _ (by omega) hlater]
          rfl
      · split at h
        · rename_i p hp
          obtain ⟨c, tail, rest, next, later, rfl, hc, hlater, rfl⟩ :=
            encodeChar_of_starts (starts_of_start? hp) h
          rw [List.length_append] at hlength
          show String.utf8EncodeChar c ++ encode later = _
          rw [hc, ih _ _ _ (by omega) hlater]
          rfl
        · cases h

theorem encode_append (cs more : List Char) : encode (cs ++ more) = encode cs ++ encode more :=
  List.flatMap_append

/-- An octet below 0x80 stands for a character on its own. -/
theorem toNat_of_mem_encodeChar {c : Char} (h : b ∈ String.utf8EncodeChar c) (hb : b.toNat < 0x80) :
    c.val.toNat = b.toNat := by
  unfold String.utf8EncodeChar at h
  dsimp only at h
  split_ifs at h with h1 h2 h3
  · rw [List.mem_singleton.1 h, toNat_octet (by omega)]
  all_goals
    -- all octets of a longer sequence are above
    simp only [List.mem_cons, List.not_mem_nil, or_false] at h
    exfalso
  · rcases h with rfl | rfl <;> rw [toNat_octet (by omega)] at hb <;> omega
  · rcases h with rfl | rfl | rfl <;> rw [toNat_octet (by omega)] at hb <;> omega
  · rcases h with rfl | rfl | rfl | rfl <;> rw [toNat_octet (by omega)] at hb <;> omega

theorem eq_of_mem_encodeChar {c d : Char} (hd : d.val.toNat < 0x80)
    (h : UInt8.ofNat d.val.toNat ∈ String.utf8EncodeChar c) : c = d := by
  have hoctet := toNat_octet (n := d.val.toNat) (by omega)
  have hval := toNat_of_mem_encodeChar h (by rwa [hoctet])
  rw [hoctet] at hval
  exact Char.ext (UInt32.toNat_inj.1 hval)

/-- Octets with one kind of line end: a return counts as one, alone and before a line feed. -/
def unifyOctets : List UInt8 → List UInt8
  | [] => []
  | 0x0D :: 0x0A :: rest => 0x0A :: unifyOctets rest
  | 0x0D :: rest => 0x0A :: unifyOctets rest
  | b :: rest => b :: unifyOctets rest

theorem unifyOctets_cons (h : b ≠ 0x0D) (rest : List UInt8) :
    unifyOctets (b :: rest) = b :: unifyOctets rest := by
  rw [unifyOctets]
  · rintro _ rfl
    exact absurd rfl h
  · rintro rfl
    exact absurd rfl h

theorem unifyOctets_append (h : 0x0D ∉ octets) (rest : List UInt8) :
    unifyOctets (octets ++ rest) = octets ++ unifyOctets rest := by
  induction octets with
  | nil => rfl
  | cons b more ih =>
    rw [List.mem_cons, not_or] at h
    rw [List.cons_append, unifyOctets_cons (Ne.symm h.1), ih h.2]
    rfl

theorem unifyOctets_of_not_mem (h : 0x0D ∉ octets) : unifyOctets octets = octets := by
  have happend := unifyOctets_append h []
  rwa [List.append_nil, unifyOctets, List.append_nil] at happend

theorem unifyOctets_no_return (octets : List UInt8) : 0x0D ∉ unifyOctets octets := by
  fun_induction unifyOctets octets <;> simp_all [eq_comm]

/-- Only a line end begins with the octet of a line end. -/
theorem not_start (h : ∀ rest, cs = '\n' :: rest → False) (more : List UInt8) :
    encode cs ≠ 0x0A :: more := by
  intro he
  cases cs with
  | nil => cases he
  | cons c rest =>
    have hlist : String.utf8EncodeChar c ++ encode rest = 0x0A :: more := he
    cases hc : String.utf8EncodeChar c with
    | nil =>
      have hlength := congrArg List.length hc
      rw [String.length_utf8EncodeChar] at hlength
      have hpos := c.utf8Size_pos
      rw [List.length_nil] at hlength
      omega
    | cons b tail =>
      rw [hc] at hlist
      cases hlist
      have hmem : 0x0A ∈ String.utf8EncodeChar c := by
        rw [hc]
        exact List.mem_cons_self
      exact h rest (by rw [eq_of_mem_encodeChar (d := '\n') (by decide) hmem])

/-- Line ends are unified in a text as they are in its octets. -/
theorem encode_unifyLineEnds (cs : List Char) :
    encode (unifyLineEnds cs) = unifyOctets (encode cs) := by
  have hreturn : String.utf8EncodeChar '\r' = [0x0D] := by decide
  have hend : String.utf8EncodeChar '\n' = [0x0A] := by decide
  fun_induction unifyLineEnds cs with
  | case1 => rfl
  | case2 rest ih =>
    show String.utf8EncodeChar '\n' ++ encode (unifyLineEnds rest)
      = unifyOctets (String.utf8EncodeChar '\r' ++ (String.utf8EncodeChar '\n' ++ encode rest))
    rw [hreturn, hend, ih]
    rfl
  | case3 rest hrest ih =>
    show String.utf8EncodeChar '\n' ++ encode (unifyLineEnds rest)
      = unifyOctets (String.utf8EncodeChar '\r' ++ encode rest)
    rw [hreturn, hend, ih, List.singleton_append, List.singleton_append, unifyOctets]
    exact fun more he => not_start hrest more he
  | case4 c rest hboth hc ih =>
    have hno : 0x0D ∉ String.utf8EncodeChar c :=
      fun hmem => hc (eq_of_mem_encodeChar (d := '\r') (by decide) hmem)
    show String.utf8EncodeChar c ++ encode (unifyLineEnds rest)
      = unifyOctets (String.utf8EncodeChar c ++ encode rest)
    rw [unifyOctets_append hno, ih]

end Groundwork.Text.Utf8
