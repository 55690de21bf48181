import Groundwork.Text.Utf8

/-!
# Text survives being written and read

What was encoded is decoded to the same characters. The decoder is taken through the octets of one
character at a time; the bounds that it sets for the second octet are met because a character is
no surrogate and is written as briefly as possible.
-/

namespace Groundwork.Text.Utf8

variable {position v : Nat} {b : UInt8} {rest : List UInt8} {p : Pending}

theorem toNat_octet {n : Nat} (h : n < 256) : (UInt8.ofNat n).toNat = n := by
  rw [UInt8.toNat_ofNat']
  omega

theorem decodeFrom_start (h : 0x80 ≤ b.toNat) (hs : Pending.start? position b = some p) :
    decodeFrom position none (b :: rest) = decodeFrom (position + 1) (some p) rest := by
  rw [decodeFrom, if_neg (by omega), hs]

theorem decodeFrom_continue (hlow : p.low ≤ b.toNat) (hhigh : b.toNat ≤ p.high)
    (ho : 1 < p.owed) :
    decodeFrom position (some p) (b :: rest) = decodeFrom (position + 1)
      (some ⟨p.first, p.octet, p.owed - 1, 0x80, 0xBF, 64 * p.bits + (b.toNat - 0x80)⟩) rest := by
  rw [decodeFrom, if_pos ⟨hlow, hhigh⟩]
  exact if_neg (by omega)

theorem decodeFrom_finish (hlow : p.low ≤ b.toNat) (hhigh : b.toNat ≤ p.high) (ho : p.owed = 1) :
    decodeFrom position (some p) (b :: rest) =
      (decodeFrom (position + 1) none rest).map
        (Char.ofNat (64 * p.bits + (b.toNat - 0x80)) :: ·) := by
  rw [decodeFrom, if_pos ⟨hlow, hhigh⟩]
  exact if_pos (by omega)

theorem start?_two (position : Nat) (hmin : 0x80 ≤ v) (hmax : v ≤ 0x7FF) :
    Pending.start? position (UInt8.ofNat (v / 64 % 0x20 + 0xC0)) =
      some ⟨position, UInt8.ofNat (v / 64 % 0x20 + 0xC0), 1, 0x80, 0xBF, v / 64⟩ := by
  have hfirst : v / 64 % 0x20 = v / 64 := by omega
  unfold Pending.start?
  rw [toNat_octet (by omega), hfirst]
  dsimp only
  rw [if_pos (by omega), Nat.add_sub_cancel]

theorem start?_three (position : Nat) (hmin : 0x800 ≤ v) (hmax : v ≤ 0xFFFF) (hv : v < 0xD800 ∨ 0xDFFF < v) :
    ∃ low high, low ≤ v / 64 % 0x40 + 0x80 ∧ v / 64 % 0x40 + 0x80 ≤ high ∧
      Pending.start? position (UInt8.ofNat (v / 4096 % 0x10 + 0xE0)) =
        some ⟨position, UInt8.ofNat (v / 4096 % 0x10 + 0xE0), 2, low, high, v / 4096⟩ := by
  have hfirst : v / 4096 % 0x10 = v / 4096 := by omega
  unfold Pending.start?
  rw [toNat_octet (by omega), hfirst]
  dsimp only
  rw [if_neg (by omega)]
  by_cases h0 : v / 4096 = 0
  · rw [if_pos (by omega)]
    exact ⟨0xA0, 0xBF, by omega, by omega, by rw [h0]⟩
  · rw [if_neg (by omega)]
    by_cases hd : v / 4096 = 0xD
    · rw [if_pos (by omega)]
      exact ⟨0x80, 0x9F, by omega, by omega, by rw [hd]⟩
    · rw [if_neg (by omega), if_pos (by omega)]
      exact ⟨0x80, 0xBF, by omega, by omega, by rw [Nat.add_sub_cancel]⟩

theorem start?_four (position : Nat) (hmin : 0x10000 ≤ v) (hmax : v < 0x110000) :
    ∃ low high, low ≤ v / 4096 % 0x40 + 0x80 ∧ v / 4096 % 0x40 + 0x80 ≤ high ∧
      Pending.start? position (UInt8.ofNat (v / 262144 % 0x08 + 0xF0)) =
        some ⟨position, UInt8.ofNat (v / 262144 % 0x08 + 0xF0), 3, low, high, v / 262144⟩ := by
  have hfirst : v / 262144 % 0x08 = v / 262144 := by omega
  unfold Pending.start?
  rw [toNat_octet (by omega), hfirst]
  dsimp only
  rw [if_neg (by omega), if_neg (by omega), if_neg (by omega), if_neg (by omega)]
  by_cases h0 : v / 262144 = 0
  · rw [if_pos (by omega)]
    exact ⟨0x90, 0xBF, by omega, by omega, by rw [h0]⟩
  · rw [if_neg (by omega)]
    by_cases h4 : v / 262144 = 4
    · rw [if_neg (by omega), if_pos (by omega)]
      exact ⟨0x80, 0x8F, by omega, by omega, by rw [h4]⟩
    · rw [if_pos (by omega)]
      exact ⟨0x80, 0xBF, by omega, by omega, by rw [Nat.add_sub_cancel]⟩

theorem decodeFrom_two (hmin : 0x80 ≤ v) (hmax : v ≤ 0x7FF) :
    decodeFrom position none
        (UInt8.ofNat (v / 64 % 0x20 + 0xC0) :: UInt8.ofNat (v % 0x40 + 0x80) :: rest) =
      (decodeFrom (position + 2) none rest).map (Char.ofNat v :: ·) := by
  have hlast : (UInt8.ofNat (v % 0x40 + 0x80)).toNat = v % 0x40 + 0x80 := toNat_octet (by omega)
  have hbits : 64 * (v / 64) + (v % 0x40 + 0x80 - 0x80) = v := by omega
  rw [decodeFrom_start (by rw [toNat_octet] <;> omega) (start?_two position hmin hmax),
    decodeFrom_finish (by rw [hlast]; dsimp only; omega) (by rw [hlast]; dsimp only; omega) rfl,
    hlast, hbits]

theorem decodeFrom_three (hmin : 0x800 ≤ v) (hmax : v ≤ 0xFFFF) (hv : v < 0xD800 ∨ 0xDFFF < v) :
    decodeFrom position none
        (UInt8.ofNat (v / 4096 % 0x10 + 0xE0) :: UInt8.ofNat (v / 64 % 0x40 + 0x80) ::
          UInt8.ofNat (v % 0x40 + 0x80) :: rest) =
      (decodeFrom (position + 3) none rest).map (Char.ofNat v :: ·) := by
  obtain ⟨low, high, hlow, hhigh, hstart⟩ := start?_three position hmin hmax hv
  have hmid : (UInt8.ofNat (v / 64 % 0x40 + 0x80)).toNat = v / 64 % 0x40 + 0x80 :=
    toNat_octet (by omega)
  have hlast : (UInt8.ofNat (v % 0x40 + 0x80)).toNat = v % 0x40 + 0x80 := toNat_octet (by omega)
  have hbits : 64 * (64 * (v / 4096) + (v / 64 % 0x40 + 0x80 - 0x80)) + (v % 0x40 + 0x80 - 0x80)
      = v := by omega
  rw [decodeFrom_start (by rw [toNat_octet] <;> omega) hstart,
    decodeFrom_continue (by rwa [hmid]) (by rwa [hmid]) (by dsimp only; omega),
    decodeFrom_finish (by rw [hlast]; dsimp only; omega) (by rw [hlast]; dsimp only; omega) rfl,
    hmid, hlast, hbits]

theorem decodeFrom_four (hmin : 0x10000 ≤ v) (hmax : v < 0x110000) :
    decodeFrom position none
        (UInt8.ofNat (v / 262144 % 0x08 + 0xF0) :: UInt8.ofNat (v / 4096 % 0x40 + 0x80) ::
          UInt8.ofNat (v / 64 % 0x40 + 0x80) :: UInt8.ofNat (v % 0x40 + 0x80) :: rest) =
      (decodeFrom (position + 4) none rest).map (Char.ofNat v :: ·) := by
  obtain ⟨low, high, hlow, hhigh, hstart⟩ := start?_four position hmin hmax
  have hsecond : (UInt8.ofNat (v / 4096 % 0x40 + 0x80)).toNat = v / 4096 % 0x40 + 0x80 :=
    toNat_octet (by omega)
  have hthird : (UInt8.ofNat (v / 64 % 0x40 + 0x80)).toNat = v / 64 % 0x40 + 0x80 :=
    toNat_octet (by omega)
  have hlast : (UInt8.ofNat (v % 0x40 + 0x80)).toNat = v % 0x40 + 0x80 := toNat_octet (by omega)
  have hbits : 64 * (64 * (64 * (v / 262144) + (v / 4096 % 0x40 + 0x80 - 0x80))
      + (v / 64 % 0x40 + 0x80 - 0x80)) + (v % 0x40 + 0x80 - 0x80) = v := by omega
  rw [decodeFrom_start (by rw [toNat_octet] <;> omega) hstart,
    decodeFrom_continue (by rwa [hsecond]) (by rwa [hsecond]) (by dsimp only; omega),
    decodeFrom_continue (by rw [hthird]; dsimp only; omega) (by rw [hthird]; dsimp only; omega)
      (by dsimp only; omega),
    decodeFrom_finish (by rw [hlast]; dsimp only; omega) (by rw [hlast]; dsimp only; omega) rfl,
    hsecond, hthird, hlast, hbits]

/-- The octets of one character give that character. -/
theorem decodeFrom_encodeChar (position : Nat) (c : Char) (rest : List UInt8) :
    ∃ next, decodeFrom position none (String.utf8EncodeChar c ++ rest) =
      (decodeFrom next none rest).map (c :: ·) := by
  have hvalid : c.val.toNat < 0xD800 ∨ 0xDFFF < c.val.toNat ∧ c.val.toNat < 0x110000 := c.valid
  have hback : Char.ofNat c.val.toNat = c := Char.ofNat_toNat c
  unfold String.utf8EncodeChar
  dsimp only
  by_cases h1 : c.val.toNat ≤ 0x7F
  · refine ⟨position + 1, ?_⟩
    rw [if_pos h1, List.singleton_append, decodeFrom, toNat_octet (by omega), if_pos (by omega),
      hback]
  rw [if_neg h1]
  by_cases h2 : c.val.toNat ≤ 0x7FF
  · refine ⟨position + 2, ?_⟩
    rw [if_pos h2]
    exact (decodeFrom_two (by omega) h2).trans (by rw [hback]; rfl)
  rw [if_neg h2]
  by_cases h3 : c.val.toNat ≤ 0xFFFF
  · refine ⟨position + 3, ?_⟩
    rw [if_pos h3]
    exact (decodeFrom_three (by omega) h3 (by omega)).trans (by rw [hback]; rfl)
  · refine ⟨position + 4, ?_⟩
    rw [if_neg h3]
    exact (decodeFrom_four (by omega) (by omega)).trans (by rw [hback]; rfl)

/-- What was encoded is decoded. -/
theorem decode_encode (cs : List Char) : decode (encode cs) = .ok cs := by
  suffices h : ∀ position, decodeFrom position none (encode cs) = .ok cs from h 0
  induction cs with
  | nil => intro position; rfl
  | cons c rest ih =>
    intro position
    show decodeFrom position none (String.utf8EncodeChar c ++ encode rest) = _
    obtain ⟨next, h⟩ := decodeFrom_encodeChar position c (encode rest)
    rw [h, ih next]
    rfl

end Groundwork.Text.Utf8
