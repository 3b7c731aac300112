import CommandShell.Proofs.TextBytes
import Mathlib.Data.String.Basic
import Mathlib.Tactic.SplitIfs

/-!
# The order of texts

Texts are compared by their characters. The bytes of a character are its first byte and up to three
more with six bits each, and since the first bytes of longer characters are greater, the order of
characters is that of their bytes. Main statement: a text comes before another one exactly if its
bytes come before those of the other one (`utf8_lt_utf8_iff`).
-/

namespace CommandShell

/-- The first bytes decide, or the bytes behind them if these are the same. -/
theorem ofNat_cons_lt_iff {m n : Nat} (hm : m < 256) (hn : n < 256) (bytes others : Bytes) :
    UInt8.ofNat m :: bytes < UInt8.ofNat n :: others ↔ m < n ∨ m = n ∧ bytes < others := by
  rw [List.cons_lt_cons_iff, UInt8.lt_iff_toNat_lt, ← UInt8.toNat_inj, UInt8.toNat_ofNat',
    UInt8.toNat_ofNat', Nat.mod_eq_of_lt hm, Nat.mod_eq_of_lt hn]

/-- The first byte of a character. -/
def leadingByte (code : Nat) : Nat :=
  if code ≤ 127 then code
  else if code ≤ 2047 then code / 64 ^ 1 + 192
  else if code ≤ 65535 then code / 64 ^ 2 + 224
  else code / 64 ^ 3 + 240

/-- How many bytes follow the first one of a character. -/
def trailingCount (code : Nat) : Nat :=
  if code ≤ 127 then 0 else if code ≤ 2047 then 1 else if code ≤ 65535 then 2 else 3

/-- The bytes behind the first one of a character, six bits in each. -/
def trailingBytes (code : Nat) : Nat → Bytes
  | 0 => []
  | count + 1 => UInt8.ofNat (code / 64 ^ count % 64 + 128) :: trailingBytes code count

theorem toNat_lt_maxCode (c : Char) : c.val.toNat < 1114112 := by
  rcases c.valid with h | ⟨-, h⟩
  · exact Nat.lt_trans h (by decide)
  · exact h

/-- A character is its first byte and those behind it. -/
theorem utf8EncodeChar_eq (c : Char) :
    String.utf8EncodeChar c = UInt8.ofNat (leadingByte c.val.toNat) ::
      trailingBytes c.val.toNat (trailingCount c.val.toNat) := by
  have hmax := toNat_lt_maxCode c
  simp only [String.utf8EncodeChar, leadingByte, trailingCount]
  generalize c.val.toNat = code at hmax
  split
  · rfl
  · split
    · have hlead : code / 64 % 32 = code / 64 := by omega
      simp [trailingBytes, hlead]
    · split
      · have hlead : code / 4096 % 16 = code / 4096 := by omega
        simp [trailingBytes, hlead]
      · have hlead : code / 262144 % 8 = code / 262144 := by omega
        simp [trailingBytes, hlead]

theorem leadingByte_lt {code : Nat} (h : code < 1114112) : leadingByte code < 256 := by
  unfold leadingByte
  split_ifs <;> omega

/-- A greater number has a greater first byte, or else the same one and as many bytes behind it,
and then the bits in these are greater. -/
theorem leadingByte_lt_or {m n : Nat} (h : m < n) (hmax : n < 1114112) :
    leadingByte m < leadingByte n ∨ leadingByte m = leadingByte n ∧
      trailingCount m = trailingCount n ∧
        m % 64 ^ trailingCount m < n % 64 ^ trailingCount n := by
  unfold leadingByte trailingCount
  split_ifs <;> omega

theorem trailingBytes_append_lt {m n count : Nat} (h : m % 64 ^ count < n % 64 ^ count)
    (bytes others : Bytes) :
    trailingBytes m count ++ bytes < trailingBytes n count ++ others := by
  induction count with
  | zero => simp [Nat.mod_one] at h
  | succ count ih =>
    have hbyte (code : Nat) : code / 64 ^ count % 64 + 128 < 256 := by omega
    rw [trailingBytes, trailingBytes, List.cons_append, List.cons_append,
      ofNat_cons_lt_iff (hbyte m) (hbyte n)]
    rw [Nat.pow_succ, Nat.mod_mul, Nat.mod_mul] at h
    rcases Nat.lt_trichotomy (m / 64 ^ count % 64) (n / 64 ^ count % 64) with hlt | heq | hgt
    · exact .inl (by omega)
    · rw [heq] at h
      exact .inr ⟨by omega, ih (by omega)⟩
    · -- six bits that are greater outweigh all that is behind them
      have hpow : 0 < 64 ^ count := Nat.pow_pos (by decide)
      have hrest := Nat.mod_lt n hpow
      have hstep := Nat.mul_le_mul_left (64 ^ count) (Nat.succ_le_of_lt hgt)
      rw [Nat.mul_succ] at hstep
      omega

/-- The bytes of a smaller character come first, whatever follows. -/
theorem utf8EncodeChar_append_lt {c d : Char} (h : c < d) (bytes others : Bytes) :
    String.utf8EncodeChar c ++ bytes < String.utf8EncodeChar d ++ others := by
  have hcode : c.val.toNat < d.val.toNat := h
  rw [utf8EncodeChar_eq, utf8EncodeChar_eq, List.cons_append, List.cons_append,
    ofNat_cons_lt_iff (leadingByte_lt (toNat_lt_maxCode c)) (leadingByte_lt (toNat_lt_maxCode d))]
  rcases leadingByte_lt_or hcode (toNat_lt_maxCode d) with hlt | ⟨heq, hcount, hlt⟩
  · exact .inl hlt
  · rw [hcount] at hlt ⊢
    exact .inr ⟨heq, trailingBytes_append_lt hlt bytes others⟩

theorem flatMap_utf8EncodeChar_lt {cs ds : List Char} (h : cs < ds) :
    cs.flatMap String.utf8EncodeChar < ds.flatMap String.utf8EncodeChar := by
  induction h with
  | @nil d ds =>
    rw [List.flatMap_nil, List.flatMap_cons, utf8EncodeChar_eq]
    exact .nil
  | @rel c cs d ds hlt =>
    rw [List.flatMap_cons, List.flatMap_cons]
    exact utf8EncodeChar_append_lt hlt _ _
  | @cons c cs ds _ ih =>
    rw [List.flatMap_cons, List.flatMap_cons]
    exact List.append_left_lt ih

/-- The order of texts is that of their bytes. -/
theorem utf8_lt_utf8_iff {text other : String} : utf8 text < utf8 other ↔ text < other := by
  have hmono {text other : String} (h : text < other) : utf8 text < utf8 other := by
    rw [utf8_eq, utf8_eq]
    exact flatMap_utf8EncodeChar_lt (String.lt_iff_toList_lt.mp h)
  constructor
  · intro hbytes
    rcases lt_trichotomy text other with hlt | rfl | hgt
    · exact hlt
    · exact absurd hbytes (List.lt_irrefl _)
    · exact absurd (hmono hgt) (List.lt_asymm hbytes)
  · exact hmono

end CommandShell
