import Mathlib.Data.List.Basic
import Mathlib.Tactic

/-!
# Big-endian numbers

Numbers of a fixed count of bytes, most significant byte first.
-/

namespace Bytes

/-- The low `n` bytes of `v`. -/
def bigEndian : ℕ → ℕ → List UInt8
  | 0, _ => []
  | n + 1, v => UInt8.ofNat (v / 256 ^ n) :: bigEndian n v

/-- The value of a byte string. -/
def ofBigEndian (bs : List UInt8) : ℕ := bs.foldl (fun v b => v * 256 + b.toNat) 0

@[simp] lemma length_bigEndian (n v : ℕ) : (bigEndian n v).length = n := by
  induction n with
  | zero => rfl
  | succ n ih => simp [bigEndian, ih]

lemma foldl_ofBigEndian (bs : List UInt8) (v : ℕ) :
    bs.foldl (fun v b => v * 256 + b.toNat) v = v * 256 ^ bs.length + ofBigEndian bs := by
  induction bs generalizing v with
  | nil => simp [ofBigEndian]
  | cons b bs ih =>
    have h := ih b.toNat
    simp only [ofBigEndian, List.foldl_cons, zero_mul, zero_add] at h ⊢
    rw [h, ih (v * 256 + b.toNat), List.length_cons, pow_succ]
    simp only [ofBigEndian]
    ring

lemma ofBigEndian_cons (b : UInt8) (bs : List UInt8) :
    ofBigEndian (b :: bs) = b.toNat * 256 ^ bs.length + ofBigEndian bs := by
  simpa [ofBigEndian] using foldl_ofBigEndian bs b.toNat

lemma ofBigEndian_lt (bs : List UInt8) : ofBigEndian bs < 256 ^ bs.length := by
  induction bs with
  | nil => decide
  | cons b bs ih =>
    have hb : b.toNat < 256 := b.toNat_lt
    rw [ofBigEndian_cons, List.length_cons, pow_succ]
    nlinarith

/-- The bytes of a number are read back as its low part. -/
lemma ofBigEndian_bigEndian (n v : ℕ) : ofBigEndian (bigEndian n v) = v % 256 ^ n := by
  induction n with
  | zero => simp [bigEndian, ofBigEndian, Nat.mod_one]
  | succ n ih =>
    have hmod : v % 256 ^ (n + 1) = v % 256 ^ n + 256 ^ n * (v / 256 ^ n % 256) := by
      rw [pow_succ, Nat.mod_mul]
    rw [bigEndian, ofBigEndian_cons, ih, length_bigEndian, UInt8.toNat_ofNat', hmod]
    ring

/-- A byte string is written back from its value. -/
lemma bigEndian_ofBigEndian (bs : List UInt8) : bigEndian bs.length (ofBigEndian bs) = bs := by
  suffices h : ∀ n bs (k : ℕ), bs.length = n →
      bigEndian n (k * 256 ^ n + ofBigEndian bs) = bs by simpa using h bs.length bs 0 rfl
  intro n
  induction n with
  | zero =>
    intro bs k h
    rw [List.length_eq_zero_iff] at h
    rw [h, bigEndian]
  | succ n ih =>
    intro bs k h
    obtain ⟨b, bs, rfl⟩ := List.exists_cons_of_length_eq_add_one h
    have hlen : bs.length = n := by simpa using h
    have hlt := ofBigEndian_lt bs
    rw [hlen] at hlt
    have hvalue : k * 256 ^ (n + 1) + ofBigEndian (b :: bs) =
        (k * 256 + b.toNat) * 256 ^ n + ofBigEndian bs := by
      rw [ofBigEndian_cons, hlen, pow_succ]
      ring
    have hdiv : ((k * 256 + b.toNat) * 256 ^ n + ofBigEndian bs) / 256 ^ n =
        k * 256 + b.toNat := by
      rw [mul_comm, Nat.mul_add_div (by positivity), Nat.div_eq_of_lt hlt, add_zero]
    rw [hvalue, bigEndian, hdiv, ih bs _ hlen]
    congr 1
    apply UInt8.toNat_inj.mp
    rw [UInt8.toNat_ofNat']
    have := b.toNat_lt
    omega

/-- The value of a string whose bytes are combined by exclusive or. -/
lemma ofBigEndian_zipWith_xor {as bs : List UInt8} (h : as.length = bs.length) :
    ofBigEndian (List.zipWith (· ^^^ ·) as bs) = ofBigEndian as ^^^ ofBigEndian bs := by
  induction as generalizing bs with
  | nil =>
    obtain rfl := List.length_eq_zero_iff.mp h.symm
    rfl
  | cons a as ih =>
    obtain ⟨b, bs, rfl⟩ := List.exists_cons_of_length_eq_add_one h.symm
    have hlen : as.length = bs.length := by simpa using h
    have hpow : 256 ^ as.length = 2 ^ (8 * as.length) := by rw [pow_mul]; rfl
    have hzip : (List.zipWith (· ^^^ ·) as bs).length = as.length := by simp [hlen]
    have ha := ofBigEndian_lt as
    have hb := ofBigEndian_lt bs
    have hz := ofBigEndian_lt (List.zipWith (· ^^^ ·) as bs)
    rw [← hlen, hpow] at hb
    rw [hzip, hpow, ih hlen] at hz
    rw [hpow] at ha
    rw [List.zipWith_cons_cons, ofBigEndian_cons, ofBigEndian_cons, ofBigEndian_cons, hzip, ← hlen,
      hpow, UInt8.toNat_xor, ih hlen]
    apply Nat.eq_of_testBit_eq
    intro i
    simp only [mul_comm _ (2 ^ (8 * as.length)), Nat.testBit_xor,
      Nat.testBit_two_pow_mul_add _ ha, Nat.testBit_two_pow_mul_add _ hb,
      Nat.testBit_two_pow_mul_add _ hz]
    split_ifs <;> rfl

end Bytes
