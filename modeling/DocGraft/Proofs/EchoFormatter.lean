import DocGraft.Formatter
import Mathlib.Tactic.Common

/-!
# A formatter that changes nothing

What is encoded is decoded to the same text, so a process that writes what it reads is a formatter
that returns its input.
-/

namespace DocGraft

namespace Utf8

lemma toNat_toUInt8 {n : Nat} (h : n < 256) : n.toUInt8.toNat = n := UInt8.toNat_ofNat_of_lt' h

lemma tail_cons {n low high : Nat} (hlow : low ≤ n) (hhigh : n ≤ high) (h : high < 256)
    (more code taken : Nat) (rest : List UInt8) :
    tail (more + 1) code low high taken (n.toUInt8 :: rest) =
      tail more (code * 64 + (n - 0x80)) 0x80 0xBF (taken + 1) rest := by
  have hn : n.toUInt8.toNat = n := toNat_toUInt8 (by omega)
  rw [tail, hn, if_pos (by simp [hlow, hhigh])]

lemma lead?_two {n : Nat} (h : 0x80 ≤ n) (h' : n < 0x800) :
    lead? (0xC0 + n / 64).toUInt8 = some ⟨1, n / 64, 0x80, 0xBF⟩ := by
  unfold lead?
  simp only [toNat_toUInt8 (show 0xC0 + n / 64 < 256 by omega)]
  rw [if_neg (by omega), if_neg (by omega), if_pos (by omega), Nat.add_sub_cancel_left]

lemma lead?_three {n : Nat} (h : 0x800 ≤ n) (h' : n < 0x10000) (hvalid : n < 0xD800 ∨ 0xDFFF < n) :
    ∃ low high, lead? (0xE0 + n / 4096).toUInt8 = some ⟨2, n / 4096, low, high⟩ ∧
      low ≤ 0x80 + n / 64 % 64 ∧ 0x80 + n / 64 % 64 ≤ high ∧ high < 256 := by
  unfold lead?
  simp only [toNat_toUInt8 (show 0xE0 + n / 4096 < 256 by omega)]
  rw [if_neg (by omega), if_neg (by omega), if_neg (by omega)]
  by_cases h0 : 0xE0 + n / 4096 = 0xE0
  · rw [if_pos h0]
    refine ⟨0xA0, 0xBF, ?_, by omega, by omega, by omega⟩
    rw [show n / 4096 = 0 by omega]
  · rw [if_neg h0]
    by_cases hD : 0xE0 + n / 4096 = 0xED
    · rw [if_pos hD]
      refine ⟨0x80, 0x9F, ?_, by omega, by omega, by omega⟩
      rw [show n / 4096 = 0xD by omega]
    · rw [if_neg hD, if_pos (by omega), Nat.add_sub_cancel_left]
      exact ⟨0x80, 0xBF, rfl, by omega, by omega, by omega⟩

lemma lead?_four {n : Nat} (h : 0x10000 ≤ n) (h' : n < 0x110000) :
    ∃ low high, lead? (0xF0 + n / 262144).toUInt8 = some ⟨3, n / 262144, low, high⟩ ∧
      low ≤ 0x80 + n / 4096 % 64 ∧ 0x80 + n / 4096 % 64 ≤ high ∧ high < 256 := by
  unfold lead?
  simp only [toNat_toUInt8 (show 0xF0 + n / 262144 < 256 by omega)]
  rw [if_neg (by omega), if_neg (by omega), if_neg (by omega), if_neg (by omega),
    if_neg (by omega), if_neg (by omega)]
  by_cases h0 : 0xF0 + n / 262144 = 0xF0
  · rw [if_pos h0]
    refine ⟨0x90, 0xBF, ?_, by omega, by omega, by omega⟩
    rw [show n / 262144 = 0 by omega]
  · rw [if_neg h0]
    by_cases h4 : 0xF0 + n / 262144 < 0xF4
    · rw [if_pos h4, Nat.add_sub_cancel_left]
      exact ⟨0x80, 0xBF, rfl, by omega, by omega, by omega⟩
    · rw [if_neg h4, if_pos (by omega)]
      refine ⟨0x80, 0x8F, ?_, by omega, by omega, by omega⟩
      rw [show n / 262144 = 4 by omega]

lemma toNat_valid (c : Char) : c.toNat < 0xD800 ∨ 0xDFFF < c.toNat ∧ c.toNat < 0x110000 := c.valid

/-- The bytes of a character are read as that character. -/
lemma step_encodeChar (c : Char) (rest : List UInt8) :
    ∃ b bytes length, encodeChar c = b :: bytes ∧
      step b (bytes ++ rest) = .char c length rest := by
  have hvalid := toNat_valid c
  have hchar : Char.ofNat c.toNat = c := Char.ofNat_toNat c
  generalize hn : c.toNat = n at hvalid hchar
  unfold encodeChar
  simp only [hn]
  by_cases h1 : n < 0x80
  · refine ⟨n.toUInt8, [], 1, by rw [if_pos h1], ?_⟩
    have hlead : lead? n.toUInt8 = some ⟨0, n, 0x80, 0xBF⟩ := by
      unfold lead?
      simp only [toNat_toUInt8 (show n < 256 by omega)]
      rw [if_pos h1]
    rw [step, hlead]
    simp only [tail, List.nil_append, hchar]
  rw [if_neg h1]
  by_cases h2 : n < 0x800
  · refine ⟨_, _, 2, by rw [if_pos h2], ?_⟩
    rw [step, lead?_two (by omega) h2]
    simp only [List.cons_append, List.nil_append]
    rw [tail_cons (by omega) (by omega) (by omega), tail, Nat.add_sub_cancel_left,
      show n / 64 * 64 + n % 64 = n by omega]
    simp only [hchar]
  rw [if_neg h2]
  by_cases h3 : n < 0x10000
  · refine ⟨_, _, 3, by rw [if_pos h3], ?_⟩
    obtain ⟨low, high, hlead, hlow, hhigh, hlt⟩ := lead?_three (n := n) (by omega) h3 (by omega)
    rw [step, hlead]
    simp only [List.cons_append, List.nil_append]
    rw [tail_cons hlow hhigh hlt, tail_cons (by omega) (by omega) (by omega), tail,
      Nat.add_sub_cancel_left, Nat.add_sub_cancel_left,
      show (n / 4096 * 64 + n / 64 % 64) * 64 + n % 64 = n by omega]
    simp only [hchar]
  · refine ⟨_, _, 4, by rw [if_neg h3], ?_⟩
    obtain ⟨low, high, hlead, hlow, hhigh, hlt⟩ := lead?_four (n := n) (by omega) (by omega)
    rw [step, hlead]
    simp only [List.cons_append, List.nil_append]
    rw [tail_cons hlow hhigh hlt, tail_cons (by omega) (by omega) (by omega),
      tail_cons (by omega) (by omega) (by omega), tail, Nat.add_sub_cancel_left,
      Nat.add_sub_cancel_left, Nat.add_sub_cancel_left,
      show ((n / 262144 * 64 + n / 4096 % 64) * 64 + n / 64 % 64) * 64 + n % 64 = n by omega]
    simp only [hchar]

lemma decodeFrom_encode (position : Nat) (t : Text) : decodeFrom position (encode t) = .ok t := by
  induction t generalizing position with
  | nil => rw [encode, List.flatMap_nil, decodeFrom]
  | cons c t ih =>
    obtain ⟨b, bytes, length, hbytes, hstep⟩ := step_encodeChar c (encode t)
    have hcons : encode (c :: t) = b :: (bytes ++ encode t) := by
      rw [encode, List.flatMap_cons, hbytes, List.cons_append]
      rfl
    rw [hcons, decodeFrom]
    split
    · next d n rest he =>
      rw [hstep] at he
      obtain ⟨rfl, rfl, rfl⟩ := Step.char.inj he
      rw [ih]
    · next n cause rest he =>
      rw [hstep] at he
      exact absurd he (by simp)

lemma decode_encode (t : Text) : decode (encode t) = .ok t := decodeFrom_encode 0 t

end Utf8

namespace Formatter

/-- The process that writes what it reads. -/
def echo : Runner := fun t => .finished 0 (Utf8.encode t) []

lemma format_echo (t : Text) : format echo t = .ok t := by
  rw [format, echo, read, if_neg (by simp), Utf8.decode_encode]

end Formatter

end DocGraft
