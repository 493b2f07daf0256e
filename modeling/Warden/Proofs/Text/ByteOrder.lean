import Mathlib.Algebra.Group.Nat.Defs
import Mathlib.Data.List.Lex
import Mathlib.Tactic.SplitIfs
import Warden.Text.Bytes

namespace Warden.Text

/-- The bytes after the first one of a character, each with six bits of its code. -/
def continuation : Nat → Nat → List UInt8
  | 0, _ => []
  | n + 1, code => continuation n (code / 64) ++ [UInt8.ofNat (code % 64 + 128)]

def leadMark : Nat → Nat
  | 0 => 0
  | 1 => 192
  | 2 => 224
  | _ => 240

def tailLength (code : Nat) : Nat :=
  if code ≤ 127 then 0 else if code ≤ 2047 then 1 else if code ≤ 65535 then 2 else 3

def firstByte (code : Nat) : Nat := code / 64 ^ tailLength code + leadMark (tailLength code)

theorem toNat_lt (c : Char) : c.toNat < 1114112 := by
  rcases c.valid with h | ⟨-, h⟩
  · exact Nat.lt_trans h (by decide)
  · exact h

theorem firstByte_lt {code : Nat} (h : code < 1114112) : firstByte code < 256 := by
  unfold firstByte tailLength leadMark
  split_ifs <;> simp <;> omega

theorem encodeChar_eq (c : Char) :
    String.utf8EncodeChar c =
      UInt8.ofNat (firstByte c.toNat) :: continuation (tailLength c.toNat) c.toNat := by
  have hcode : c.toNat < 1114112 := toNat_lt c
  unfold String.utf8EncodeChar firstByte tailLength
  rw [Char.toNat_val]
  generalize c.toNat = code at hcode
  dsimp only
  split
  · simp [continuation, leadMark]
  · split
    · have htop : code / 64 % 32 = code / 64 := by omega
      simp [continuation, leadMark, htop]
    · split
      · have htop : code / 4096 % 16 = code / 4096 := by omega
        simp [continuation, leadMark, htop]
      · have htop : code / 262144 % 8 = code / 262144 := by omega
        simp [continuation, leadMark, htop, Nat.div_div_eq_div_mul]

theorem ofNat_lt_ofNat {m n : Nat} (h : m < n) (hn : n < 256) : UInt8.ofNat m < UInt8.ofNat n := by
  rw [UInt8.lt_iff_toNat_lt, UInt8.toNat_ofNat_of_lt' hn,
    UInt8.toNat_ofNat_of_lt' (Nat.lt_trans h hn)]
  exact h

theorem continuation_lt {n code code' : Nat} (h : code < code')
    (htop : code / 64 ^ n = code' / 64 ^ n) (x y : List UInt8) :
    continuation n code ++ x < continuation n code' ++ y := by
  induction n generalizing code code' x y with
  | zero => simp at htop; omega
  | succ n ih =>
    rw [continuation, continuation, List.append_assoc, List.append_assoc]
    by_cases hhigh : code / 64 = code' / 64
    -- Only the last six bits differ.
    · have hlow : code % 64 + 128 < code' % 64 + 128 := by omega
      rw [hhigh]
      apply List.append_left_lt
      exact List.cons_lt_cons_iff.2 (.inl (ofNat_lt_ofNat hlow (by omega)))
    · have hdiv : code / 64 < code' / 64 := by omega
      apply ih hdiv
      rw [Nat.div_div_eq_div_mul, Nat.div_div_eq_div_mul, ← Nat.pow_succ']
      exact htop

theorem firstByte_lt_or {code code' : Nat} (h : code < code') (hcode : code' < 1114112) :
    firstByte code < firstByte code' ∨ tailLength code = tailLength code' ∧
      code / 64 ^ tailLength code = code' / 64 ^ tailLength code := by
  unfold firstByte tailLength leadMark
  split_ifs <;> simp <;> omega

theorem encodeChar_lt {c d : Char} (h : c < d) (x y : List UInt8) :
    String.utf8EncodeChar c ++ x < String.utf8EncodeChar d ++ y := by
  have hcode : c.toNat < d.toNat := UInt32.lt_iff_toNat_lt.1 h
  rw [encodeChar_eq, encodeChar_eq, List.cons_append, List.cons_append, List.cons_lt_cons_iff]
  rcases firstByte_lt_or hcode (toNat_lt d) with hhead | ⟨hlength, htop⟩
  · exact .inl (ofNat_lt_ofNat hhead (firstByte_lt (toNat_lt d)))
  · right
    have hhead : firstByte c.toNat = firstByte d.toNat := by rw [firstByte, htop, hlength, ← firstByte]
    refine ⟨by rw [hhead], ?_⟩
    rw [← hlength]
    exact continuation_lt hcode htop x y

theorem bytes_eq (text : String) : bytes text = text.toList.flatMap String.utf8EncodeChar := by
  have hutf8 : (String.ofList text.toList).toByteArray =
      (text.toList.flatMap String.utf8EncodeChar).toByteArray := String.toByteArray_ofList
  rw [String.ofList_toList] at hutf8
  rw [bytes, String.toUTF8_eq_toByteArray, hutf8]
  simp

theorem bytes_lt {a b : String} (h : a < b) : bytes a < bytes b := by
  rw [bytes_eq, bytes_eq]
  replace h : a.toList < b.toList := h
  generalize a.toList = cs at h
  generalize b.toList = ds at h
  -- The first characters that differ decide, and up to them the bytes are the same.
  induction cs generalizing ds with
  | nil =>
    cases ds with
    | nil => cases h
    | cons d ds =>
      rw [List.flatMap_nil, List.flatMap_cons, encodeChar_eq]
      exact List.Lex.nil
  | cons c cs ih =>
    cases ds with
    | nil => cases h
    | cons d ds =>
      rw [List.flatMap_cons, List.flatMap_cons]
      rcases List.cons_lt_cons_iff.1 h with hlt | ⟨rfl, hrest⟩
      · exact encodeChar_lt hlt _ _
      · exact List.append_left_lt (ih ds hrest)

end Warden.Text
