import IndexWatch.Http.Response
import IndexWatch.Proofs.Text.Utf8

/-! # Numbers on the wire

A number is written by the characters of its digits, each of which is one byte. The readers of
decimal and hexadecimal numbers take up one digit after the other, so they are followed along the
digits. -/

namespace IndexWatch.Http

theorem ascii_append (s t : String) : ascii (s ++ t) = ascii s ++ ascii t := by
  simp only [ascii, Text.Utf8.toList_toUTF8, String.toList_append, List.flatMap_append]

theorem ascii_ofList (cs : List Char) :
    ascii (String.ofList cs) = cs.flatMap String.utf8EncodeChar := by
  rw [ascii, Text.Utf8.toList_toUTF8, String.toList_ofList]

/-- The digits of a number. -/
def numeral (base n : Nat) : Bytes := ascii (String.ofList (Nat.toDigits base n))

theorem hexText_eq_numeral (n : Nat) : hexText n = numeral 16 n := rfl

theorem ascii_toString (n : Nat) : ascii (toString n) = numeral 10 n := by
  rw [Nat.toString_eq_ofList_toDigits, numeral]

def digitByte (d : Nat) : UInt8 := .ofNat (Nat.digitChar d).toNat

theorem encode_digitChar : ∀ d < 16, String.utf8EncodeChar (Nat.digitChar d) = [digitByte d] := by
  decide

section
variable {base : Nat} (hone : 1 < base) (hbase : base ≤ 16)
include hone hbase

theorem numeral_eq (n : Nat) :
    numeral base n =
      (if n < base then [] else numeral base (n / base)) ++ [digitByte (n % base)] := by
  have hdigit : String.utf8EncodeChar (Nat.digitChar (n % base)) = [digitByte (n % base)] :=
    encode_digitChar _ (Nat.lt_of_lt_of_le (Nat.mod_lt n (by omega)) hbase)
  simp only [numeral, ascii_ofList]
  rw [Nat.toDigits_eq_if hone]
  split
  · next h =>
    rw [Nat.mod_eq_of_lt h] at hdigit
    simp [hdigit, Nat.mod_eq_of_lt h]
  · simp [hdigit]

theorem numeral_ne_nil (n : Nat) : numeral base n ≠ [] := by
  rw [numeral_eq hone hbase]
  exact List.append_ne_nil_of_right_ne_nil _ (List.cons_ne_nil _ _)

/-- Whatever holds of the digits holds of the bytes of a number. -/
theorem forall_mem_numeral {p : UInt8 → Prop} (h : ∀ d < base, p (digitByte d)) (n : Nat) :
    ∀ b ∈ numeral base n, p b := by
  induction n using Nat.strongRecOn with
  | ind n ih =>
    have hlast : p (digitByte (n % base)) := h _ (Nat.mod_lt n (by omega))
    intro b hb
    rw [numeral_eq hone hbase, List.mem_append, List.mem_singleton] at hb
    rcases hb with hb | rfl
    · split at hb
      · contradiction
      · exact ih (n / base) (Nat.div_lt_self (by omega) hone) b hb
    · exact hlast

end

theorem decimalOf_numeral (n : Nat) : decimalOf (numeral 10 n) = n := by
  have hdigit : ∀ d < 10, (digitByte d).toNat - 0x30 = d := by decide
  induction n using Nat.strongRecOn with
  | ind n ih =>
    have hlast := hdigit (n % 10) (Nat.mod_lt n (by decide))
    rw [numeral_eq (by decide) (by decide), decimalOf, List.foldl_append]
    change 10 * decimalOf _ + ((digitByte (n % 10)).toNat - 0x30) = n
    rw [hlast]
    split
    · change 10 * 0 + n % 10 = n
      omega
    · rw [ih (n / 10) (by omega)]
      omega

theorem all_isDigitByte_numeral (n : Nat) : (numeral 10 n).all isDigitByte = true :=
  List.all_eq_true.mpr (forall_mem_numeral (by decide) (by decide) (by decide) n)

/-- A status code has three digits. -/
theorem length_numeral_of_status {n : Nat} (hlow : 100 ≤ n) (hhigh : n < 1000) :
    (numeral 10 n).length = 3 := by
  have hten : 1 < 10 ∧ 10 ≤ 16 := by decide
  rw [numeral_eq hten.1 hten.2, if_neg (by omega), numeral_eq hten.1 hten.2, if_neg (by omega),
    numeral_eq hten.1 hten.2, if_pos (by omega)]
  rfl

theorem foldlM_numeral (n : Nat) :
    (numeral 16 n).foldlM (fun n b => (hexDigit? b).map (16 * n + ·)) 0 = some n := by
  have hdigit : ∀ d < 16, hexDigit? (digitByte d) = some d := by decide
  induction n using Nat.strongRecOn with
  | ind n ih =>
    have hlast := hdigit (n % 16) (Nat.mod_lt n (by decide))
    rw [numeral_eq (by decide) (by decide), List.foldlM_append]
    split
    · simp [hlast]
      omega
    · rw [ih (n / 16) (by omega)]
      simp [hlast]
      omega

end IndexWatch.Http
