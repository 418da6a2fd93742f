import Mathlib.Algebra.Group.Nat.Defs
import Testbed.Uuid

/-!
# Identifiers by their texts

An identifier is written with all its digits, so two identifiers are told apart by their texts, and
by whatever the texts occur in.

The same goes for paths: an identifier stands in the path of every request about a node and in the
path of every project's directory, and it holds no separator, so that it is one segment there. Its
length is the other thing that is used of it, since no other segment is as long.
-/

namespace Testbed.Uuid

theorem hexDigit_inj {a b : Nat} (ha : a < 16) (hb : b < 16) (h : hexDigit a = hexDigit b) :
    a = b := by
  have hall : ∀ a < 16, ∀ b < 16, hexDigit a = hexDigit b → a = b := by decide
  exact hall a ha b hb h

@[simp] theorem length_hexDigits (count n : Nat) : (hexDigits count n).length = count := by
  induction count with
  | zero => rfl
  | succ count ih =>
    show (hexDigits count n).length + 1 = count + 1
    rw [ih]

/-- Digits determine the number that is written with them. Only so many of the lowest digits are
written, so it is the remainder that is determined. -/
theorem hexDigits_inj {count n m : Nat} (h : hexDigits count n = hexDigits count m) :
    n % 16 ^ count = m % 16 ^ count := by
  induction count with
  | zero => rw [Nat.pow_zero, Nat.mod_one, Nat.mod_one]
  | succ count ih =>
    obtain ⟨hfirst, hrest⟩ := List.cons.inj h
    have hdigit : n / 16 ^ count % 16 = m / 16 ^ count % 16 :=
      hexDigit_inj (Nat.mod_lt _ (by decide)) (Nat.mod_lt _ (by decide)) hfirst
    rw [Nat.mod_pow_succ, Nat.mod_pow_succ, ih hrest, hdigit]

/-- Digits written one group after the other are those of one number. The groups of a text are put
together by it, one after the other. -/
theorem mod_eq_of_groups {n m low high : Nat} (hlow : n % 16 ^ low = m % 16 ^ low)
    (hhigh : hexDigits high (n / 16 ^ low) = hexDigits high (m / 16 ^ low)) :
    n % 16 ^ (low + high) = m % 16 ^ (low + high) := by
  rw [Nat.pow_add, Nat.mod_mul, Nat.mod_mul, hlow, hexDigits_inj hhigh]

theorem chars_inj {u v : Uuid} (h : u.chars = v.chars) : u = v := by
  have hlength (count n m : Nat) : ('-' :: hexDigits count n).length
      = ('-' :: hexDigits count m).length := by
    rw [List.length_cons, List.length_cons, length_hexDigits, length_hexDigits]
  obtain ⟨h, h12⟩ := List.append_inj' h (hlength ..)
  obtain ⟨h, h16⟩ := List.append_inj' h (hlength ..)
  obtain ⟨h, h20⟩ := List.append_inj' h (hlength ..)
  obtain ⟨h32, h24⟩ := List.append_inj' h (hlength ..)
  -- from the last group to the first, each adds its digits on the left
  have hmod := hexDigits_inj (List.cons.inj h12).2
  have hmod := mod_eq_of_groups hmod (List.cons.inj h16).2
  have hmod := mod_eq_of_groups hmod (List.cons.inj h20).2
  have hmod := mod_eq_of_groups hmod (List.cons.inj h24).2
  have hmod : u.value % 16 ^ 32 = v.value % 16 ^ 32 := mod_eq_of_groups hmod h32
  have hlt (w : Uuid) : w.value < 16 ^ 32 := w.value_lt
  rw [Nat.mod_eq_of_lt (hlt u), Nat.mod_eq_of_lt (hlt v)] at hmod
  exact ext_value hmod

/-- **Identifiers with the same text are the same.** The text is read group by group from its end,
and each group determines its part of the number. -/
theorem text_inj {u v : Uuid} : u.text = v.text ↔ u = v :=
  ⟨fun h => chars_inj (String.ofList_injective h), congrArg text⟩

/-- All texts have the same length. Hence no text is a part of another one. -/
theorem length_text (u : Uuid) : u.text.toList.length = 36 := by
  unfold text chars
  simp

theorem hexDigit_ne_slash {a : Nat} (h : a < 16) : hexDigit a ≠ '/' := by
  have hall : ∀ a < 16, hexDigit a ≠ '/' := by decide
  exact hall a h

theorem slash_not_mem_hexDigits (count n : Nat) : '/' ∉ hexDigits count n := by
  induction count with
  | zero => exact List.not_mem_nil
  | succ count ih =>
    exact List.not_mem_cons_of_ne_of_not_mem (hexDigit_ne_slash (Nat.mod_lt _ (by decide))).symm ih

/-- No text has a separator of paths in it. It can be a name in a path, which is what it is used
for. -/
theorem slash_not_mem_text (u : Uuid) : '/' ∉ u.text.toList := by
  unfold text chars
  simp [slash_not_mem_hexDigits]

end Testbed.Uuid
