import Mathlib.Algebra.Group.Nat.Defs
import Mathlib.Data.List.Basic
import Testbed.Text.Utf8

/-!
# What lenient reading keeps

A path may be shown as a text that it is not, and then be taken for a path again. Two facts about
UTF-8 say what is left of it. A text is read back from its own bytes (`decodeLenient_encode`), so a
path that a text names comes through unchanged. And a byte below `0x80` is a character of its own,
whatever bytes stand around it: what is in front of it and what is behind it are read apart from
each other (`lenient_append`), since bytes that are still owed have to be `0x80` or more. So the
separators of a path stay where they are, even between names that are no text.

The second fact holds of the states that a reader gets to, and not of every state that can be
written down. These are the ones that are `Sound`: whatever is still to come, it will not complete
a character that one byte would have been enough for.
-/

namespace Testbed.Text.Utf8

variable {s t : State} {b : UInt8} {c : Char} {bytes rest : List UInt8}

/-! ## One byte

What the reader does with a single byte in each of its states, as equations that later proofs
rewrite with instead of opening its definition. -/

theorem lenient_of_complete (h : step s b.toNat = .complete c) :
    lenient s (b :: rest) = c :: lenient .start rest := by
  rw [lenient.eq_def]
  cases s <;> (dsimp only; rw [h])

theorem lenient_of_more (h : step s b.toNat = .more t) :
    lenient s (b :: rest) = lenient t rest := by
  rw [lenient.eq_def]
  cases s <;> (dsimp only; rw [h])

/-- A byte that cannot stand between characters is replaced. It is used up by that, unlike one that
interrupts a character. -/
theorem lenient_of_refused (h : first b.toNat = .refused) :
    lenient .start (b :: rest) = replacement :: lenient .start rest := by
  rw [lenient.eq_def]
  dsimp only
  rw [show step .start b.toNat = .refused from h]

/-- A byte that is not the one that is owed ends the character, and begins another one. What was
read of the character before is replaced once, however many bytes it was. -/
theorem lenient_of_interrupted {bits count low high : Nat}
    (h : step (.owed bits count low high) b.toNat = .refused) :
    lenient (.owed bits count low high) (b :: rest)
      = replacement :: lenient .start (b :: rest) := by
  rw [lenient.eq_def]
  dsimp only
  rw [h]
  dsimp only
  cases hfirst : first b.toNat with
  | complete c => rw [lenient_of_complete (s := .start) hfirst]
  | more t => rw [lenient_of_more (s := .start) hfirst]
  | refused => rw [lenient_of_refused hfirst]

/-- A byte below `0x80` is the character with its number. It is the only case in which one byte is a
whole character. -/
theorem first_of_lt {n : Nat} (h : n < 0x80) : first n = .complete (Char.ofNat n) :=
  if_pos (Nat.le_of_lt_succ h)

/-! ## Reading back what was written

A character is written in one of four forms, by its size. For each of them the first byte says how
many follow and in which range, and the bits come together again. -/

/-- A continuation byte carries six bits of the character. Nothing is lost in eight bits. -/
theorem toNat_tail {m : Nat} (h : m < 64) : (UInt8.ofNat (0x80 + m)).toNat = 0x80 + m :=
  UInt8.toNat_ofNat_of_lt' (by show 0x80 + m < 256; omega)

/-- A continuation byte in its range, before the last one. After it the range is that of any
continuation byte. -/
theorem lenient_tail {bits count low high m : Nat} (hm : m < 64) (hlow : low ≤ 0x80 + m)
    (hhigh : 0x80 + m ≤ high) :
    lenient (.owed bits (count + 2) low high) (UInt8.ofNat (0x80 + m) :: rest)
      = lenient (.owed (bits * 64 + m) (count + 1) 0x80 0xbf) rest := by
  refine lenient_of_more ?_
  rw [toNat_tail hm, step, if_pos ⟨hlow, hhigh⟩, Nat.add_sub_cancel_left]
  rfl

/-- The last continuation byte. Its bits are the lowest of the character. -/
theorem lenient_last {bits low high m : Nat} (hm : m < 64) (hlow : low ≤ 0x80 + m)
    (hhigh : 0x80 + m ≤ high) :
    lenient (.owed bits 1 low high) (UInt8.ofNat (0x80 + m) :: rest)
      = Char.ofNat (bits * 64 + m) :: lenient .start rest := by
  refine lenient_of_complete ?_
  rw [toNat_tail hm, step, if_pos ⟨hlow, hhigh⟩, Nat.add_sub_cancel_left]
  rfl

/-- The first of two bytes. Below two the same character would fit into one byte. -/
theorem first_two {k : Nat} (hlow : 2 ≤ k) (hk : k < 32) :
    first (0xc0 + k) = .more (.owed k 1 0x80 0xbf) := by
  rw [first, if_neg (by omega), if_pos (by omega), Nat.add_sub_cancel_left]

/-- The first of three bytes leaves a range for the second, which holds six bits that complete
neither what two bytes would have been enough for nor a surrogate. -/
theorem first_three {k m : Nat} (hk : k < 16) (hm : m < 64) (hlow : 0x20 ≤ k * 64 + m)
    (hsurrogate : k = 0xd → m < 0x20) :
    ∃ low high, first (0xe0 + k) = .more (.owed k 2 low high) ∧ low ≤ 0x80 + m
      ∧ 0x80 + m ≤ high := by
  by_cases hzero : k = 0
  · subst hzero
    exact ⟨0xa0, 0xbf, rfl, by omega, by omega⟩
  by_cases hd : k = 0xd
  · subst hd
    exact ⟨0x80, 0x9f, rfl, by omega, by have := hsurrogate rfl; omega⟩
  refine ⟨0x80, 0xbf, ?_, by omega, by omega⟩
  rw [first, if_neg (by omega), if_neg (by omega), if_neg (by omega), if_neg (by omega),
    if_pos (by omega), Nat.add_sub_cancel_left]

/-- The first of four bytes leaves a range for the second, which holds six bits that complete
neither what three bytes would have been enough for nor a number that is too great. -/
theorem first_four {k m : Nat} (hm : m < 64) (hlow : 0x10 ≤ k * 64 + m)
    (hhigh : k * 64 + m < 0x110) :
    ∃ low high, first (0xf0 + k) = .more (.owed k 3 low high) ∧ low ≤ 0x80 + m
      ∧ 0x80 + m ≤ high := by
  by_cases hzero : k = 0
  · subst hzero
    exact ⟨0x90, 0xbf, rfl, by omega, by omega⟩
  by_cases hfour : k = 4
  · subst hfour
    exact ⟨0x80, 0x8f, rfl, by omega, by omega⟩
  refine ⟨0x80, 0xbf, ?_, by omega, by omega⟩
  rw [first, if_neg (by omega), if_neg (by omega), if_neg (by omega), if_neg (by omega),
    if_neg (by omega), if_neg (by omega), if_pos (by omega), Nat.add_sub_cancel_left]

/-- **A character is read back** from its bytes, whatever follows them. The proof goes by the four
sizes, in each of which the first byte opens the range for the second. -/
theorem lenient_encodeChar (c : Char) (rest : List UInt8) :
    lenient .start (encodeChar c ++ rest) = c :: lenient .start rest := by
  have hvalid : c.toNat < 0xd800 ∨ 0xdfff < c.toNat ∧ c.toNat < 0x110000 := c.valid
  have hc : Char.ofNat c.toNat = c := Char.ofNat_toNat c
  have hbyte (n : Nat) (h : n < 256) : (UInt8.ofNat n).toNat = n := UInt8.toNat_ofNat_of_lt' h
  unfold encodeChar
  dsimp only
  generalize c.toNat = n at hvalid hc
  rw [show Nat.pow 64 0 = 1 from rfl, show Nat.pow 64 1 = 64 from rfl,
    show Nat.pow 64 2 = 4096 from rfl, show Nat.pow 64 3 = 262144 from rfl, Nat.div_one]
  split_ifs with hone htwo hthree
  · refine (lenient_of_complete ?_).trans (congrArg (· :: _) hc)
    rw [hbyte n (by omega)]
    exact first_of_lt hone
  · have hfirst : step .start (UInt8.ofNat (0xc0 + n / 64)).toNat
        = .more (.owed (n / 64) 1 0x80 0xbf) := by
      rw [hbyte _ (by omega)]
      exact first_two (by omega) (by omega)
    refine (lenient_of_more hfirst).trans ?_
    refine (lenient_last (by omega) (by omega) (by omega)).trans ?_
    rw [Nat.div_add_mod', hc]
    rfl
  · obtain ⟨low, high, hfirst, hlow, hhigh⟩ :=
      first_three (k := n / 4096) (m := n / 64 % 64) (by omega) (by omega) (by omega) (by omega)
    rw [← hbyte _ (show 0xe0 + n / 4096 < 256 by omega)] at hfirst
    refine (lenient_of_more (s := .start) hfirst).trans ?_
    refine (lenient_tail (by omega) hlow hhigh).trans ?_
    refine (lenient_last (by omega) (by omega) (by omega)).trans ?_
    rw [show (n / 4096 * 64 + n / 64 % 64) * 64 + n % 64 = n by omega, hc]
    rfl
  · obtain ⟨low, high, hfirst, hlow, hhigh⟩ :=
      first_four (k := n / 262144) (m := n / 4096 % 64) (by omega) (by omega) (by omega)
    rw [← hbyte _ (show 0xf0 + n / 262144 < 256 by omega)] at hfirst
    refine (lenient_of_more (s := .start) hfirst).trans ?_
    refine (lenient_tail (by omega) hlow hhigh).trans ?_
    refine (lenient_tail (by omega) (by omega) (by omega)).trans ?_
    refine (lenient_last (by omega) (by omega) (by omega)).trans ?_
    rw [show ((n / 262144 * 64 + n / 4096 % 64) * 64 + n / 64 % 64) * 64 + n % 64 = n by omega,
      hc]
    rfl

/-- **A text is read back from its bytes.** So writing a text and showing what was written loses
nothing. -/
@[simp] theorem decodeLenient_encode (s : String) : decodeLenient (encode s) = s := by
  have hread (l : List Char) : lenient .start (l.flatMap encodeChar) = l := by
    induction l with
    | nil => rfl
    | cons c l ih => rw [List.flatMap_cons, lenient_encodeChar, ih]
  unfold decodeLenient encode
  rw [hread, String.ofList_toList]

/-- Texts with the same bytes are the same. Reading back is a left inverse of writing. -/
theorem encode_inj {s t : String} : encode s = encode t ↔ s = t :=
  ⟨fun h => by rw [← decodeLenient_encode s, h, decodeLenient_encode], congrArg encode⟩

/-! ## Bytes that stand for themselves

An ASCII byte is never part of a longer character. That is known of the first byte of one and of
continuation bytes, so it has to be shown of all states in which the reader can be; `State.Sound`
says which these are. -/

/-- **The states that a reader gets to.** What is owed is a continuation byte, and when all that is
owed has come, the number of the character is `0x80` at least. -/
def State.Sound : State → Prop
  | .start => True
  | .owed bits count low _ => 0x80 ≤ low ∧ 0x80 ≤ (bits * 64 + (low - 0x80)) * 64 ^ (count - 1)

/-- A byte that begins a character leads to a sound state, in which something is owed. The ranges
after the first byte are all within those of continuation bytes. -/
theorem sound_of_first {n : Nat} (h : first n = .more t) : t.Sound ∧ t ≠ .start := by
  unfold first at h
  split_ifs at h <;> cases h <;> refine ⟨⟨by omega, ?_⟩, nofun⟩ <;> omega

/-- Every byte leads from a sound state to a sound one. The number of bytes that are owed goes down
by one. -/
theorem State.Sound.more {n : Nat} (hs : s.Sound) (h : step s n = .more t) :
    t.Sound ∧ t ≠ .start := by
  cases s with
  | start => exact sound_of_first h
  | owed bits count low high =>
    obtain ⟨hlow, hsize⟩ := hs
    rw [step] at h
    split_ifs at h with hrange hcount
    cases h
    refine ⟨⟨Nat.le_refl _, Nat.le_trans hsize ?_⟩, nofun⟩
    obtain ⟨k, rfl⟩ : ∃ k, count = k + 2 := ⟨count - 2, by omega⟩
    calc (bits * 64 + (low - 0x80)) * 64 ^ (k + 1)
        ≤ (bits * 64 + (n - 0x80)) * 64 ^ (k + 1) := Nat.mul_le_mul_right _ (by omega)
      _ = ((bits * 64 + (n - 0x80)) * 64 + (0x80 - 0x80)) * 64 ^ k := by
        rw [Nat.pow_succ', Nat.sub_self, Nat.add_zero, Nat.mul_assoc]

/-- A number beyond ASCII is not that of an ASCII character, and stands for NUL if it is that of no
character. -/
theorem ofNat_ne {v : Nat} (hpos : 0 < c.toNat) (hc : c.toNat < 0x80) (hv : 0x80 ≤ v) :
    Char.ofNat v ≠ c := by
  rintro rfl
  by_cases hvalid : v.isValidChar
  · rw [Char.ofNat, dif_pos hvalid] at hc
    exact absurd hv (Nat.not_le_of_lt hc)
  · rw [Char.ofNat, dif_neg hvalid] at hpos
    exact absurd hpos (by decide)

/-- **A character that one byte is enough for is completed by that byte alone.** A character of
several bytes is at least `0x80`, so the only state that can complete it is the one between
characters. -/
theorem State.Sound.complete {n : Nat} (hs : s.Sound) (hpos : 0 < c.toNat) (hc : c.toNat < 0x80)
    (h : step s n = .complete c) : n = c.toNat := by
  cases s with
  | start =>
    change first n = _ at h
    unfold first at h
    split_ifs at h with hn
    cases h
    have hvalid : n.isValidChar := Or.inl (by omega)
    rw [Char.ofNat, dif_pos hvalid]
    rfl
  | owed bits count low high =>
    obtain ⟨hlow, hsize⟩ := hs
    rw [step] at h
    split_ifs at h with hrange hcount
    refine absurd (Outcome.complete.inj h) (ofNat_ne hpos hc ?_)
    rw [Nat.sub_eq_zero_of_le hcount, Nat.pow_zero, Nat.mul_one] at hsize
    omega

/-- **What one byte does**, whatever follows it: some characters are complete, and the reader goes
on from another state. Of the characters, an ASCII one is the byte itself. -/
structure Yields (s : State) (b : UInt8) (front : List Char) (t : State) : Prop where
  reads : ∀ rest, lenient s (b :: rest) = front ++ lenient t rest
  sound : t.Sound
  some_or_owed : front ≠ [] ∨ t ≠ .start
  itself : ∀ c ∈ front, 0 < c.toNat → c.toNat < 0x80 → b.toNat = c.toNat

theorem yields_of_complete (hs : s.Sound) (h : step s b.toNat = .complete c) :
    Yields s b [c] .start where
  reads _ := lenient_of_complete h
  sound := trivial
  some_or_owed := .inl nofun
  itself := by
    rintro _ hmem hpos hc
    cases List.mem_singleton.mp hmem
    exact hs.complete hpos hc h

theorem yields_of_more (hs : s.Sound) (h : step s b.toNat = .more t) : Yields s b [] t where
  reads _ := lenient_of_more h
  sound := (hs.more h).1
  some_or_owed := .inr (hs.more h).2
  itself := nofun

/-- Between characters, a byte completes one, begins one or is replaced. These are the three cases
of `first`. -/
theorem yields_of_start (b : UInt8) : ∃ front t, Yields .start b front t := by
  have hsound : State.start.Sound := trivial
  cases h : step .start b.toNat with
  | complete c => exact ⟨[c], .start, yields_of_complete hsound h⟩
  | more t => exact ⟨[], t, yields_of_more hsound h⟩
  | refused =>
    refine ⟨[replacement], .start, fun _ => lenient_of_refused h, trivial, .inl nofun, ?_⟩
    rintro _ hmem - hc
    cases List.mem_singleton.mp hmem
    exact absurd hc (by decide)

/-- In every sound state a byte does something. Within a character a byte may also end it early, and
then it does what it does between characters. -/
theorem State.Sound.yields (hs : s.Sound) (b : UInt8) : ∃ front t, Yields s b front t := by
  cases s with
  | start => exact yields_of_start b
  | owed bits count low high =>
    cases h : step (.owed bits count low high) b.toNat with
    | complete c => exact ⟨[c], .start, yields_of_complete hs h⟩
    | more t => exact ⟨[], t, yields_of_more hs h⟩
    | refused =>
      -- the byte is looked at again, as the beginning of a character
      obtain ⟨front, t, hreads, ht, -, hitself⟩ := yields_of_start b
      refine ⟨replacement :: front, t, fun rest => ?_, ht, .inl nofun, ?_⟩
      · rw [lenient_of_interrupted h, hreads]
        rfl
      · rintro c hmem hpos hc
        obtain rfl | hmem := List.mem_cons.mp hmem
        · exact absurd hc (by decide)
        · exact hitself c hmem hpos hc

/-- **What stands in front of a byte below `0x80` and what stands behind it are read apart.** The
proof goes byte by byte; whatever state is reached in front of that byte, the byte ends it. -/
theorem lenient_append (hs : s.Sound) (hb : b.toNat < 0x80) :
    lenient s (bytes ++ b :: rest) = lenient s bytes ++ lenient .start (b :: rest) := by
  induction bytes generalizing s with
  | nil =>
    cases s with
    | start => rfl
    | owed bits count low high =>
      refine lenient_of_interrupted (if_neg fun hrange => ?_)
      exact absurd hb (Nat.not_lt_of_le (Nat.le_trans hs.1 hrange.1))
  | cons a bytes ih =>
    obtain ⟨front, t, hreads, ht, -, -⟩ := hs.yields a
    rw [List.cons_append, hreads, hreads, ih ht, List.append_assoc]

/-- Nothing is read from nothing alone. A character that has begun is replaced at the end at least.
-/
theorem eq_nil_of_lenient (hs : s.Sound) (h : lenient s bytes = []) : bytes = [] ∧ s = .start := by
  induction bytes generalizing s with
  | nil =>
    cases s with
    | start => exact ⟨rfl, rfl⟩
    | owed => cases h
  | cons a bytes ih =>
    obtain ⟨front, t, hreads, ht, hsome, -⟩ := hs.yields a
    obtain ⟨hfront, hrest⟩ := List.append_eq_nil_iff.mp ((hreads bytes).symm.trans h)
    exact absurd (ih ht hrest).2 (hsome.resolve_left (not_not_intro hfront))

/-- A text that ends with an ASCII character was read from bytes that end with it. Nothing else
gives that character, neither a longer one nor a replacement. -/
theorem getLast_of_lenient (hs : s.Sound) (hpos : 0 < c.toNat) (hc : c.toNat < 0x80)
    (h : (lenient s bytes).getLast? = some c) :
    ∃ b, bytes.getLast? = some b ∧ b.toNat = c.toNat := by
  induction bytes generalizing s with
  | nil =>
    cases s with
    | start => cases h
    | owed =>
      cases h
      exact absurd hc (by decide)
  | cons a bytes ih =>
    obtain ⟨front, t, hreads, ht, -, hitself⟩ := hs.yields a
    rw [hreads] at h
    by_cases hrest : lenient t bytes = []
    · rw [hrest, List.append_nil] at h
      rw [(eq_nil_of_lenient ht hrest).1]
      exact ⟨a, rfl, hitself c (List.mem_of_getLast? h) hpos hc⟩
    · rw [List.getLast?_append_of_ne_nil _ hrest] at h
      obtain ⟨b, hlast, hb⟩ := ih ht h
      refine ⟨b, ?_, hb⟩
      rw [← hlast, List.getLast?_cons_of_ne_nil]
      rintro rfl
      cases hlast

end Testbed.Text.Utf8
