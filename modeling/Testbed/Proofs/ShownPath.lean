import Testbed.Proofs.FilePath
import Testbed.Proofs.Utf8

/-!
# Paths that are shown

Whoever is told of a path in a request is told how it is shown, and takes what was shown for a
path. That path, the one that is *retold*, is the one that was meant if a text names it, and else
it is another one (`isText_iff`), in which each run of bytes that are no text has become a
replacement character.

Retelling takes a path apart at its separators: the names of a text that are joined to a directory
are retold as they are, under the directory as it is retold (`retold_join`). So of a path that ends
with such names nothing but the directory can go wrong, and whatever holds of the names below a
directory holds of them below the directory that was retold.
-/

namespace Testbed.OsPath

open Text.Utf8 (encode encodeChar encode_inj decodeLenient_encode lenient)
open WrittenPath (withSeparator)

variable {p directory file : OsPath} {s t : String}

/-- A text names the path. There is only one such text. -/
def IsText (p : OsPath) : Prop := ∃ s, p = ofText s

/-- **The path that one takes it for** who is told how it is shown. It is a path that a text names,
so telling it once more changes nothing. -/
def retold (p : OsPath) : OsPath := ofText p.lossy

@[simp] theorem lossy_ofText (s : String) : (ofText s).lossy = s := decodeLenient_encode s

/-- Texts that are written alike are the same. It is the lemma on bytes, said of paths. -/
theorem bytes_ofText_inj : (ofText s).bytes = (ofText t).bytes ↔ s = t := encode_inj

@[simp] theorem retold_ofText (s : String) : (ofText s).retold = ofText s :=
  congrArg ofText (lossy_ofText s)

/-- **A path is retold as it is exactly if a text names it.** One direction reads the text back. The
other is immediate, since what is retold always has a text. -/
theorem isText_iff : p.IsText ↔ p.retold = p := by
  constructor
  · rintro ⟨s, rfl⟩
    exact retold_ofText s
  · exact fun h => ⟨p.lossy, h.symm⟩

/-! ## At a separator

A separator is one byte, and no other character has that byte among its own. For this reason what
stands in front of it is read apart from what stands behind it, whatever either of them is. -/

/-- What is written as text is retold, byte by byte. No decoding is left in this form but the
lenient one. -/
theorem bytes_retold (p : OsPath) :
    p.retold.bytes = (lenient .start p.bytes).flatMap encodeChar := by
  show encode (String.ofList _) = _
  unfold encode
  rw [String.toList_ofList]

/-- A separator is shown as the character it is, between what is in front of it and what is behind
it. -/
theorem lenient_separator (front rest : List UInt8) :
    lenient .start (front ++ 0x2f :: rest)
      = lenient .start front ++ '/' :: lenient .start rest := by
  rw [Text.Utf8.lenient_append (s := .start) trivial (by decide),
    Text.Utf8.lenient_of_complete (s := .start) (c := '/') rfl]

/-- **A path is retold in parts**, the one in front of a separator and the one behind it. The part
in front may end in the middle of a character; it is ended by the separator just as by the end of
the bytes. -/
theorem bytes_retold_append (front rest : List UInt8) :
    (retold ⟨front ++ 0x2f :: rest⟩).bytes
      = (retold ⟨front⟩).bytes ++ 0x2f :: (retold ⟨rest⟩).bytes := by
  rw [bytes_retold, bytes_retold, bytes_retold, lenient_separator, List.flatMap_append,
    List.flatMap_cons]
  rfl

/-- The bytes of a text without a separator hold none. Characters beyond ASCII have bytes that are
all from `0x80` on. -/
theorem separator_notMem (h : '/' ∉ s.toList) : PathLetter.separator ∉ (ofText s).bytes := by
  intro hmem
  change (0x2f : UInt8) ∈ encode s at hmem
  obtain ⟨front, rest, hbytes⟩ := List.append_of_mem hmem
  have hs : s.toList = lenient .start (encode s) := by
    conv_lhs => rw [← decodeLenient_encode s]
    exact String.toList_ofList
  rw [hs, show encode s = front ++ 0x2f :: rest from hbytes, lenient_separator] at h
  exact h (List.mem_append_right _ List.mem_cons_self)

/-- Only what is empty is retold as empty. Bytes that are no text are shown by characters, so they
do not vanish. -/
theorem bytes_eq_nil_of_retold (h : p.retold.bytes = []) : p.bytes = [] := by
  rw [bytes_retold, List.flatMap_eq_nil_iff] at h
  have hread : lenient .start p.bytes = [] := by
    refine List.eq_nil_iff_forall_not_mem.mpr fun c hc => ?_
    have hchar := h c hc
    have hback := Text.Utf8.lenient_encodeChar c []
    rw [hchar] at hback
    cases hback
  exact (Text.Utf8.eq_nil_of_lenient (s := .start) trivial hread).1

/-- Only what ends with a separator is retold with one at its end. A replacement character is no
separator. -/
theorem getLast_of_retold (h : p.retold.bytes.getLast? = some 0x2f) :
    p.bytes.getLast? = some 0x2f := by
  obtain ⟨front, hfront⟩ := List.getLast?_eq_some_iff.mp h
  -- the text that is shown ends with a separator, since it is what its bytes are read back as
  have hlast : (lenient .start p.bytes).getLast? = some '/' := by
    have hread : lenient .start p.retold.bytes = lenient .start p.bytes :=
      String.ofList_injective (lossy_ofText p.lossy)
    rw [← hread, hfront, lenient_separator]
    exact List.getLast?_concat
  obtain ⟨b, hb, hslash⟩ :=
    Text.Utf8.getLast_of_lenient (s := .start) trivial (by decide) (by decide) hlast
  rw [hb, UInt8.toNat_inj.mp (show b.toNat = (0x2f : UInt8).toNat from hslash)]

/-! ## Joining

The name that is joined is a text and is read as it was written; the directory is shown in whatever
way it is shown. So the path that is told differs from the one that is meant exactly where the
directory's own name does. -/

/-- **A directory is followed by the same separator, or by none, when it is retold**, and a text
behind it is retold as it is. -/
theorem exists_gap (p : OsPath) :
    ∃ gap, withSeparator p.bytes = p.bytes ++ gap
      ∧ withSeparator p.retold.bytes = p.retold.bytes ++ gap
      ∧ ∀ s, (retold ⟨p.bytes ++ gap ++ encode s⟩).bytes = p.retold.bytes ++ gap ++ encode s := by
  obtain ⟨bytes⟩ := p
  have htext (s : String) : (retold ⟨encode s⟩).bytes = encode s :=
    congrArg OsPath.bytes (retold_ofText s)
  obtain ⟨rfl, hsep⟩ | ⟨before, rfl, hsep⟩ | ⟨hne, hlast, hsep⟩ :=
    WrittenPath.withSeparator_cases bytes
  · exact ⟨[], hsep, rfl, fun s => htext s⟩
  · refine ⟨[], hsep.trans (List.append_nil _).symm, ?_, fun s => ?_⟩
    · rw [List.append_nil]
      show withSeparator (retold ⟨before ++ [0x2f]⟩).bytes = (retold ⟨before ++ [0x2f]⟩).bytes
      rw [bytes_retold_append]
      exact (WrittenPath.withSeparator_concat _ _).trans (if_pos rfl)
    · show (retold ⟨before ++ [0x2f] ++ [] ++ encode s⟩).bytes
        = (retold ⟨before ++ [0x2f]⟩).bytes ++ [] ++ encode s
      rw [List.append_nil, List.append_nil, List.append_assoc, List.singleton_append,
        bytes_retold_append, bytes_retold_append, htext, List.append_assoc]
      rfl
  · refine ⟨[0x2f], hsep, ?_, fun s => ?_⟩
    · obtain ⟨hnil, -⟩ | ⟨before, hend, -⟩ | ⟨-, -, hretold⟩ :=
        WrittenPath.withSeparator_cases (retold ⟨bytes⟩).bytes
      · exact absurd (bytes_eq_nil_of_retold hnil) hne
      · refine absurd (getLast_of_retold ?_) hlast
        rw [hend]
        exact List.getLast?_concat
      · exact hretold
    · show (retold ⟨bytes ++ [0x2f] ++ encode s⟩).bytes = _
      rw [List.append_assoc, List.singleton_append, bytes_retold_append, htext,
        List.append_assoc]
      rfl

/-- **What is joined to a directory is retold under the directory as it is retold.** An absolute
text replaces the directory in both, and a relative one gets a separator in front in both or in
neither. -/
theorem retold_join (p : OsPath) (s : String) :
    (p.join (ofText s)).retold = p.retold.join (ofText s) := by
  cases habsolute : WrittenPath.isAbsolute (encode s) with
  | true =>
    have hjoin (q : OsPath) : q.join (ofText s) = ofText s :=
      congrArg mk (WrittenPath.join_of_isAbsolute habsolute)
    rw [hjoin, hjoin, retold_ofText]
  | false =>
    have hjoin (q : OsPath) : q.join (ofText s) = ⟨withSeparator q.bytes ++ encode s⟩ :=
      congrArg mk (WrittenPath.join_of_relative habsolute)
    obtain ⟨gap, hgap, hgap', hretold⟩ := p.exists_gap
    rw [hjoin, hjoin, hgap, hgap']
    exact congrArg mk (hretold s)

/-- **A relative text makes no difference** to whether a text names what it is joined to. The path
of a capture is therefore told as it is exactly if that of the project's directory is. -/
theorem isText_join (h : (ofText s).isAbsolute = false) :
    (p.join (ofText s)).IsText ↔ p.IsText := by
  have hjoin (q : OsPath) : q.join (ofText s) = ⟨withSeparator q.bytes ++ encode s⟩ :=
    congrArg mk (WrittenPath.join_of_relative h)
  rw [isText_iff, isText_iff, retold_join, hjoin, hjoin]
  obtain ⟨gap, hgap, hgap', -⟩ := p.exists_gap
  rw [hgap, hgap', mk.injEq, List.append_left_inj, List.append_left_inj]
  exact ⟨congrArg mk, congrArg bytes⟩

end Testbed.OsPath
