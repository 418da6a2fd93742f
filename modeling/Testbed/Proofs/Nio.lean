import Mathlib.Data.List.Permutation
import Testbed.Nio
import Testbed.Proofs.Outcome

/-!
# Bindings and their written form

A binding that was read from a description has ports that fit sixteen bits, and such a binding is
read back from its own written form. So what an engine is sent says everything about a binding that
is kept here.
-/

namespace Testbed.Nio

/-- A binding whose ports are ports. It is a condition on numbers only; texts of any kind can be
written and read. -/
def Fits : Nio → Prop
  | udp lport _ rport => lport < 65536 ∧ rport < 65536
  | tap _ | genericEthernet _ | loopback | sink => True

/-! ## Reading back

A written binding has its members in the order of their keys and not in that of its fields, and each
of them is read by itself. So it is enough to say what one member does, and to go through them as
they stand. -/

theorem decodeUnsigned_nat {n : Nat} (h : n < 65536) : (Json.nat n).decodeUnsigned 16 = .ok n :=
  Json.decodeUnsigned_eq_ok.mpr ⟨rfl, h⟩

theorem readField_lport (f : Fields) {n : Nat} (h : n < 65536) :
    readField .udp f "lport" (.nat n) = .ok { f with lport := some n } := by
  show (do return { f with lport := ← (Json.nat n).decodeUnsigned 16 }) = _
  rw [decodeUnsigned_nat h]
  rfl

theorem readField_rhost (f : Fields) (host : String) :
    readField .udp f "rhost" (.str host) = .ok { f with rhost := some host } := rfl

theorem readField_rport (f : Fields) {n : Nat} (h : n < 65536) :
    readField .udp f "rport" (.nat n) = .ok { f with rport := some n } := by
  show (do return { f with rport := ← (Json.nat n).decodeUnsigned 16 }) = _
  rw [decodeUnsigned_nat h]
  rfl

/-- Members are read one after another. The first has to be read with success, or nothing follows.
-/
theorem readFields_cons {k : Kind} {f g : Fields} {key : String} {v : Json}
    (h : readField k f key v = .ok g) (rest : List (String × Json)) :
    ((key, v) :: rest).foldlM (fun f (key, v) => readField k f key v) f
      = rest.foldlM (fun f (key, v) => readField k f key v) g := by
  rw [List.foldlM_cons]
  show (readField k f key v >>= _) = _
  rw [h]
  rfl

theorem ofMembers_udp {lport rport : Nat} (rhost : String) (hl : lport < 65536)
    (hr : rport < 65536) :
    ofMembers .udp [("lport", .nat lport), ("rhost", .str rhost), ("rport", .nat rport)]
      = .ok (udp lport rhost rport) := by
  unfold ofMembers
  rw [readFields_cons (readField_lport {} hl), readFields_cons (readField_rhost _ rhost),
    readFields_cons (readField_rport _ hr)]
  rfl

/-- An object is read by the kind that its `type` names. The `type` is taken out of the members, so
it cannot be mistaken for a field. -/
theorem decode_obj (k : Kind) {members rest : List (String × Json)}
    (htype : Dict.getEntry "type" members = some (.str k.tag))
    (hrest : members.filter (·.1 != "type") = rest) : decode (.obj members) = ofMembers k rest := by
  have hkind : decodeKind (.str k.tag) = .ok k := by cases k <;> rfl
  unfold decode
  dsimp only
  rw [htype, hrest]
  show (decodeKind (.str k.tag) >>= _) = _
  rw [hkind]
  rfl

theorem toJson_udp (lport : Nat) (rhost : String) (rport : Nat) :
    (udp lport rhost rport).toJson = .obj [("lport", .nat lport), ("rhost", .str rhost),
      ("rport", .nat rport), ("type", .str (Kind.tag .udp))] := by
  cbv

theorem toJson_tap (device : String) :
    (tap device).toJson = .obj [("tap_device", .str device), ("type", .str (Kind.tag .tap))] := by
  cbv

theorem toJson_genericEthernet (device : String) :
    (genericEthernet device).toJson
      = .obj [("ethernet_device", .str device), ("type", .str (Kind.tag .genericEthernet))] := by
  cbv

/-- **A binding is read back from its written form.** Without the bound on its ports a binding could
be written down and then not be read. -/
theorem decode_toJson {nio : Nio} (h : nio.Fits) : decode nio.toJson = .ok nio := by
  cases nio with
  | udp lport rhost rport =>
    rw [toJson_udp, decode_obj .udp (by cbv) (by cbv)]
    exact ofMembers_udp rhost h.1 h.2
  | tap device =>
    rw [toJson_tap, decode_obj .tap (by cbv) (by cbv)]
    rfl
  | genericEthernet device =>
    rw [toJson_genericEthernet, decode_obj .genericEthernet (by cbv) (by cbv)]
    rfl
  | loopback => rfl
  | sink => rfl

/-! ## Bindings that were read

A port is a number of 16 bits because it was read as one, and for no other reason. The bound is
followed from the single field to the whole of the fields and from there to the binding. -/

theorem decodeUnsigned_lt {v : Json} {n : Nat} (h : v.decodeUnsigned 16 = .ok n) : n < 65536 :=
  (Json.decodeUnsigned_eq_ok.mp h).2

/-- Fields whose ports, as far as they were read, are ports. A field that has not been read
satisfies it. -/
def Fields.Fits (f : Fields) : Prop :=
  (∀ n ∈ f.lport, n < 65536) ∧ ∀ n ∈ f.rport, n < 65536

theorem readField_fits {k : Kind} {f g : Fields} {key : String} {v : Json}
    (h : readField k f key v = .ok g) (hf : f.Fits) : g.Fits := by
  unfold readField at h
  split at h
  · obtain ⟨n, hn, hg⟩ := bind_eq_ok h
    cases hg
    exact ⟨fun m hm => Option.some.inj hm ▸ decodeUnsigned_lt hn, hf.2⟩
  · obtain ⟨host, -, hg⟩ := bind_eq_ok h
    cases hg
    exact hf
  · obtain ⟨n, hn, hg⟩ := bind_eq_ok h
    cases hg
    exact ⟨hf.1, fun m hm => Option.some.inj hm ▸ decodeUnsigned_lt hn⟩
  · obtain ⟨device, -, hg⟩ := bind_eq_ok h
    cases hg
    exact hf
  · obtain ⟨device, -, hg⟩ := bind_eq_ok h
    cases hg
    exact hf
  · cases h
    exact hf

theorem readFields_fits {k : Kind} {members : List (String × Json)} {f g : Fields}
    (h : members.foldlM (fun f (key, v) => readField k f key v) f = .ok g) (hf : f.Fits) :
    g.Fits := by
  induction members generalizing f with
  | nil =>
    cases h
    exact hf
  | cons e rest ih =>
    rw [List.foldlM_cons] at h
    obtain ⟨f', hread, hrest⟩ := bind_eq_ok h
    exact ih hrest (readField_fits hread hf)

theorem assemble_fits {k : Kind} {f : Fields} {nio : Nio} (h : assemble k f = .ok nio)
    (hf : f.Fits) : nio.Fits := by
  have hfield : ∀ {α : Type} {name : String} {field : Option α} {a : α},
      Json.requireField name field = .ok a → a ∈ field := fun {_ _ field _} h => by
    cases field with
    | none => cases h
    | some a => exact congrArg some (Except.ok.inj h)
  cases k with
  | udp =>
    obtain ⟨lport, hl, h⟩ := bind_eq_ok h
    obtain ⟨rhost, -, h⟩ := bind_eq_ok h
    obtain ⟨rport, hr, h⟩ := bind_eq_ok h
    cases h
    exact ⟨hf.1 lport (hfield hl), hf.2 rport (hfield hr)⟩
  | tap =>
    obtain ⟨device, -, h⟩ := bind_eq_ok h
    cases h
    trivial
  | genericEthernet =>
    obtain ⟨device, -, h⟩ := bind_eq_ok h
    cases h
    trivial
  | loopback =>
    cases h
    trivial
  | sink =>
    cases h
    trivial

theorem ofItems_fits {k : Kind} {items : List Json} {nio : Nio} (h : ofItems k items = .ok nio) :
    nio.Fits := by
  unfold ofItems at h
  split at h
  · cases h
  · obtain ⟨a, -, h⟩ := bind_eq_ok h
    cases h
  · obtain ⟨a, -, h⟩ := bind_eq_ok h
    obtain ⟨b, -, h⟩ := bind_eq_ok h
    cases h
  · obtain ⟨lport, hl, h⟩ := bind_eq_ok h
    obtain ⟨rhost, -, h⟩ := bind_eq_ok h
    obtain ⟨rport, hr, h⟩ := bind_eq_ok h
    split at h
    · cases h
      exact ⟨decodeUnsigned_lt hl, decodeUnsigned_lt hr⟩
    · cases h
  · cases h
  · obtain ⟨device, -, h⟩ := bind_eq_ok h
    split at h
    · cases h
      trivial
    · cases h
  · cases h
  · obtain ⟨device, -, h⟩ := bind_eq_ok h
    split at h
    · cases h
      trivial
    · cases h
  · split at h
    · cases h
      trivial
    · cases h
  · split at h
    · cases h
      trivial
    · cases h

/-- **Every binding that was read has ports that are ports.** The bound comes from the types of the
fields, so that it holds of whatever is read, by a caller's description or from anywhere else. -/
theorem decode_fits {v : Json} {nio : Nio} (h : decode v = .ok nio) : nio.Fits := by
  unfold decode at h
  split at h
  · obtain ⟨tag, -, h⟩ := bind_eq_ok h
    obtain ⟨kind, -, h⟩ := bind_eq_ok h
    obtain ⟨f, hf, h⟩ := bind_eq_ok h
    exact assemble_fits h (readFields_fits hf ⟨nofun, nofun⟩)
  · cases h
  · obtain ⟨kind, -, h⟩ := bind_eq_ok h
    exact ofItems_fits h
  · cases h

/-- A description that is accepted is read. The checks that `ofSpec` makes on top come afterwards
and change nothing. -/
theorem decode_of_ofSpec {spec : Json} {nio : Nio} (h : ofSpec spec = .ok nio) :
    decode spec = .ok nio := by
  unfold ofSpec at h
  split at h
  · split at h
    · cases h
    · split at h
      · cases h
      · rename_i read hread
        split at h
        · cases h
        · cases h
          exact hread
  · cases h

/-- **The written form of an accepted binding says what it is.** This is what makes the body of a
confirmed request say which binding it was for. -/
theorem decode_toJson_of_ofSpec {spec : Json} {nio : Nio} (h : ofSpec spec = .ok nio) :
    decode nio.toJson = .ok nio :=
  decode_toJson (decode_fits (decode_of_ofSpec h))

end Testbed.Nio
