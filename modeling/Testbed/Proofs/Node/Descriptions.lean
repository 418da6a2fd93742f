import Testbed.Proofs.Dict
import Testbed.Proofs.Nio
import Testbed.Proofs.Node.Life

/-!
# Descriptions of bindings

A caller describes the binding it wants by a value. Three checks stand between the two: the `type`
has to name a kind, the fields of that kind have to be there and of their types, and what they say
has to be usable. `Nio.Describes` says the same in one piece and by look-ups only, so that neither
the order of the checks nor that of the members is left in it.

The members of an object are read one after another and each fills the field that it names. What a
field holds at the end is what is found under its name (`readFields_iff`), because no key occurs
twice; with that, reading an object is looking up the fields of its kind, and the written form of a
binding (`written`) is the part of its description that was looked at (`Spelt.toJson_eq`).
-/

namespace Testbed

namespace Json

variable {v : Json} {key : String}

/-- **A value in which no look-up is ambiguous**: if it is an object, its members have different
keys, as the members of every object have that was read or built. The members are a list, and a
value that was put together by hand could have a key twice; one that came over the wire, or out of a
dictionary, never has. -/
def Unambiguous : Json → Prop
  | .obj members => (members.map (·.1)).Nodup
  | _ => True

instance : DecidablePred Unambiguous := fun v =>
  match v with
  | .obj members => inferInstanceAs (Decidable (members.map (·.1)).Nodup)
  | .null | .bool _ | .int _ | .float _ | .str _ | .arr _ => isTrue trivial

/-- **The part of an object under some keys.** Any other value has no parts. The members are put in
the order of their keys, as everything is that is sent. -/
def restrict (keys : List String) : Json → Json
  | .obj members => .ofDict ((Dict.ofList members).filter (fun key _ => decide (key ∈ keys)))
  | v => v

theorem get_restrict (h : v.Unambiguous) (keys : List String) (key : String) :
    (v.restrict keys).get? key = if key ∈ keys then v.get? key else none := by
  cases v with
  | obj members =>
    refine (Dict.get_filter_key _ (fun key => decide (key ∈ keys)) key).trans ?_
    rw [Dict.get_ofList h]
    simp only [decide_eq_true_eq]
    rfl
  | null | bool | int | float | str | arr => exact (ite_self none).symm

theorem unambiguous_ofDict (d : Dict String Json) : (ofDict d).Unambiguous := d.nodup_keys

theorem unambiguous_restrict (h : v.Unambiguous) (keys : List String) :
    (v.restrict keys).Unambiguous := by
  cases v with
  | obj members => exact unambiguous_ofDict _
  | null | bool | int | float | str | arr => exact h

end Json

namespace Nio

variable {k : Kind} {nio : Nio} {spec : Json}

/-! ## What a description says

The meaning of a description, without the reader: the kind under `type`, the fields of the kind
under their names, each of its type and usable. Other members may be there and say nothing. -/

/-- The keys of the fields of a kind. -/
def Kind.fields : Kind → List String
  | udp => ["lport", "rhost", "rport"]
  | tap => ["tap_device"]
  | genericEthernet => ["ethernet_device"]
  | loopback | sink => []

/-- The keys that a kind looks at. -/
def Kind.keys (k : Kind) : List String := "type" :: k.fields

/-- **A description spells a binding**: it has the word for its kind under `type` and the fields of
the kind under their names. Whatever else it has does not matter. The words and the fields are
written out here once more, in the form of the wire, so that the statement does not depend on how
they are read. -/
def Spelt (spec : Json) : Nio → Prop
  | udp lport rhost rport =>
    spec.get? "type" = some (.str "nio_udp") ∧ spec.get? "lport" = some (.nat lport)
      ∧ spec.get? "rhost" = some (.str rhost) ∧ spec.get? "rport" = some (.nat rport)
  | tap device =>
    spec.get? "type" = some (.str "nio_tap") ∧ spec.get? "tap_device" = some (.str device)
  | genericEthernet device =>
    spec.get? "type" = some (.str "nio_generic_ethernet")
      ∧ spec.get? "ethernet_device" = some (.str device)
  | loopback => spec.get? "type" = some (.str "nio_internal")
  | sink => spec.get? "type" = some (.str "nio_null")

/-- **A binding can be used**: its ports are ports other than zero, and no name in it is blank.
Reading alone does not ask for this: a port of zero and an empty name are of the right types. -/
def Usable : Nio → Prop
  | udp lport rhost rport =>
    (1 ≤ lport ∧ lport ≤ 65535) ∧ (1 ≤ rport ∧ rport ≤ 65535) ∧ Text.allBlank rhost = false
  | tap device | genericEthernet device => Text.allBlank device = false
  | loopback | sink => True

/-- **A value describes a binding.** -/
def Describes (spec : Json) (nio : Nio) : Prop := Spelt spec nio ∧ nio.Usable

/-- The members of the written form, `type` first. -/
def written (nio : Nio) : List (String × Json) :=
  ("type", .str nio.kind.tag) ::
    match nio with
    | udp lport rhost rport => [("lport", .nat lport), ("rhost", .str rhost), ("rport", .nat rport)]
    | tap device => [("tap_device", .str device)]
    | genericEthernet device => [("ethernet_device", .str device)]
    | loopback | sink => []

theorem toJson_eq_mkObj (nio : Nio) : nio.toJson = .mkObj nio.written := by cases nio <;> rfl

theorem keys_written (nio : Nio) : nio.written.map (·.1) = nio.kind.keys := by cases nio <;> rfl

theorem Kind.nodup_keys (k : Kind) : k.keys.Nodup := by cases k <;> decide

/-- A binding is spelt where its written members are found. -/
theorem spelt_iff : Spelt spec nio ↔ ∀ e ∈ nio.written, spec.get? e.1 = some e.2 := by
  cases nio <;> simp [Spelt, written, kind, Kind.tag]

theorem usable_iff : nio.Usable ↔ nio.Fits ∧ nio.fault? = none := by
  cases nio with
  | udp lport rhost rport =>
    by_cases hzero : lport = 0 ∨ rport = 0
    · simp only [Usable, Fits, fault?, if_pos hzero]
      exact iff_of_false (by omega) fun h => Option.some_ne_none _ h.2
    · simp only [Usable, Fits, fault?, if_neg hzero]
      cases Text.allBlank rhost with
      | false => simp; omega
      | true => simp
  | tap device | genericEthernet device => simp [Usable, Fits, fault?]
  | loopback | sink => simp [Usable, Fits, fault?]

/-! ## One field

A reader of one field in all its cases: it is there and of the right type, it is there and is not,
or it is not there. -/

section Slots

variable {α : Type} {decode : Json → Except DecodeError α} {name : String}

/-- **What a field holds after values were looked up**: its value, if the kind has the field and
there is one, and otherwise what it held. It is the state of one field on the way through the
members, told without the way. -/
def slot (k : Kind) (name : String) (decode : Json → Except DecodeError α)
    (look : String → Option Json) (before : Option α) : Except DecodeError (Option α) :=
  match if name ∈ k.fields then look name else none with
  | none => .ok before
  | some v => some <$> decode v

/-- A look-up that finds one value. -/
def single (key : String) (v : Json) (name : String) : Option Json :=
  if name = key then some v else none

/-- A field that held nothing holds what was found under its name. -/
theorem slot_eq_some {look : String → Option Json} {a : α} :
    slot k name decode look none = .ok (some a)
      ↔ name ∈ k.fields ∧ ∃ v, look name = some v ∧ decode v = .ok a := by
  unfold slot
  by_cases hname : name ∈ k.fields
  · rw [if_pos hname]
    cases look name with
    | none => simp
    | some v => cases hv : decode v <;> simp [hname, hv]
  · simp [hname]

/-- A port was read exactly where a port is found. -/
theorem slot_port {look : String → Option Json} {n : Nat} :
    slot k name (Json.decodeUnsigned 16) look none = .ok (some n)
      ↔ name ∈ k.fields ∧ look name = some (.nat n) ∧ n < 65536 := by
  rw [slot_eq_some]
  simp only [Json.decodeUnsigned_eq_ok]
  refine and_congr_right fun _ => ⟨?_, fun ⟨hlook, hn⟩ => ⟨_, hlook, rfl, hn⟩⟩
  rintro ⟨v, hlook, rfl, hn⟩
  exact ⟨hlook, hn⟩

/-- A text was read exactly where a text is found. -/
theorem slot_text {look : String → Option Json} {s : String} :
    slot k name Json.decodeText look none = .ok (some s)
      ↔ name ∈ k.fields ∧ look name = some (.str s) := by
  rw [slot_eq_some]
  simp only [Json.decodeText_eq_ok, exists_eq_right]

theorem slot_eq_none {look : String → Option Json} (h : name ∉ k.fields) (before : Option α) :
    slot k name decode look before = .ok before := by
  unfold slot
  rw [if_neg h]

/-- A value under another key is not looked at. -/
theorem slot_other {key : String} {v : Json} (h : name ≠ key) (before : Option α) :
    slot k name decode (single key v) before = .ok before := by
  unfold slot single
  rw [if_neg h, ite_self]

/-- **A member and then the others**, none of which has the same key. That the key does not come
again is what lets the value that was read stand. -/
theorem slot_cons {key : String} {v : Json} {rest : List (String × Json)}
    (hkey : key ∉ rest.map (·.1)) (before after : Option α) :
    slot k name decode (fun name => Dict.getEntry name ((key, v) :: rest)) before = .ok after
      ↔ ∃ mid, slot k name decode (single key v) before = .ok mid
        ∧ slot k name decode (fun name => Dict.getEntry name rest) mid = .ok after := by
  by_cases hname : name ∈ k.fields
  · unfold slot single
    simp only [if_pos hname, Dict.getEntry]
    by_cases heq : name = key
    · rw [if_pos heq, heq, if_pos Std.ReflOrd.compare_self, Dict.getEntry_eq_none_iff.mpr hkey]
      simp
    · rw [if_neg heq, if_neg (fun h => heq (Std.LawfulEqOrd.eq_of_compare h))]
      simp
  · simp [slot_eq_none hname]

end Slots

/-! ## All fields

The fields of a kind are read independently, so reading all members fills each from the member with
its name. -/

/-- **The fields that are read off look-ups.** -/
@[mk_iff]
structure Reads (k : Kind) (look : String → Option Json) (f g : Fields) : Prop where
  lport : slot k "lport" (Json.decodeUnsigned 16) look f.lport = .ok g.lport
  rhost : slot k "rhost" Json.decodeText look f.rhost = .ok g.rhost
  rport : slot k "rport" (Json.decodeUnsigned 16) look f.rport = .ok g.rport
  tapDevice : slot k "tap_device" Json.decodeText look f.tapDevice = .ok g.tapDevice
  ethernetDevice :
    slot k "ethernet_device" Json.decodeText look f.ethernetDevice = .ok g.ethernetDevice

/-- A member is read into the field that it names, and into no other. It is how a single member is
related to the whole of the fields. -/
theorem readField_iff {f g : Fields} {key : String} {v : Json} :
    readField k f key v = .ok g ↔ Reads k (single key v) f g := by
  rw [reads_iff]
  obtain ⟨lport, rhost, rport, tapDevice, ethernetDevice⟩ := f
  obtain ⟨lport', rhost', rport', tapDevice', ethernetDevice'⟩ := g
  unfold readField
  split
  · cases hv : v.decodeUnsigned 16 <;> simp [slot, single, Kind.fields, hv]
  · cases hv : v.decodeText <;> simp [slot, single, Kind.fields, hv]
  · cases hv : v.decodeUnsigned 16 <;> simp [slot, single, Kind.fields, hv]
  · cases hv : v.decodeText <;> simp [slot, single, Kind.fields, hv]
  · cases hv : v.decodeText <;> simp [slot, single, Kind.fields, hv]
  · rename_i hlport hrhost hrport htap hethernet
    show Except.ok _ = Except.ok _ ↔ _
    cases k with
    | udp =>
      rw [slot_other (Ne.symm (hlport rfl)), slot_other (Ne.symm (hrhost rfl)),
        slot_other (Ne.symm (hrport rfl))]
      simp [slot, Kind.fields]
    | tap =>
      rw [slot_other (Ne.symm (htap rfl))]
      simp [slot, Kind.fields]
    | genericEthernet =>
      rw [slot_other (Ne.symm (hethernet rfl))]
      simp [slot, Kind.fields]
    | loopback | sink => simp [slot, Kind.fields]

theorem reads_nil {f g : Fields} : Reads k (fun name => Dict.getEntry name []) f g ↔ f = g := by
  have hslot {α : Type} {name : String} {decode : Json → Except DecodeError α} (b : Option α) :
      slot k name decode (fun name => Dict.getEntry name []) b = .ok b := by
    unfold slot Dict.getEntry
    rw [ite_self]
  obtain ⟨lport, rhost, rport, tapDevice, ethernetDevice⟩ := f
  obtain ⟨lport', rhost', rport', tapDevice', ethernetDevice'⟩ := g
  simp [reads_iff, hslot]

/-- Reading all members fills the fields one member after another. The order of the members does not
matter for what is read. -/
theorem reads_cons {f h : Fields} {key : String} {v : Json} {rest : List (String × Json)}
    (hkey : key ∉ rest.map (·.1)) :
    Reads k (fun name => Dict.getEntry name ((key, v) :: rest)) f h
      ↔ ∃ g, Reads k (single key v) f g ∧ Reads k (fun name => Dict.getEntry name rest) g h := by
  constructor
  · intro hread
    obtain ⟨lport, hl, hl'⟩ := (slot_cons hkey _ _).mp hread.lport
    obtain ⟨rhost, hh, hh'⟩ := (slot_cons hkey _ _).mp hread.rhost
    obtain ⟨rport, hr, hr'⟩ := (slot_cons hkey _ _).mp hread.rport
    obtain ⟨tapDevice, ht, ht'⟩ := (slot_cons hkey _ _).mp hread.tapDevice
    obtain ⟨ethernetDevice, he, he'⟩ := (slot_cons hkey _ _).mp hread.ethernetDevice
    exact ⟨⟨lport, rhost, rport, tapDevice, ethernetDevice⟩, ⟨hl, hh, hr, ht, he⟩,
      ⟨hl', hh', hr', ht', he'⟩⟩
  · rintro ⟨g, hfirst, hrest⟩
    exact
      { lport := (slot_cons hkey _ _).mpr ⟨_, hfirst.lport, hrest.lport⟩
        rhost := (slot_cons hkey _ _).mpr ⟨_, hfirst.rhost, hrest.rhost⟩
        rport := (slot_cons hkey _ _).mpr ⟨_, hfirst.rport, hrest.rport⟩
        tapDevice := (slot_cons hkey _ _).mpr ⟨_, hfirst.tapDevice, hrest.tapDevice⟩
        ethernetDevice :=
          (slot_cons hkey _ _).mpr ⟨_, hfirst.ethernetDevice, hrest.ethernetDevice⟩ }

theorem bind_eq_ok_iff {ε α β : Type} {x : Except ε α} {f : α → Except ε β} {b : β} :
    (x >>= f) = .ok b ↔ ∃ a, x = .ok a ∧ f a = .ok b := by
  refine ⟨bind_eq_ok, ?_⟩
  rintro ⟨a, rfl, h⟩
  exact h

/-- **Reading members one after another is looking them up.** The error is not part of the
statement: which of several faults is reported does depend on the order of the members, while
whether there is one does not. -/
theorem readFields_iff {members : List (String × Json)} (h : (members.map (·.1)).Nodup)
    {f g : Fields} :
    members.foldlM (fun f (key, v) => readField k f key v) f = .ok g
      ↔ Reads k (fun name => Dict.getEntry name members) f g := by
  induction members generalizing f with
  | nil =>
    rw [reads_nil]
    exact Except.ok.injEq f g ▸ Iff.rfl
  | cons e rest ih =>
    obtain ⟨key, v⟩ := e
    obtain ⟨hkey, hrest⟩ := List.nodup_cons.mp h
    rw [List.foldlM_cons, bind_eq_ok_iff, reads_cons hkey]
    exact exists_congr fun f' => and_congr readField_iff (ih hrest)

/-! ## From the members to the binding

What was read into the fields makes a binding, and a binding says which members have been there. -/

/-- The binding that the fields hold. Other fields may hold anything. -/
def Held (f : Fields) : Nio → Prop
  | udp lport rhost rport => f.lport = some lport ∧ f.rhost = some rhost ∧ f.rport = some rport
  | tap device => f.tapDevice = some device
  | genericEthernet device => f.ethernetDevice = some device
  | loopback | sink => True

theorem requireField_eq_ok {α : Type} {name : String} {field : Option α} {a : α} :
    Json.requireField name field = .ok a ↔ field = some a := by
  cases field <;> simp [Json.requireField]

theorem assemble_eq_ok {f : Fields} : assemble k f = .ok nio ↔ k = nio.kind ∧ Held f nio := by
  unfold assemble
  cases k with
  | udp =>
    simp only [bind_eq_ok_iff, requireField_eq_ok]
    cases nio <;> simp [Held, kind, pure, Except.pure]
  | tap =>
    cases hf : f.tapDevice <;> cases nio <;> simp [Held, kind, Json.requireField, hf]
  | genericEthernet =>
    cases hf : f.ethernetDevice <;> cases nio <;> simp [Held, kind, Json.requireField, hf]
  | loopback | sink => cases nio <;> simp [Held, kind, pure, Except.pure]

/-- The fields that hold a binding, and nothing else. It is the least that can have been read. -/
def held : Nio → Fields
  | udp lport rhost rport => { lport := some lport, rhost := some rhost, rport := some rport }
  | tap device => { tapDevice := some device }
  | genericEthernet device => { ethernetDevice := some device }
  | loopback | sink => {}

theorem held_held (nio : Nio) : Held nio.held nio := by cases nio <;> simp [Held, held]

/-- What was read into the fields of a kind was found. Ports are in range because they were read. -/
theorem Reads.found {look : String → Option Json} {g : Fields} (h : Reads nio.kind look {} g)
    (hheld : Held g nio) : nio.Fits ∧ ∀ e ∈ nio.written.tail, look e.1 = some e.2 := by
  obtain ⟨hl, hh, hr, ht, he⟩ := h
  cases nio with
  | udp lport rhost rport =>
    obtain ⟨hl', hh', hr'⟩ := hheld
    rw [hl'] at hl
    rw [hh'] at hh
    rw [hr'] at hr
    have hlport := (slot_port.mp hl).2
    have hrhost := (slot_text.mp hh).2
    have hrport := (slot_port.mp hr).2
    exact ⟨⟨hlport.2, hrport.2⟩, by simp [written, hlport.1, hrhost, hrport.1]⟩
  | tap device =>
    rw [show g.tapDevice = some device from hheld] at ht
    exact ⟨trivial, by simp [written, (slot_text.mp ht).2]⟩
  | genericEthernet device =>
    rw [show g.ethernetDevice = some device from hheld] at he
    exact ⟨trivial, by simp [written, (slot_text.mp he).2]⟩
  | loopback | sink => exact ⟨trivial, nofun⟩

/-- What is found is read into the fields of a kind. Nothing else has to be there. -/
theorem reads_held {look : String → Option Json} (hfits : nio.Fits)
    (hfound : ∀ e ∈ nio.written.tail, look e.1 = some e.2) : Reads nio.kind look {} nio.held := by
  cases nio with
  | udp lport rhost rport =>
    have hl : look "lport" = some (.nat lport) := hfound _ (.head _)
    have hh : look "rhost" = some (.str rhost) := hfound _ (.tail _ (.head _))
    have hr : look "rport" = some (.nat rport) := hfound _ (.tail _ (.tail _ (.head _)))
    simp [reads_iff, slot, held, kind, Kind.fields, hl, hh, hr, decodeUnsigned_nat hfits.1,
      decodeUnsigned_nat hfits.2, Json.decodeText]
  | tap device =>
    have ht : look "tap_device" = some (.str device) := hfound _ (.head _)
    simp [reads_iff, slot, held, kind, Kind.fields, ht, Json.decodeText]
  | genericEthernet device =>
    have he : look "ethernet_device" = some (.str device) := hfound _ (.head _)
    simp [reads_iff, slot, held, kind, Kind.fields, he, Json.decodeText]
  | loopback | sink => simp [reads_iff, slot, held, kind, Kind.fields]

/-- **Members are read as the binding whose fields they have.** The fields that a binding is written
with are exactly the ones that it is read from. -/
theorem ofMembers_eq_ok {members : List (String × Json)} (h : (members.map (·.1)).Nodup) :
    ofMembers k members = .ok nio ↔ k = nio.kind ∧ nio.Fits
      ∧ ∀ e ∈ nio.written.tail, Dict.getEntry e.1 members = some e.2 := by
  unfold ofMembers
  rw [bind_eq_ok_iff]
  constructor
  · rintro ⟨g, hread, hassemble⟩
    obtain ⟨rfl, hheld⟩ := assemble_eq_ok.mp hassemble
    exact ⟨rfl, ((readFields_iff h).mp hread).found hheld⟩
  · rintro ⟨rfl, hfits, hfound⟩
    exact ⟨nio.held, (readFields_iff h).mpr (reads_held hfits hfound),
      assemble_eq_ok.mpr ⟨rfl, held_held nio⟩⟩

theorem decodeKind_eq_ok {v : Json} : decodeKind v = .ok k ↔ v = .str k.tag := by
  constructor
  · intro h
    cases v with
    | str name =>
      unfold decodeKind Json.variantNamed at h
      dsimp only at h
      split at h
      · rename_i tag kind hfind
        cases h
        have hname := List.find?_some hfind
        obtain ⟨kind', -, hentry⟩ := List.mem_map.mp (List.mem_of_find?_eq_some hfind)
        cases hentry
        exact congrArg Json.str (eq_of_beq hname).symm
      · cases h
    | null | bool | int | float | arr | obj => cases h
  · rintro rfl
    cases k <;> rfl

/-- The fields of a kind are found beside the `type`. No field is called `type`. -/
theorem getEntry_beside {members : List (String × Json)} {e : String × Json}
    (he : e ∈ nio.written.tail) :
    Dict.getEntry e.1 (members.filter (·.1 != "type")) = Dict.getEntry e.1 members := by
  have hkey : e.1 ∈ nio.kind.fields := by
    have htail : nio.written.tail.map (·.1) = nio.kind.fields := by
      rw [List.map_tail, keys_written]
      rfl
    exact htail ▸ List.mem_map_of_mem he
  have hne : e.1 ≠ "type" := fun h => (List.nodup_cons.mp nio.kind.nodup_keys).1 (h ▸ hkey)
  refine (Dict.getEntry_filter_key e.1 (· != "type") members).trans ?_
  rw [if_pos (bne_iff_ne.mpr hne)]

/-- **An object is read as the binding that it spells**, if the ports are ports. Members that are no
field of the kind are passed over, whatever they hold. -/
theorem decode_obj_eq_ok {members : List (String × Json)} (h : (members.map (·.1)).Nodup) :
    decode (.obj members) = .ok nio ↔ Spelt (.obj members) nio ∧ nio.Fits := by
  have hbeside : ((members.filter (·.1 != "type")).map (·.1)).Nodup :=
    h.sublist (List.filter_sublist.map _)
  have hfields : (∀ e ∈ nio.written.tail,
        Dict.getEntry e.1 (members.filter (·.1 != "type")) = some e.2)
      ↔ ∀ e ∈ nio.written.tail, Dict.getEntry e.1 members = some e.2 :=
    forall₂_congr fun e he => by rw [getEntry_beside he]
  rw [spelt_iff, show nio.written = ("type", .str nio.kind.tag) :: nio.written.tail from rfl,
    List.forall_mem_cons]
  simp only [decode, bind_eq_ok_iff, requireField_eq_ok, decodeKind_eq_ok,
    ofMembers_eq_ok hbeside, hfields]
  constructor
  · rintro ⟨-, htype, -, rfl, rfl, hfits, hfound⟩
    exact ⟨⟨htype, hfound⟩, hfits⟩
  · rintro ⟨⟨htype, hfound⟩, hfits⟩
    exact ⟨_, htype, _, rfl, rfl, hfits, hfound⟩

theorem find_tag (k : Kind) : Kind.tags.find? (·.1 == k.tag) = some (k.tag, k) := by
  cases k <;> decide

/-- A description is accepted exactly if it has the word for a kind and is read as a binding that
nothing is wrong with. -/
theorem ofSpec_eq_ok : ofSpec spec = .ok nio
    ↔ (∃ k : Kind, spec.get? "type" = some (.str k.tag)) ∧ decode spec = .ok nio
      ∧ nio.fault? = none := by
  unfold ofSpec
  constructor
  · intro h
    split at h
    · rename_i tag htype
      split at h
      · cases h
      · rename_i tag' k hfind
        obtain ⟨k', -, hentry⟩ := List.mem_map.mp (List.mem_of_find?_eq_some hfind)
        have hname := List.find?_some hfind
        cases hentry
        split at h
        · cases h
        · rename_i read hread
          split at h
          · cases h
          · rename_i hfault
            cases h
            have htag : k.tag = tag := eq_of_beq hname
            exact ⟨⟨k, htag ▸ htype⟩, hread, hfault⟩
    · cases h
  · rintro ⟨⟨k, htype⟩, hread, hfault⟩
    rw [htype]
    dsimp only
    rw [find_tag, hread]
    dsimp only
    rw [hfault]

/-- **What is accepted is what describes a binding.** A list is never accepted here although it can
be read, because a description is looked at by its keys before it is read. -/
theorem ofSpec_eq_ok_iff (h : spec.Unambiguous) : ofSpec spec = .ok nio ↔ Describes spec nio := by
  rw [ofSpec_eq_ok, Describes, usable_iff]
  cases spec with
  | obj members =>
    rw [decode_obj_eq_ok h]
    constructor
    · rintro ⟨-, ⟨hspelt, hfits⟩, hfault⟩
      exact ⟨hspelt, hfits, hfault⟩
    · rintro ⟨hspelt, hfits, hfault⟩
      exact ⟨⟨nio.kind, spelt_iff.mp hspelt _ (.head _)⟩, ⟨hspelt, hfits⟩, hfault⟩
  | null | bool | int | float | str | arr =>
    refine iff_of_false ?_ ?_
    · rintro ⟨⟨k, htype⟩, -⟩
      cases htype
    · rintro ⟨hspelt, -⟩
      cases spelt_iff.mp hspelt _ (.head _)

/-! ## The written form

Writing a binding gives a description of it, and cutting a description down to what it says gives
the written form. -/

theorem getEntry_eq_of_forall {look : String → Option Json} {l : List (String × Json)}
    (h : ∀ e ∈ l, look e.1 = some e.2) (key : String) :
    Dict.getEntry key l = if key ∈ l.map (·.1) then look key else none := by
  induction l with
  | nil => rfl
  | cons e rest ih =>
    obtain ⟨key', v⟩ := e
    obtain ⟨hfirst, hrest⟩ := List.forall_mem_cons.mp h
    rw [Dict.getEntry, ih hrest, List.map_cons]
    by_cases heq : key = key'
    · subst heq
      rw [if_pos Std.ReflOrd.compare_self, if_pos (.head _), hfirst]
    · rw [if_neg (fun h => heq (Std.LawfulEqOrd.eq_of_compare h))]
      simp only [List.mem_cons, heq, false_or]

/-- **The written form of a binding is the part of its description that its kind looks at.** Nothing
is added, and no default is put in: every field of a kind has to be given. -/
theorem Spelt.toJson_eq (h : Spelt spec nio) (hspec : spec.Unambiguous) :
    nio.toJson = spec.restrict nio.kind.keys := by
  have hnodup : (nio.written.map (·.1)).Nodup := keys_written nio ▸ nio.kind.nodup_keys
  rw [toJson_eq_mkObj]
  cases spec with
  | obj members =>
    refine congrArg Json.ofDict (Dict.ext_get fun key => ?_)
    rw [Dict.get_ofList hnodup, getEntry_eq_of_forall (spelt_iff.mp h), keys_written]
    exact (Json.get_restrict hspec nio.kind.keys key).symm
  | null | bool | int | float | str | arr => cases spelt_iff.mp h _ (.head _)

/-- **The part of a description that its kind looks at describes the same binding.** So what an
engine is sent is a description in its turn. -/
theorem Describes.restrict (h : Describes spec nio) (hspec : spec.Unambiguous) :
    Describes (spec.restrict nio.kind.keys) nio := by
  refine ⟨spelt_iff.mpr fun e he => ?_, h.2⟩
  have hkey : e.1 ∈ nio.kind.keys := by
    rw [← keys_written]
    exact List.mem_map_of_mem he
  rw [Json.get_restrict hspec, if_pos hkey]
  exact spelt_iff.mp h.1 e he

/-! ## Descriptions and bindings

The two directions put together, with the operation that uses them. A description that is refused
has no effect on the engine or on the node. -/

/-- A description that is refused refuses the operation, before anything is sent. The engine is not
even looked for. -/
theorem perform_addNio_refused {cause : SpecError} (hspec : ofSpec spec = .error cause) {n : Node}
    {index : Nat} (hcreated : n.status.isCreated = true) (hindex : index < n.adapters)
    (hfree : n.nios.contains index = false) (outside : Node.Outside) :
    n.perform (.addNio index spec, outside)
      = ⟨[], some (.error (.validation (.nio cause))), n⟩ := by
  have hperformed := Node.perform_performed n (.addNio index spec, outside)
  have hagenda : n.agenda (.addNio index spec) = .refuse (.validation (.nio cause)) := by
    show n.whenCreated _ (n.whenAdapter _ (if _ then _ else _)) = _
    rw [Node.whenCreated, if_pos hcreated, Node.whenAdapter, if_pos hindex,
      if_neg (Bool.eq_false_iff.mp hfree), hspec]
  rw [hagenda] at hperformed
  exact hperformed

/-- **Descriptions.** What is accepted as a binding is exactly what describes it. The written form
of the binding is then the part of the description that its kind looks at, and is accepted as the
same binding. Every other value is refused, and where nothing else stands in the way of a binding,
the refusal is a failed validation: the engine is asked nothing and the node stays as it is.

The first part makes acceptance a property of the value that can be read off it; the second says
that accepting, writing and accepting again comes back to the same binding, so that what a node
keeps and what its engine was told are two spellings of one thing. In the third, the conditions on
the node are those without which the operation is refused for another reason, before the description
is looked at. -/
theorem descriptions (h : spec.Unambiguous) :
    (∀ nio, ofSpec spec = .ok nio ↔ Describes spec nio)
    ∧ (∀ nio, Describes spec nio →
        nio.toJson = spec.restrict nio.kind.keys ∧ ofSpec nio.toJson = .ok nio)
    ∧ ((∀ nio, ¬ Describes spec nio) → ∃ cause, ofSpec spec = .error cause
        ∧ ∀ (n : Node) (index : Nat) (outside : Node.Outside), n.status.isCreated = true →
          index < n.adapters → n.nios.contains index = false →
          n.perform (.addNio index spec, outside)
            = ⟨[], some (.error (.validation (.nio cause))), n⟩) := by
  refine ⟨fun nio => ofSpec_eq_ok_iff h, fun nio hnio => ?_, fun hnone => ?_⟩
  · have hwritten := hnio.1.toJson_eq h
    refine ⟨hwritten, ?_⟩
    rw [hwritten, ofSpec_eq_ok_iff (Json.unambiguous_restrict h _)]
    exact hnio.restrict h
  · cases hspec : ofSpec spec with
    | ok nio => exact absurd ((ofSpec_eq_ok_iff h).mp hspec) (hnone nio)
    | error cause =>
      exact ⟨cause, rfl, fun n index outside hcreated hindex hfree =>
        perform_addNio_refused hspec hcreated hindex hfree outside⟩

section Examples

/-- A tunnel, with a remark that no kind looks at. The local port is left open. -/
def tunnelSpec (lport : Json) : Json :=
  .obj [("lport", lport), ("remark", .str "to the lab"), ("rhost", .str "10.0.0.7"),
    ("rport", .nat 65535), ("type", .str "nio_udp")]

theorem unambiguous_tunnelSpec (lport : Json) : (tunnelSpec lport).Unambiguous := by
  show ["lport", "remark", "rhost", "rport", "type"].Nodup
  decide

/-- A tunnel is accepted and is written without the remark; from a port with a fraction there is no
tunnel. -/
theorem tunnel_described :
    (tunnelSpec (.nat 4000)).Unambiguous
    ∧ (udp 4000 "10.0.0.7" 65535).toJson = (tunnelSpec (.nat 4000)).restrict Kind.udp.keys
    ∧ ofSpec (udp 4000 "10.0.0.7" 65535).toJson = .ok (udp 4000 "10.0.0.7" 65535)
    ∧ ∀ x, ∃ cause, ofSpec (tunnelSpec (.float x)) = .error cause := by
  have haccepted := (descriptions (unambiguous_tunnelSpec (.nat 4000))).2.1
    (udp 4000 "10.0.0.7" 65535) ⟨⟨rfl, rfl, rfl, rfl⟩, ⟨by decide, by decide, by decide⟩⟩
  refine ⟨unambiguous_tunnelSpec _, haccepted.1, haccepted.2, fun x => ?_⟩
  have hnone (nio : Nio) : ¬ Describes (tunnelSpec (.float x)) nio := by
    rintro ⟨hspelt, -⟩
    cases nio <;> simp [Spelt, tunnelSpec, Json.get?, Dict.getEntry, Json.nat] at hspelt
  obtain ⟨cause, hcause, -⟩ := (descriptions (unambiguous_tunnelSpec (.float x))).2.2 hnone
  exact ⟨cause, hcause⟩

end Examples

end Nio

end Testbed
