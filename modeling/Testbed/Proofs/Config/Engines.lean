import Mathlib.Data.List.Nodup
import Testbed.Config.Settings
import Testbed.Proofs.Dict
import Testbed.Proofs.Outcome

/-!
# The engines that a configuration describes

Two of the values that describe an engine are numbers, its port and the version of its interface
(`Figure`). On the way from a section to a record they pass through three hands: the section reads
what it can as an unsigned number and treats the rest as absent, the usual number stands in for what
is absent, and what the record has no room for makes the settings fail.

So there are two kinds of unusable values, and they fare differently. A number that can be read and
is out of range is something wrong with the configuration (`Wrong`), and there are no settings. What
cannot be read – a negative number, one with a fraction, a truth value, a word, digits beyond 64
bits – is gone after the first hand: nothing remembers that there was a value, and the engine gets
the usual number (`unreadable_figures_replaced`). `figures_of_settings` draws the line between the
two for all configurations: settings fail exactly if something is wrong, and otherwise the records
are those of the engines' sections, one by one, with the numbers that can be read and the usual ones
elsewhere.

The two kinds are told apart by the getter alone, and it has no way to complain: it gives a number
or nothing. So the check of the range comes too late for what is not a number of the right kind, and
no later step can find out. `Reads` writes down what the getter accepts without mentioning how it
goes about it.
-/

namespace Testbed

namespace Toml

/-- Digits that write a number of 64 bits. Signs and blanks are not part of it. -/
structure Numeral (digits : List Char) (n : Nat) : Prop where
  ne_nil : digits ≠ []
  isDigit : ∀ c ∈ digits, DecimalText.isDigit c = true
  natOf : DecimalText.natOf digits = n
  lt : n < UInt64.size

/-- **The unsigned number that a value can be read as.** A number with a fraction cannot be read
even if the fraction is zero, and neither can a truth value. -/
inductive Reads : Toml → Nat → Prop
  /-- A number that is not negative. -/
  | number (n : Nat) : Reads (.int n) n
  /-- Digits in quotes, perhaps with blanks around them and a plus sign before them. -/
  | quoted {text : String} {sign digits : List Char} {n : Nat}
      (htext : (Text.trim text).toList = sign ++ digits) (hsign : sign = [] ∨ sign = ['+'])
      (h : Numeral digits n) : Reads (.str text) n

end Toml

/-! ## What a section gives

A number may be written as a number or as a text with blanks and a plus sign around its digits. What
cannot be read in one of these ways is as good as absent, which is where a slip can hide. -/

namespace Section

open Toml (Numeral)

/-- A section has a value under a key that can be read as a number. Two keys of one section may give
the same number. -/
def Gives (s : Section) (key : String) (n : Nat) : Prop := ∃ v, s.get? key = some v ∧ v.Reads n

theorem readUnsigned?_eq_some_iff {l : List Char} {n : Nat} :
    readUnsigned? l = some n
      ↔ ∃ sign digits, l = sign ++ digits ∧ (sign = [] ∨ sign = ['+']) ∧ Numeral digits n := by
  -- the digits are what follows a plus sign; no digit is one
  have hread (digits : List Char) :
      (if !digits.isEmpty && digits.all DecimalText.isDigit then
        (if DecimalText.natOf digits < unsignedBound then some (DecimalText.natOf digits) else none)
        else none) = some n ↔ Numeral digits n := by
    simp only [Option.ite_none_right_eq_some, Bool.and_eq_true, Bool.not_eq_true',
      List.isEmpty_eq_false_iff, List.all_eq_true, Option.some.injEq]
    constructor
    · rintro ⟨⟨hne, hall⟩, hlt, hvalue⟩
      exact ⟨hne, hall, hvalue, hvalue ▸ hlt⟩
    · exact fun h => ⟨⟨h.ne_nil, h.isDigit⟩, h.natOf.symm ▸ h.lt, h.natOf⟩
  unfold readUnsigned?
  split
  · rename_i rest
    rw [hread rest]
    constructor
    · exact fun h => ⟨['+'], rest, rfl, .inr rfl, h⟩
    · rintro ⟨sign, digits, hl, rfl | rfl, h⟩
      · subst hl
        exact absurd (h.isDigit '+' List.mem_cons_self) (by decide)
      · obtain ⟨-, rfl⟩ := List.cons.inj hl
        exact h
  · rename_i hplus
    rw [hread l]
    constructor
    · exact fun h => ⟨[], l, rfl, .inl rfl, h⟩
    · rintro ⟨sign, digits, rfl, rfl | rfl, h⟩
      · exact h
      · exact absurd rfl (hplus digits)

/-- **A section's getter finds the numbers that can be read, and only these.** Negative numbers,
numbers with a point and words are all outside of it. -/
theorem unsigned?_eq_some_iff {s : Section} {key : String} {n : Nat} :
    s.unsigned? key = some n ↔ s.Gives key n := by
  unfold unsigned? Gives
  split
  · rename_i i hkey
    rw [hkey]
    constructor
    · intro h
      obtain ⟨hi, hn⟩ := Option.ite_none_right_eq_some.mp h
      obtain rfl : (n : Int) = i := by
        rw [← Option.some.inj hn, Int.toNat_of_nonneg hi]
      exact ⟨.int n, rfl, .number n⟩
    · rintro ⟨v, hv, hreads⟩
      cases hv
      cases hreads
      rfl
  · rename_i text hkey
    rw [hkey, readUnsigned?_eq_some_iff]
    constructor
    · rintro ⟨sign, digits, htext, hsign, h⟩
      exact ⟨.str text, rfl, .quoted htext hsign h⟩
    · rintro ⟨v, hv, hreads⟩
      cases hv
      cases hreads with
      | quoted htext hsign h => exact ⟨_, _, htext, hsign, h⟩
  · rename_i hint hstr
    refine iff_of_false nofun ?_
    rintro ⟨v, hv, hreads⟩
    cases hreads with
    | number n => exact hint n hv
    | quoted => exact hstr _ hv

theorem unsigned?_eq_none_iff {s : Section} {key : String} :
    s.unsigned? key = none ↔ ∀ n, ¬ s.Gives key n := by
  simp only [Option.eq_none_iff_forall_ne_some, ne_eq, unsigned?_eq_some_iff]

end Section

/-! ## The figures of an engine

Port and version are treated alike, up to their key, their usual value and their bound. Everything
is said once, of a figure. -/

/-- **The numbers that describe an engine.** They differ in the key, in the usual number, in the
bound and in what is reported, and in nothing else. Whatever can be said of both is said of a figure
below. -/
inductive Figure where
  /-- Its port. -/
  | port
  /-- The version of its interface. -/
  | apiVersion

namespace Figure

open Config (below enginePort engineVersion)

/-- The key under which it is given. It is looked for in the engine's section first. -/
def key : Figure → String
  | port => "port"
  | apiVersion => "api_version"

/-- What it is unless it is given. Both are in range. -/
def usual : Figure → Nat
  | port => 3080
  | apiVersion => 2

/-- It stays below this bound. A number at the bound is too large. -/
def bound : Figure → Nat
  | port => UInt16.size
  | apiVersion => UInt32.size

/-- The figure of a record. It was checked when the record was made. -/
def of : Figure → EngineRecord → Nat
  | port => EngineRecord.port
  | apiVersion => EngineRecord.apiVersion

/-- What is said about an engine whose figure is out of range. It names the engine and the number
that was given. -/
def complaint : Figure → String → Nat → Misconfigured
  | port => .port
  | apiVersion => .apiVersion

/-- How it is taken from the section of an engine. The two functions are written differently,
although they do the same. -/
def taken : Figure → String → Section → Except ControlError Nat
  | port => enginePort
  | apiVersion => engineVersion

/-- What a section says about it. A value that cannot be read counts as not given. -/
def value (f : Figure) (s : Section) : Nat := (s.unsigned? f.key).getD f.usual

variable {f : Figure} {id : String} {s : Section} {n : Nat}

theorem usual_lt_bound (f : Figure) : f.usual < f.bound := by
  cases f <;> decide

/-- Both are taken in the same way, although a version is checked only if it is given. The usual
version is in range, so checking it as well would change nothing. -/
theorem taken_eq (f : Figure) (id : String) (s : Section) :
    f.taken id s = below f.bound (f.value s) (f.complaint id (f.value s)) := by
  cases f with
  | port => rfl
  | apiVersion =>
    show engineVersion id s = _
    unfold engineVersion value key
    cases s.unsigned? "api_version" with
    | none => rfl
    | some n => rfl

theorem value_of_gives (h : s.Gives f.key n) : f.value s = n := by
  rw [value, Section.unsigned?_eq_some_iff.mpr h, Option.getD_some]

theorem value_of_not_gives (h : ∀ n, ¬ s.Gives f.key n) : f.value s = f.usual := by
  rw [value, Section.unsigned?_eq_none_iff.mpr h, Option.getD_none]

/-- What is out of range was given, the usual number being in range. So a complaint always is about
something that stands in the configuration. -/
theorem gives_value (h : f.bound ≤ f.value s) : s.Gives f.key (f.value s) := by
  by_cases hgives : ∃ n, s.Gives f.key n
  · obtain ⟨n, hn⟩ := hgives
    exact (value_of_gives hn).symm ▸ hn
  · rw [value_of_not_gives (not_exists.mp hgives)] at h
    exact absurd f.usual_lt_bound (Nat.not_lt.mpr h)

theorem value_of_taken (h : f.taken id s = .ok n) : f.value s = n ∧ n < f.bound := by
  rw [taken_eq, below] at h
  split at h
  · rename_i hlt
    cases h
    exact ⟨rfl, hlt⟩
  · cases h

theorem gives_of_taken_eq_error {e : ControlError} (h : f.taken id s = .error e) :
    ∃ n, s.Gives f.key n ∧ f.bound ≤ n ∧ e = .config (f.complaint id n) := by
  rw [taken_eq, below] at h
  split at h
  · cases h
  · rename_i hle
    cases h
    have hle := Nat.not_lt.mp hle
    exact ⟨f.value s, gives_value hle, hle, rfl⟩

end Figure

/-! ## The record of an engine

What can be wrong with a section, and what a record has to do with its section when nothing is. -/

/-- **What is wrong with the section of an engine.** Several things may be wrong with one section.
-/
inductive Section.Misdescribes (s : Section) (id : String) : Misconfigured → Prop
  /-- It does not say where the engine is. -/
  | host (h : s.text? "host" = none) : Misdescribes s id (.missingHost id)
  /-- It gives a figure that is out of range. -/
  | figure (f : Figure) {n : Nat} (h : s.Gives f.key n) (hbound : f.bound ≤ n) :
      Misdescribes s id (f.complaint id n)

/-- **An engine's record has the figures of a section**: those that it gives, in range, and for
those that it does not the usual ones. The other fields are texts and are taken as they stand. -/
structure EngineRecord.Follows (r : EngineRecord) (id : String) (s : Section) : Prop where
  id : r.id = id
  given : ∀ (f : Figure) (n : Nat), s.Gives f.key n → n < f.bound ∧ f.of r = n
  usual : ∀ f : Figure, (∀ n, ¬ s.Gives f.key n) → f.of r = f.usual

namespace Config

variable {c : Config} {id : String} {s : Section} {r : EngineRecord} {e : ControlError}

theorem engineHost_eq_ok {host : String} (h : engineHost id s = .ok host) :
    s.text? "host" = some host := by
  unfold engineHost at h
  split at h
  · rename_i host' hhost
    cases h
    exact hhost
  · cases h

theorem misdescribes_of_engineHost (h : engineHost id s = .error e) :
    ∃ cause, e = .config cause ∧ s.Misdescribes id cause := by
  unfold engineHost at h
  split at h
  · cases h
  · rename_i hhost
    cases h
    exact ⟨_, rfl, .host hhost⟩

theorem misdescribes_of_taken (f : Figure) (h : f.taken id s = .error e) :
    ∃ cause, e = .config cause ∧ s.Misdescribes id cause := by
  obtain ⟨n, hgives, hbound, rfl⟩ := Figure.gives_of_taken_eq_error h
  exact ⟨_, rfl, .figure f hgives hbound⟩

/-- A record is made when all of its parts are found. The host has no usual value. -/
theorem engineRecord_eq_ok (h : engineRecord id s = .ok r) :
    s.text? "host" = some r.host ∧ r.id = id ∧ ∀ f : Figure, f.taken id s = .ok (f.of r) := by
  obtain ⟨host, hhost, h⟩ := bind_eq_ok h
  obtain ⟨port, hport, h⟩ := bind_eq_ok h
  obtain ⟨version, hversion, h⟩ := bind_eq_ok h
  cases h
  refine ⟨engineHost_eq_ok hhost, rfl, fun f => ?_⟩
  cases f with
  | port => exact hport
  | apiVersion => exact hversion

/-- The first that is not found is reported. Nothing but the host and the figures can be at fault.
-/
theorem misdescribes_of_engineRecord (h : engineRecord id s = .error e) :
    ∃ cause, e = .config cause ∧ s.Misdescribes id cause := by
  obtain hhost | ⟨host, -, h⟩ := bind_eq_error h
  · exact misdescribes_of_engineHost hhost
  obtain hport | ⟨port, -, h⟩ := bind_eq_error h
  · exact misdescribes_of_taken .port hport
  obtain hversion | ⟨version, -, h⟩ := bind_eq_error h
  · exact misdescribes_of_taken .apiVersion hversion
  cases h

theorem follows_of_engineRecord_eq_ok (h : engineRecord id s = .ok r) : r.Follows id s := by
  obtain ⟨-, hid, htaken⟩ := engineRecord_eq_ok h
  refine ⟨hid, fun f n hgives => ?_, fun f hgives => ?_⟩
  · obtain ⟨hvalue, hlt⟩ := Figure.value_of_taken (htaken f)
    rw [Figure.value_of_gives hgives] at hvalue
    exact ⟨hvalue ▸ hlt, hvalue.symm⟩
  · rw [← (Figure.value_of_taken (htaken f)).1, Figure.value_of_not_gives hgives]

theorem not_misdescribes_of_engineRecord_eq_ok (h : engineRecord id s = .ok r)
    (cause : Misconfigured) : ¬ s.Misdescribes id cause := by
  intro hcause
  cases hcause with
  | host hhost => exact nomatch hhost.symm.trans (engineRecord_eq_ok h).1
  | figure f hgives hbound =>
    exact absurd ((follows_of_engineRecord_eq_ok h).given f _ hgives).1 (Nat.not_lt.mpr hbound)

/-! ## The engines' sections

An engine's section is found by its name. Different sections are about different engines, as the
name is the identifier with something fixed in front. -/

/-- The engines that sections are about. They come in the order of their sections' names. -/
def engineIds (c : Config) : List String := c.sectionNames.filterMap engineNamed?

/-- The section that is about an engine. The fallback is under it. -/
def engineSection (c : Config) (id : String) : Section := c.sectionNamed (enginePrefix ++ id)

theorem eq_of_engineNamed? {name : String} (h : engineNamed? name = some id) :
    name = enginePrefix ++ id := by
  obtain ⟨hstart, hid⟩ := Option.ite_none_right_eq_some.mp h
  obtain ⟨rest, hrest⟩ := List.isPrefixOf_iff_prefix.mp hstart
  rw [← hrest, List.drop_left] at hid
  rw [← Option.some.inj hid, ← String.toList_inj, String.toList_append, String.toList_ofList, hrest]

/-- Every engine has one section. Two sections with one name would be one section. -/
theorem nodup_engineIds (c : Config) : c.engineIds.Nodup := by
  refine List.Nodup.filterMap (fun name name' id h h' => ?_) c.sections.nodup_keys
  rw [eq_of_engineNamed? h, eq_of_engineNamed? h']

/-- The record of the engine that a section is about, if it is about one. It is the body of the loop
over all sections. -/
def recordNamed (c : Config) (name : String) : Except ControlError (Option EngineRecord) :=
  match engineNamed? name with
  | some id => (engineRecord id (c.sectionNamed name)).map some
  | none => .ok none

/-- Records are made one by one, of the sections that are about engines. Sections of another kind
neither add a record nor stop the loop. -/
theorem filterMapM_recordNamed (c : Config) (names : List String) :
    names.filterMapM c.recordNamed
      = (names.filterMap engineNamed?).mapM (fun id => engineRecord id (c.engineSection id)) := by
  induction names with
  | nil => rfl
  | cons name rest ih =>
    rw [List.filterMapM_cons, ih, recordNamed, List.filterMap_cons]
    cases hname : engineNamed? name with
    | none => rfl
    | some id =>
      rw [eq_of_engineNamed? hname]
      show ((engineRecord id (c.engineSection id)).map some >>= _) = List.mapM _ (id :: _)
      rw [List.mapM_cons]
      cases engineRecord id (c.engineSection id) <;> rfl

theorem engineRecords_eq (c : Config) :
    c.engineRecords = c.engineIds.mapM (fun id => engineRecord id (c.engineSection id)) :=
  filterMapM_recordNamed c c.sectionNames

/-! ## The settings

Settings come out of a configuration exactly if nothing is wrong with it. What each engine's record
says then follows from its section. -/

/-- **What is wrong with a configuration.** Only the log level and the sections of engines can keep
a configuration from giving settings. The time-out and the other values have usual ones that always
stand in. -/
inductive Wrong (c : Config) : Misconfigured → Prop
  /-- There is no log level of the name that it gives. -/
  | level {word : String} {cause : Misconfigured}
      (h : (c.sectionNamed "logging").text? "level" = some word)
      (hword : LogLevel.ofText word = .error (.config cause)) : Wrong c cause
  /-- Something is wrong with the section of an engine. -/
  | engine {id : String} {cause : Misconfigured} (hid : id ∈ c.engineIds)
      (h : (c.engineSection id).Misdescribes id cause) : Wrong c cause

theorem logLevel_ofText_eq_error {word : String} (h : LogLevel.ofText word = .error e) :
    ∃ cause, e = .config cause := by
  simp only [LogLevel.ofText] at h
  split at h
  · cases h
  · split at h
    · cases h
    · cases h
      exact ⟨_, rfl⟩

theorem wrong_of_logLevel (h : logLevel (c.sectionNamed "logging") = .error e) :
    ∃ cause, e = .config cause ∧ c.Wrong cause := by
  unfold logLevel at h
  split at h
  · rename_i word hword
    obtain ⟨cause, rfl⟩ := logLevel_ofText_eq_error h
    exact ⟨cause, rfl, .level hword h⟩
  · cases h

theorem wrong_of_engineRecords (h : c.engineRecords = .error e) :
    ∃ cause, e = .config cause ∧ c.Wrong cause := by
  rw [engineRecords_eq] at h
  obtain ⟨id, hid, hrecord⟩ := exists_mem_of_mapM_eq_error h
  obtain ⟨cause, he, hcause⟩ := misdescribes_of_engineRecord hrecord
  exact ⟨cause, he, .engine hid hcause⟩

theorem settings_eq_ok {projects : OsPath} {s : Settings} (h : c.settings projects = .ok s) :
    (∃ level, logLevel (c.sectionNamed "logging") = .ok level)
      ∧ List.Forall₂ (fun id r => engineRecord id (c.engineSection id) = .ok r)
        c.engineIds s.engines := by
  obtain ⟨level, hlevel, h⟩ := bind_eq_ok h
  obtain ⟨engines, hengines, h⟩ := bind_eq_ok h
  cases h
  rw [engineRecords_eq] at hengines
  exact ⟨⟨level, hlevel⟩, forall₂_of_mapM hengines⟩

/-- The engines of the settings are those with a section. None is left out and none is added. -/
theorem ids_of_settings {projects : OsPath} {s : Settings} (h : c.settings projects = .ok s) :
    s.engines.map (·.id) = c.engineIds := by
  have hengines := (settings_eq_ok h).2
  rw [← List.forall₂_eq_eq_eq]
  exact List.forall₂_map_left_iff.mpr
    (hengines.flip.imp fun r id hr => (engineRecord_eq_ok hr).2.1)

theorem wrong_of_settings {projects : OsPath} (h : c.settings projects = .error e) :
    ∃ cause, e = .config cause ∧ c.Wrong cause := by
  obtain hlevel | ⟨level, -, h⟩ := bind_eq_error h
  · exact wrong_of_logLevel hlevel
  obtain hengines | ⟨engines, -, h⟩ := bind_eq_error h
  · exact wrong_of_engineRecords hengines
  cases h

/-- Settings do not come out of a configuration with which something is wrong. It holds of every
cause, not only of the one that would be reported. -/
theorem not_wrong_of_settings_eq_ok {projects : OsPath} {s : Settings}
    (h : c.settings projects = .ok s) (cause : Misconfigured) : ¬ c.Wrong cause := by
  obtain ⟨⟨level, hlevel⟩, hengines⟩ := settings_eq_ok h
  intro hwrong
  cases hwrong with
  | level hword herror =>
    rw [logLevel, hword] at hlevel
    exact nomatch hlevel.symm.trans herror
  | @engine id _ hid hcause =>
    have hsound := (List.forall₂_and_left _ _).mp
      (hengines.imp fun id r h => ⟨not_misdescribes_of_engineRecord_eq_ok h cause, h⟩)
    exact hsound.1 id hid hcause

/-- **An engine has the figures that its section gives and can be read**, and the usual ones for
those that are absent or cannot. There are settings exactly if nothing is wrong; otherwise what is
reported is one of the things that are, a figure that is out of range being one. Several things may
be wrong at once, and it is not said which of them is reported. -/
theorem figures_of_settings (projects : OsPath) (c : Config) :
    (∀ e, c.settings projects = .error e → ∃ cause, e = .config cause ∧ c.Wrong cause)
      ∧ ((∃ s, c.settings projects = .ok s) ↔ ∀ cause, ¬ c.Wrong cause)
      ∧ ∀ s, c.settings projects = .ok s →
        List.Forall₂ (fun id r => r.Follows id (c.engineSection id)) c.engineIds s.engines := by
  refine ⟨fun e => wrong_of_settings, ⟨?_, fun h => ?_⟩, fun s hs => ?_⟩
  · rintro ⟨s, hs⟩
    exact not_wrong_of_settings_eq_ok hs
  · cases hs : c.settings projects with
    | ok s => exact ⟨s, rfl⟩
    | error e =>
      obtain ⟨cause, -, hwrong⟩ := wrong_of_settings hs
      exact absurd hwrong (h cause)
  · exact (settings_eq_ok hs).2.imp (fun id r => follows_of_engineRecord_eq_ok)

/-- An engine of which a port in quotes and a version are given. The blanks within the quotes do not
matter. -/
theorem quoted_port_read :
    ∃ c s, Config.parse "[compute.a]\nhost = 'h'\nport = ' +8080 '\napi_version = 3\n" = .ok c
      ∧ c.settings "" = .ok s
      ∧ List.Forall₂ (fun id r => r.Follows id (c.engineSection id)) c.engineIds s.engines
      ∧ c.engineIds = ["a"] ∧ (c.engineSection "a").text? "port" = some " +8080 "
      ∧ s.engines.map (fun r => (r.port, r.apiVersion)) = [(8080, 3)] := by
  obtain ⟨c, hc, h⟩ := exists_ok_of_any
    (x := Config.parse "[compute.a]\nhost = 'h'\nport = ' +8080 '\napi_version = 3\n")
    (p := fun c => c.engineIds == ["a"] && (c.engineSection "a").text? "port" == some " +8080 "
      && (c.settings "").toOption.any (fun s =>
        s.engines.map (fun r => (r.port, r.apiVersion)) == [(8080, 3)])) (by decide +kernel)
  obtain ⟨h, hsettings⟩ := Bool.and_eq_true_iff.mp h
  obtain ⟨hids, hport⟩ := Bool.and_eq_true_iff.mp h
  obtain ⟨s, hs, hfigures⟩ := exists_ok_of_any hsettings
  exact ⟨c, s, hc, hs, (figures_of_settings "" c).2.2 s hs, eq_of_beq hids, eq_of_beq hport,
    eq_of_beq hfigures⟩

/-- **A figure that cannot be read is replaced**, as if it were not there: a port and a version that
are negative make an engine with the usual ones, and nothing is reported. -/
theorem unreadable_figures_replaced :
    ∃ c s, Config.parse "[compute.a]\nhost = \"h\"\nport = -1\napi_version = -1\n" = .ok c
      ∧ c.settings "" = .ok s
      ∧ (c.engineSection "a").text? "port" = some "-1"
      ∧ (c.engineSection "a").text? "api_version" = some "-1"
      ∧ s.engines.map (fun r => (r.id, r.port, r.apiVersion)) = [("a", 3080, 2)] := by
  obtain ⟨c, hc, h⟩ := exists_ok_of_any
    (x := Config.parse "[compute.a]\nhost = \"h\"\nport = -1\napi_version = -1\n")
    (p := fun c => (c.engineSection "a").text? "port" == some "-1"
      && (c.engineSection "a").text? "api_version" == some "-1"
      && (c.settings "").toOption.any (fun s =>
        s.engines.map (fun r => (r.id, r.port, r.apiVersion)) == [("a", 3080, 2)]))
    (by decide +kernel)
  obtain ⟨h, hsettings⟩ := Bool.and_eq_true_iff.mp h
  obtain ⟨hport, hversion⟩ := Bool.and_eq_true_iff.mp h
  obtain ⟨s, hs, hfigures⟩ := exists_ok_of_any hsettings
  exact ⟨c, s, hc, hs, eq_of_beq hport, eq_of_beq hversion, eq_of_beq hfigures⟩

end Config

end Testbed
