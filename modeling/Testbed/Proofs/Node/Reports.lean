import Testbed.Proofs.Node.Resubmission

/-!
# Which reports a typed field follows

What a request may ask for under a key is validated, and what a report says under it is not: it is
read as far as it can be, and taken over in the form in which it was read. A value that cannot be
read should leave the field as it was. This module compares the two, with the validation of requests
as the measure of what is usable (`Ignores`).

The console protocol and the number of adapters follow usable reports only, because they are read
and validated by the same function. A name follows every text, also the empty one. A console follows
every report: what is no number of 32 bits unsets it, as `null` does.
-/

namespace Testbed.Node

variable {n : Node} {report value : Json} {key : String}

/-- **A report leaves what is under a key as it was if its value may not be asked for there.** A
report without the key leaves it anyway. -/
def Ignores (n : Node) (report : Json) (key : String) : Prop :=
  ∀ value, member? report key = some value → n.objection? key value ≠ none →
    (n.merge report).setting? key = n.setting? key

theorem setting_reported (hvalue : member? report key = some value) :
    (n.merge report).setting? key = (n.stored? key value).or (n.setting? key) := by
  rw [setting_merge, hvalue]
  rfl

/-- The report of a field is ignored if the field has already what is read of a value that may not
be asked for. -/
theorem ignores_field_iff {f : NodeField} :
    n.Ignores report f.key ↔ ∀ value, member? report f.key = some value →
      fieldAccepts f value = false → ∀ form, n.stored? f.key value = some form →
        form = n.fieldValue f := by
  unfold Ignores
  refine forall_congr' fun value => forall_congr' fun hvalue => ?_
  rw [ne_eq, objection_field, Bool.not_eq_true, setting_reported hvalue, setting_field]
  cases n.stored? f.key value <;> simp

/-! ## Validated by reading

Where a value can only be read if it is allowed, a value that is not allowed cannot be taken over.
Nothing further has to be checked for these fields. -/

theorem ignores_consoleType (n : Node) (report : Json) : n.Ignores report "console_type" := by
  refine (ignores_field_iff (f := .consoleType)).mpr fun value _ hno form hform => ?_
  rw [stored_field] at hform
  cases hdecode : ConsoleType.decode value with
  | error e =>
    rw [hdecode] at hform
    cases hform
  | ok c =>
    rw [fieldAccepts, hdecode] at hno
    cases hno

theorem ignores_adapters (n : Node) (report : Json) : n.Ignores report "adapters" := by
  intro value hvalue hunusable
  rw [setting_reported hvalue, stored_adapters]
  unfold objection? at hunusable
  rw [route_eq_adapters_iff.mpr rfl] at hunusable
  cases hread : value.nat32? with
  | none => rfl
  | some count => simp [hread] at hunusable

/-! ## Validated further

An update checks a name and a console further than their types do. A report is not checked in this
way, and the two fields behave differently. -/

/-- An empty name is taken over. Any other text passes the check, and what is no text is not taken
over. -/
theorem ignores_name_iff (n : Node) (report : Json) :
    n.Ignores report "name" ↔ (member? report "name" = some (.str "") → n.name = "") := by
  refine (ignores_field_iff (f := .name)).trans ⟨fun h hname => ?_, fun h value hvalue hno => ?_⟩
  · exact (Json.str.inj (h _ hname rfl _ (stored_field n .name (.str "")))).symm
  · rw [stored_field]
    rintro form hform
    cases value with
    | str name =>
      -- a text that is refused is empty
      obtain rfl : name = "" := by simpa [fieldAccepts, Json.str?] using hno
      obtain rfl := Option.some.inj hform
      exact congrArg Json.str (h hvalue).symm
    | null | bool | int | float | arr | obj => cases hform

/-- Whatever is reported as a console is taken over as a number or as none. So a text in the place
of a number removes the console. -/
theorem ignores_console_iff (n : Node) (report : Json) :
    n.Ignores report "console" ↔ ∀ value, member? report "console" = some value →
      fieldAccepts .console value = false → value.nat32? = n.console := by
  refine (ignores_field_iff (f := .console)).trans ?_
  refine forall_congr' fun value => forall_congr' fun _ => forall_congr' fun _ => ?_
  rw [stored_field]
  constructor
  · intro h
    exact Json.natOrNull_inj (h _ rfl)
  · rintro h _ ⟨⟩
    exact congrArg Json.natOrNull h

/-! ## What is followed

The engine is followed in all that can be read. The theorem collects for which keys a report that an
update would have refused is left out. -/

/-- **What the fields are after a report** that says something of them which can be read. It has a
value for each field, the one that the report says where it can be read. -/
structure Heard (n : Node) (report : Json) : Prop where
  /-- A name is any text. -/
  name : ∀ text, member? report "name" = some (.str text) → (n.merge report).name = text
  /-- A console is a number of 32 bits, and there is none if anything else is reported, such as
  `null`. -/
  console : ∀ value, member? report "console" = some value →
    (n.merge report).console = value.nat32?
  /-- A console protocol is what is read as one. -/
  consoleType : ∀ value consoleType, member? report "console_type" = some value →
    ConsoleType.decode value = .ok consoleType → (n.merge report).consoleType = consoleType
  /-- There are as many adapters as reported, unless a binding lies beyond them. -/
  adapters : ∀ count, member? report "adapters" = some (.nat count) → count < UInt32.size →
    n.boundFrom count = [] → (n.merge report).adapters = count

theorem fieldValue_reported {f : NodeField} {form : Json}
    (hvalue : member? report f.key = some value) (hform : n.stored? f.key value = some form) :
    (n.merge report).fieldValue f = form := by
  have hsetting := setting_reported (n := n) hvalue
  rw [hform, Option.some_or, setting_field] at hsetting
  exact Option.some.inj hsetting

theorem heard (n : Node) (report : Json) : n.Heard report where
  name text h := Json.str.inj (fieldValue_reported (f := .name) h (stored_field ..))
  console value h :=
    Json.natOrNull_inj (fieldValue_reported (f := .console) h (stored_field ..))
  consoleType value consoleType h hdecode := by
    have hform : n.stored? NodeField.consoleType.key value = some (.str consoleType.text) := by
      rw [stored_field, hdecode]
      rfl
    exact ConsoleType.text_inj (Json.str.inj (fieldValue_reported (f := .consoleType) h hform))
  adapters count h hcount hfree := by
    have hsetting := setting_reported (n := n) h
    rw [stored_adapters, Json.nat32_nat hcount, Option.filter_some, hfree, setting_adapters]
      at hsetting
    exact Json.nat_inj (Option.some.inj hsetting)

/-- **Which unusable reports are ignored**, besides what the usable ones do: those of the console
protocol and of the number of adapters all are. An empty name is taken over, and so is a console
that is no port, as a number or as none; they make no difference only if the node has the same
already.

So two of the four fields are as robust as they are meant to be, and two are not. For these the
statement gives the exact condition, which holds by accident only: the name is empty already, or the
console is what the unusable value is read as. -/
theorem reports_ignored_iff (n : Node) (report : Json) :
    n.Ignores report "console_type" ∧ n.Ignores report "adapters"
      ∧ (n.Ignores report "name" ↔ (member? report "name" = some (.str "") → n.name = ""))
      ∧ (n.Ignores report "console" ↔ ∀ value, member? report "console" = some value →
          fieldAccepts .console value = false → value.nat32? = n.console)
      ∧ n.Heard report :=
  ⟨n.ignores_consoleType report, n.ignores_adapters report, n.ignores_name_iff report,
    n.ignores_console_iff report, n.heard report⟩

section Examples

/-- A host whose console is chosen. -/
def consoleHost : NodeSpec := { host with console := some 5000 }

/-- Its console is lost when its engine reports it as a text. -/
theorem textual_console_unset :
    let n := draft default "captures" "engine" consoleHost
    let report := Json.mkObj [("console", .str "5000")]
    ¬ n.Ignores report "console" ∧ n.console = some 5000
      ∧ (n.perform (.create, reporting report)).result = some (.ok .done)
      ∧ (n.perform (.create, reporting report)).after.console = none := by
  intro n report
  refine ⟨fun hignores => ?_, rfl, rfl, rfl⟩
  have hkept := hignores (.str "5000") rfl (mt (objection_field (f := .console)).mp nofun)
  cases hkept

end Examples

end Testbed.Node
