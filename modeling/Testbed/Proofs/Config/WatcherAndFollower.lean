import Testbed.Proofs.Config.Following

/-!
# The watcher and the follower side by side

The two run for as long as the control plane does, step by step in any order, while the files are
edited as anybody likes: each look at them may find another disk. No reload is lost on the way
(`no_reload_lost`). The count is right after every look, a follower that rests with nothing to see
has derived its settings from the configuration as the last reload left it, and the control plane is
as it was left by the last round that had settings to apply.

Each of these is one field of an invariant (`Duet.Sound`), which is kept by every step of the
watcher and of the follower and by the end of every look and every round.

That nothing is lost is a statement about rest. While one of the two is at work the count may be
behind or the settings may be those of an older configuration, and neither is a fault. And it is not
said that the follower ever comes to rest, which depends on how often the files are edited; only
that, when it does, it has not missed anything.
-/

namespace Testbed.Watch

/-- What came of a look at the files, and the state after it. The state is that at its end. -/
abbrev Look := Except ControlError Bool × Watch

/-- What came of a round of the follower, and the state after it. As with looks, the state is the
one at its end. -/
abbrev Round := Pursued × Watch

/-- The looks that have read the files. Those that found nothing changed, or failed, are left out.
-/
def reloads (looks : List Look) : List Look := looks.filter (fun look => isReload look.1)

/-- The rounds that had settings to apply. A round whose settings could not be derived is none. -/
def adoptions (rounds : List Round) : List Round := rounds.filter (fun round => round.1.isOk)

/-- The control plane as the last round left it that had settings to apply. If there was none, it is
as it was at the beginning. -/
def standing (first : Controller) (rounds : List Round) : Controller :=
  ((adoptions rounds).getLast?.map (fun round => round.2.controller)).getD first

/-- **The watcher and the follower** on the state that they share. Each of them is at some point of
its loop, and has a list of what it has done so far. -/
structure Duet where
  state : Watch
  watcher : Loop Watch Call (fun _ => Answer) (Except ControlError Bool) := {}
  follower : Loop Watch Call (fun _ => Answer) Pursued := {}

/-- Whose turn it is. The watcher sees the files as they are then. The follower does not look at the
files. -/
inductive Beat where
  | watcher (disk : Disk)
  | follower

/-- Nobody answers. No answer is ever needed. -/
def unanswered (call : Call) : Answer := (silence call ()).1

/-- **A step of one of the two.** A watcher that nobody follows ends, and has no more turns. One
that waits takes its turn and goes on waiting. -/
def Duet.beat (d : Duet) : Beat → Duet
  | .watcher disk =>
    if d.state.watching then
      let turn := d.watcher.turn (poll disk) unanswered d.state
      { d with watcher := turn.1, state := turn.2 }
    else d
  | .follower =>
    let turn := d.follower.turn round unanswered d.state
    { d with follower := turn.1, state := turn.2 }

/-- Steps of the two in some order. There is no fairness: one of the two may never have its turn. -/
def Duet.run (d : Duet) (beats : List Beat) : Duet := beats.foldl Duet.beat d

/-! ## What holds all the time

The invariant ties the numbers to what was done: the count to the looks that have read the files,
and the settings in force to the last round that had any. It holds in the middle of a look and of a
round as well, for which reason the standings of both are part of it. -/

/-- Whether the watcher has read the files since its last look ended. It is what the last look will
have been, once it has ended. -/
def Lookout.hasRead : Lookout → Bool
  | asleep => false
  | reloaded => true
  | counted result => isReload result

/-- What the watcher has counted since its last look ended. It is one less than the readings while a
reading is not counted yet. -/
def Lookout.credit : Lookout → Nat
  | asleep | reloaded => 0
  | counted result => if isReload result then 1 else 0

/-- What the follower has derived last: in its round, or in the one before if it waits. Right after
the count was seen nothing has been derived, and this does not last. -/
def Pursuit.lastDerived (rounds : List Round) : Pursuit → Option (Except ControlError Settings)
  | waiting => rounds.getLast?.map (fun round => round.1.map Prod.fst)
  | informed => none
  | applying s => some (.ok s)
  | failed e => some (.error e)

/-- **The watcher and the follower are in tune**, in their roles and with what they have done, on a
control plane that was another one at first. The conditions are about the roles that the two are in,
not about their programs. `first` is remembered because a control plane for which no settings could
be derived is as it was at first. -/
structure Duet.Sound (directory : OsPath) (first : Controller) (w : Watch) (looks : List Look)
    (p : Lookout) (rounds : List Round) (f : Pursuit) : Prop where
  /-- The directory of the projects is the one from the beginning. -/
  projects : w.projects = directory
  /-- Both go on. -/
  running : w.watching = true ∧ w.following = true
  /-- The count is that of the reloads. -/
  count : w.count = (reloads looks).length + p.credit
  /-- The follower has seen no more than that. -/
  seen : w.seen ≤ w.count
  /-- The configuration is as the last reload left it. -/
  config : p.hasRead = false → ∀ look ∈ (reloads looks).getLast?, look.2.config = w.config
  /-- If there is nothing to count and nothing to see, the follower has derived its settings from
  it. -/
  fresh : p ≠ .reloaded → f ≠ .informed → w.seen = w.count → w.count ≠ 0 →
    f.lastDerived rounds = some (w.config.settings directory)
  /-- Only settings that could be derived change the control plane. -/
  untouched : (∀ s, f ≠ .applying s) → w.controller = standing first rounds

namespace Duet

variable {directory : OsPath} {first : Controller} {w w' : Watch} {looks : List Look}
  {p p' : Lookout} {rounds : List Round} {f f' : Pursuit}

/-- It begins like this. Nothing has been read or counted. -/
theorem sound_start (projects : OsPath) (config : Config) (controller : Controller) :
    Sound projects controller { projects, config, controller } [] .asleep [] .waiting where
  projects := rfl
  running := ⟨rfl, rfl⟩
  count := rfl
  seen := Nat.le_refl 0
  config _ look hlook := by cases hlook
  fresh _ _ _ hcount := absurd rfl hcount
  untouched _ := rfl

/-- A step of the watcher. The follower's part of the invariant mentions nothing that it changes,
but for the configuration. -/
theorem Sound.watcher (h : Sound directory first w looks p rounds f) (hmove : p.Moves w w' p') :
    Sound directory first w' looks p' rounds f := by
  cases hmove with
  | reloads => exact { h with config := nofun, fresh := fun hp => absurd rfl hp }
  | passes hpassed =>
    refine { h with count := ?_, config := fun _ => h.config rfl, fresh := fun _ => h.fresh nofun }
    show w.count = _ + if isReload _ then 1 else 0
    rw [hpassed]
    exact h.count
  | counts =>
    refine {
      h with
      count := congrArg (· + 1) h.count
      seen := Nat.le_succ_of_le h.seen
      config := nofun
      fresh := fun _ _ hseen => ?_ }
    -- the follower cannot have seen what is counted only now
    exact absurd hseen (Nat.ne_of_lt (Nat.lt_succ_of_le h.seen))
  | leaves =>
    exact { h with running := ⟨h.running.2, h.running.2⟩, fresh := fun _ => h.fresh nofun }

/-- The end of a look. Nothing is changed by it; the look is only counted among those that have
ended. -/
theorem Sound.look_ends {result : Except ControlError Bool}
    (h : Sound directory first w looks (.counted result) rounds f) :
    Sound directory first w (looks ++ [(result, w)]) .asleep rounds f := by
  have hreloads : reloads (looks ++ [(result, w)])
      = reloads looks ++ if isReload result then [(result, w)] else [] := by
    unfold reloads
    rw [List.filter_append, List.filter_cons, List.filter_nil]
  have hcount : w.count = (reloads looks).length + if isReload result then 1 else 0 := h.count
  refine { h with count := ?_, config := fun _ => ?_, fresh := fun _ => h.fresh nofun }
  · rw [hreloads, hcount, List.length_append]
    split
    · rfl
    · rfl
  · rw [hreloads]
    cases hresult : isReload result with
    | false =>
      rw [if_neg Bool.false_ne_true, List.append_nil]
      exact h.config hresult
    | true =>
      rw [if_pos rfl, List.getLast?_concat]
      intro look hlook
      rw [← Option.some.inj hlook]

/-- A step of the follower. The watcher's part stays, as the follower leaves configuration and count
alone. -/
theorem Sound.follower (h : Sound directory first w looks p rounds f) (hmove : f.Moves w w' f') :
    Sound directory first w' looks p rounds f' := by
  cases hmove with
  | wakes =>
    exact {
      h with
      seen := Nat.le_refl w.count
      fresh := fun _ hf => absurd rfl hf
      untouched := fun _ => h.untouched nofun }
  | derives hsettings =>
    refine { h with fresh := fun _ _ _ _ => ?_, untouched := fun hf => absurd rfl (hf _) }
    rw [← h.projects, hsettings]
    rfl
  | fails hsettings =>
    refine { h with fresh := fun _ _ _ _ => ?_, untouched := fun _ => h.untouched nofun }
    rw [← h.projects, hsettings]
    rfl
  | applies => exact { h with untouched := fun hf => absurd rfl (hf _) }

/-- The end of a round. What it has derived is now what was derived last. -/
theorem Sound.round_ends {result : Pursued} (h : Sound directory first w looks p rounds f)
    (hderived : f.derived? = some (result.map Prod.fst)) :
    Sound directory first w looks p (rounds ++ [(result, w)]) .waiting := by
  have hlast : f.lastDerived rounds = Pursuit.waiting.lastDerived (rounds ++ [(result, w)]) := by
    show _ = (rounds ++ [(result, w)]).getLast?.map _
    rw [List.getLast?_concat, Option.map_some, ← hderived]
    cases f with
    | waiting | informed => cases hderived
    | applying | failed => rfl
  refine { h with fresh := fun hp _ => ?_, untouched := fun _ => ?_ }
  · rw [← hlast]
    exact h.fresh hp (by rintro rfl; cases hderived)
  · unfold standing adoptions
    rw [List.filter_append]
    cases result with
    | error e =>
      show _ = (((adoptions rounds ++ []).getLast?).map _).getD first
      rw [List.append_nil]
      exact h.untouched (by rintro s rfl; cases hderived)
    | ok applied =>
      show _ = (((adoptions rounds ++ [(Except.ok applied, w)]).getLast?).map _).getD first
      rw [List.getLast?_concat]
      rfl

/-! ## Steps in any order

The two take turns in any order, and between two steps of one the other may take many. Each step
keeps the invariant, so it holds at the end, whatever the order was. -/

/-- **The two are in tune**, where they stand and with what they have done. Both stand somewhere in
their dialogues, and these two places fit the state. -/
def InTune (directory : OsPath) (first : Controller) (d : Duet) : Prop :=
  ∃ p f, Sound directory first d.state d.watcher.laps p d.follower.laps f
    ∧ d.watcher.Stands lookingOut (fun g result => g = .counted result) .asleep p
    ∧ d.follower.Stands pursuing (fun g result => g.derived? = some (result.map Prod.fst))
      .waiting f

variable {d : Duet}

/-- Whatever happens in the watcher's dialogue is a step of it. Nothing else can happen, as it asks
nothing. -/
theorem Sound.watcher_advances (h : Sound directory first w looks p rounds f)
    {happening : Crew.Happening Watch Call fun _ => Answer}
    (hadvance : Crew.Advances (fun _ _ => True) lookingOut p w happening w' p') :
    Sound directory first w' looks p' rounds f := by
  cases hadvance with
  | moved hmove => exact h.watcher hmove
  | put hasks => exact hasks.elim
  | answered _ hhears => exact hhears.elim

/-- Whatever happens in the follower's dialogue is a step of it, or leaves everything as it is.
Questions and answers leave the state as it is. -/
theorem Sound.follower_advances (h : Sound directory first w looks p rounds f)
    {happening : Crew.Happening Watch Call fun _ => Answer}
    (hadvance : Crew.Advances (fun _ _ => True) pursuing f w happening w' f') :
    Sound directory first w' looks p rounds f' := by
  cases hadvance with
  | moved hmove => exact h.follower hmove
  | put hsame | answered _ hsame =>
    obtain rfl : f' = f := hsame
    exact h

/-- A step keeps the two in tune. Which of the two takes it is the only case distinction. -/
theorem InTune.beat (h : InTune directory first d) (b : Beat) :
    InTune directory first (d.beat b) := by
  obtain ⟨p, f, hsound, hwatcher, hfollower⟩ := h
  cases b with
  | watcher disk =>
    show InTune directory first (if d.state.watching = true then _ else d)
    rw [if_pos hsound.running.1]
    have ⟨p', hsound', hwatcher'⟩ := hwatcher.turn_keeps
      (fun w looks p => Sound directory first w looks p d.follower.laps f)
      (fun _ _ _ _ => trivial) (fun _ _ _ _ _ _ h hadvance => h.watcher_advances hadvance)
      (fun _ _ _ _ h hp => (hp ▸ h).look_ends) (poll_follows disk) hsound unanswered
    exact ⟨p', f, hsound', hwatcher', hfollower⟩
  | follower =>
    have ⟨f', hsound', hfollower'⟩ := hfollower.turn_keeps
      (fun w rounds f => Sound directory first w d.watcher.laps p rounds f)
      (fun _ _ _ _ => trivial) (fun _ _ _ _ _ _ h hadvance => h.follower_advances hadvance)
      (fun _ _ _ _ h hderived => h.round_ends hderived) round_follows hsound unanswered
    exact ⟨p, f', hsound', hwatcher, hfollower'⟩

/-- So do steps in any order. The proof is by induction on the steps. -/
theorem InTune.run (h : InTune directory first d) (beats : List Beat) :
    InTune directory first (d.run beats) := by
  induction beats generalizing d with
  | nil => exact h
  | cons b rest ih => exact ih (h.beat b)

end Duet

/-- **No reload is lost.** The watcher and the follower take steps in any order, and the files may
be others at every look.

- When the watcher rests, the count is the number of looks that have read the files.
- When both rest and there is nothing to see, and the files have been read at all, what the follower
  derived last it derived from the configuration as the last of these looks left it.
- When the follower rests, the control plane is as it was left by the last round that had settings
  to apply: a configuration from which none can be derived leaves it alone. -/
theorem no_reload_lost (projects : OsPath) (config : Config) (controller : Controller)
    (beats : List Beat) :
    let d := Duet.run { state := { projects, config, controller } } beats
    (d.watcher.resting = true → d.state.count = (reloads d.watcher.laps).length)
      ∧ (d.watcher.resting = true → d.follower.resting = true → d.state.hasNews = false →
        ∀ look ∈ (reloads d.watcher.laps).getLast?, ∃ round ∈ d.follower.laps.getLast?,
          round.1.map Prod.fst = look.2.config.settings projects)
      ∧ (d.follower.resting = true → d.state.controller = standing controller d.follower.laps) := by
  intro d
  have hstart : Duet.InTune projects controller { state := { projects, config, controller } } :=
    ⟨.asleep, .waiting, Duet.sound_start projects config controller, rfl, rfl⟩
  obtain ⟨p, f, hsound, hwatcher, hfollower⟩ := hstart.run beats
  refine ⟨fun hrests => ?_, fun hrests hwaits hnews look hlook => ?_, fun hwaits => ?_⟩
  · obtain rfl := hwatcher.of_resting hrests
    exact hsound.count
  · obtain rfl := hwatcher.of_resting hrests
    obtain rfl := hfollower.of_resting hwaits
    -- nothing to see means that the follower has seen the whole count, which is not nothing
    have hseen : d.state.seen = d.state.count := by
      have hsame : d.state.following = true → d.state.count = d.state.seen := by
        simpa [hasNews] using hnews
      exact (hsame hsound.running.2).symm
    have hcount : d.state.count ≠ 0 := by
      rw [hsound.count]
      exact Nat.ne_of_gt (List.length_pos_of_mem (List.mem_of_getLast? hlook))
    have hfresh := hsound.fresh nofun nofun hseen hcount
    obtain ⟨round, hround, hderived⟩ := Option.map_eq_some_iff.mp hfresh
    refine ⟨round, hround, ?_⟩
    rw [hderived, hsound.config rfl look hlook]
  · obtain rfl := hfollower.of_resting hwaits
    exact hsound.untouched nofun

/-- The follower, woken by a first reload, is overtaken by a second one: it applies the second
configuration, and does so again when that is counted. A third configuration describes no settings,
and the second one's stay in force. -/
theorem followed_while_overtaken :
    let one := Disk.ofTexts [("c", "[controller]\nrpc_timeout_secs = 1\n", 60)]
    let two := Disk.ofTexts [("c", "[controller]\nrpc_timeout_secs = 2\n", 120)]
    let broken := Disk.ofTexts [("c", "[logging]\nlevel = \"loud\"\n", 180)]
    let beats := .replicate 3 (.watcher one) ++ [.follower, .watcher two, .follower, .watcher two,
      .watcher two] ++ .replicate 16 .follower ++ .replicate 3 (.watcher broken)
      ++ .replicate 2 .follower
    ∃ config, Config.fromFiles (.ofTexts [("c", "", 0)]) ["c"] = .ok config
      ∧ (let d := Duet.run { state := { projects := "/p", config, controller := .initial default } }
          beats
        d.state.count = (reloads d.watcher.laps).length
          ∧ (∀ look ∈ (reloads d.watcher.laps).getLast?, ∃ round ∈ d.follower.laps.getLast?,
            round.1.map Prod.fst = look.2.config.settings "/p")
          ∧ d.state.controller = standing (.initial default) d.follower.laps
          ∧ d.state.count = 3
          ∧ d.follower.laps.map (fun round => round.1.isOk) = [true, true, false]
          ∧ d.state.controller.settings.rpcTimeout = ⟨2, 0⟩) := by
  intro one two broken beats
  have ⟨config, hconfig, hrun⟩ := exists_ok_of_any
    (x := Config.fromFiles (.ofTexts [("c", "", 0)]) ["c"]) (p := fun config =>
      let d := Duet.run { state := { projects := "/p", config, controller := .initial default } }
        beats
      decide ((d.watcher.resting = true ∧ d.follower.resting = true ∧ d.state.hasNews = false)
        ∧ d.state.count = 3
        ∧ d.follower.laps.map (fun round => round.1.isOk) = [true, true, false]
        ∧ d.state.controller.settings.rpcTimeout = ⟨2, 0⟩)) (by decide +kernel)
  have ⟨⟨hrests, hwaits, hnews⟩, hdone⟩ := of_decide_eq_true hrun
  have ⟨hcount, hfresh, hstanding⟩ := no_reload_lost "/p" config (.initial default) beats
  exact ⟨config, hconfig, hcount hrests, hfresh hrests hwaits hnews, hstanding hwaits, hdone⟩

end Testbed.Watch
