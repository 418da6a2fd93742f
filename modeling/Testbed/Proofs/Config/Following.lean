import Testbed.Config.Watch
import Testbed.Proofs.Config.Course
import Testbed.Proofs.Process.Loop

/-!
# Reloads on their way to the control plane

A watcher and a follower share a configuration and a count. The watcher changes the configuration
first and counts afterwards; the follower notes the count first and reads the configuration
afterwards. In between each of them may be overtaken by the other: a follower that was woken by one
reload may read the configuration of the next, which is counted only then, and reads it once more.

What must not happen is that it rests with an old configuration. The invariant that excludes this
has three parts (`Duet.Sound`): the count is that of the reloads, except for one that is yet to be
counted; the follower has seen at most what was counted; and if it has seen all of that, and nothing
is yet to be counted, whatever it derived last it derived from the configuration as it is. A reload
spoils the last part's conclusion, but its premise as well, until it is counted, and from then on
there is news.

`no_reload_lost` states this at the moments when neither of the two is at work.

The steps of each of the two are written down as a dialogue, so that the invariant can be checked
step by step without their programs. A step of the watcher and one of the follower never change the
same thing: the configuration and the count are the watcher's, what was seen and the control plane
are the follower's.
-/

namespace Testbed.Watch

/-- Whether a reload has read the files. A failure has read nothing. -/
def isReload : Except ControlError Bool → Bool
  | .ok changed => changed
  | .error _ => false

/-- A reload reads the files, or leaves everything as it is. The counts and the control plane stay
in either case. -/
theorem reload_cases (disk : Disk) (w : Watch) :
    (∃ config, w.reload disk = (.ok true, { w with config }))
      ∨ ∃ result, isReload result = false ∧ w.reload disk = (result, w) := by
  unfold reload
  cases hreload : w.config.reload disk with
  | error e => exact .inr ⟨.error e, rfl, rfl⟩
  | ok r =>
    obtain ⟨changed, config⟩ := r
    obtain ⟨-, rfl, -⟩ | ⟨-, rfl, rfl⟩ := Config.reload_eq_ok_iff.1 hreload
    · exact .inl ⟨config, rfl⟩
    · exact .inr ⟨.ok false, rfl, rfl⟩

/-! ## The watcher

Its steps are four, and it asks nobody anything. What it knows while it stands somewhere is what
came of its reload. -/

/-- **How far the watcher is** with a look at the files. Between reading and counting there is a
moment at which the configuration is new and the count is old, and it is a stage of its own. -/
inductive Lookout where
  /-- It has not begun. -/
  | asleep
  /-- It has read the files and is to count that. -/
  | reloaded
  /-- It has nothing to count any more. -/
  | counted (result : Except ControlError Bool)

/-- **The steps of the watcher.** Reading and counting are two of them, and somebody else may have a
turn between the two. -/
inductive Lookout.Moves : Lookout → Watch → Watch → Lookout → Prop
  /-- It reads the files. -/
  | reloads {w : Watch} {config : Config} : Moves .asleep w { w with config } .reloaded
  /-- It finds nothing new, or nothing that can be read. -/
  | passes {w : Watch} {result : Except ControlError Bool} (h : isReload result = false) :
      Moves .asleep w w (.counted result)
  /-- It counts a reload. -/
  | counts {w : Watch} : Moves .reloaded w { w with count := w.count + 1 } (.counted (.ok true))
  /-- It looks who is there. -/
  | leaves {w : Watch} {result : Except ControlError Bool} :
      Moves (.counted result) w { w with watching := w.following } (.counted result)

/-- **The dialogue of the watcher.** It asks nothing. Hence it never waits for anybody. -/
def lookingOut : Dialogue Lookout Watch Call (fun _ => Answer) where
  knows _ _ := True
  moves := Lookout.Moves
  asks _ _ _ := False
  hears _ _ _ _ := False

/-- A look at the files takes its steps, from the first to the last. Its result is what came of the
reload, also if that failed. -/
theorem poll_follows (disk : Disk) :
    (poll disk).Follows lookingOut (fun g result => g = .counted result) .asleep := by
  have hleaves : ∀ result, Process.Follows lookingOut (fun g result => g = .counted result)
      (.counted result) ((Process.change (fun w : Watch => { w with watching := w.following })).bind
        (fun _ => .done result)) :=
    fun result w _ _ => ⟨.counted result, .leaves, rfl⟩
  intro w _ _
  show ∃ g', Lookout.Moves .asleep w (w.reload disk).2 g' ∧ Process.Follows _ _ g'
    ((tally (w.reload disk).1).bind fun _ => _)
  obtain ⟨config, hreload⟩ | ⟨result, hpassed, hreload⟩ := reload_cases disk w
  · rw [hreload]
    exact ⟨.reloaded, .reloads, fun w _ _ => ⟨.counted (.ok true), .counts, hleaves (.ok true)⟩⟩
  · rw [hreload]
    refine ⟨.counted result, .passes hpassed, ?_⟩
    -- nothing is counted, whatever came of the reload
    cases result with
    | error e => exact hleaves (.error e)
    | ok changed =>
      obtain rfl : changed = false := hpassed
      exact hleaves (.ok false)

/-! ## The follower

Its steps are few, but one of them is the whole of applying settings. What happens within that does
not matter here, only that the configuration and the counts stay as they are. -/

/-- **How far the follower is** with a round. Once it has been informed, it is bound to look at the
configuration, so nothing that was counted before is forgotten even if more is counted in the
meantime. -/
inductive Pursuit where
  /-- It waits for news. -/
  | waiting
  /-- It has seen the count and is to read the configuration. -/
  | informed
  /-- It applies the settings that it has derived. -/
  | applying (s : Settings)
  /-- It could not derive any. -/
  | failed (e : ControlError)

/-- What the follower has derived in its round. It is there from the moment it was derived to the
end of the round. -/
def Pursuit.derived? : Pursuit → Option (Except ControlError Settings)
  | waiting | informed => none
  | applying s => some (.ok s)
  | failed e => some (.error e)

/-- **The steps of the follower.** Applying settings takes many steps, and others may reload and
count while it goes on. -/
inductive Pursuit.Moves : Pursuit → Watch → Watch → Pursuit → Prop
  /-- It sees the count. -/
  | wakes {w : Watch} (h : w.hasNews = true) : Moves .waiting w { w with seen := w.count } .informed
  /-- It derives settings from the configuration as it is. -/
  | derives {w : Watch} {s : Settings} (h : w.config.settings w.projects = .ok s) :
      Moves .informed w w (.applying s)
  /-- It cannot. -/
  | fails {w : Watch} {e : ControlError} (h : w.config.settings w.projects = .error e) :
      Moves .informed w w (.failed e)
  /-- It works on the control plane. -/
  | applies {w : Watch} {s : Settings} {c : Controller} :
      Moves (.applying s) w (w.setController c) (.applying s)

/-- **The dialogue of the follower.** Whether it asks anything does not matter here. Settings are
applied without an answer from any engine. -/
def pursuing : Dialogue Pursuit Watch Call (fun _ => Answer) where
  knows _ _ := True
  moves := Pursuit.Moves
  asks g _ g' := g' = g
  hears g _ _ g' := g' = g

/-- An operation of the control plane works on the control plane. All it can change of the state is
the control plane in it. -/
theorem zoom_follows {α : Type} (p : Controller.Task α) (s : Settings) :
    (p.zoom (·.controller) setController).Follows pursuing (fun g _ => g = .applying s)
      (.applying s) := by
  induction p with
  | done a => rfl
  | step ready update next abandon ih => exact fun w _ _ => ⟨.applying s, .applies, ih w.controller⟩
  | ask question next abandon ih => exact ⟨.applying s, rfl, fun r => ⟨.applying s, rfl, ih r⟩⟩

/-- A round takes its steps, from the first to the last. -/
theorem round_follows :
    round.Follows pursuing (fun g result => g.derived? = some (result.map Prod.fst)) .waiting := by
  refine fun w _ hnews => ⟨.informed, .wakes hnews, fun w _ _ => ?_⟩
  show ∃ g', Pursuit.Moves .informed w w g' ∧ Process.Follows _ _ g'
    (pursue (w.config.settings w.projects))
  cases hsettings : w.config.settings w.projects with
  | error e => exact ⟨.failed e, .fails hsettings, rfl⟩
  | ok s =>
    refine ⟨.applying s, .derives hsettings, Process.follows_bind.mpr ((zoom_follows _ s).mono ?_)⟩
    rintro _ report rfl
    rfl

end Testbed.Watch
