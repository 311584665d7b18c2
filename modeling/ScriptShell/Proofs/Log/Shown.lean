import Mathlib.Data.List.TakeDrop
import ScriptShell.Program

/-!
# Events that are shown

Standard error shows what is written there and, among it, the lines of the events that the log
filter lets through. What is left of it without the events does not depend on the filter. How
filters are read and what they let through is up to the subscriber; of one that keeps to the
documentation of filters (`LogSubscriber.Documented`), a filter for a module shows exactly the
events of that module among those that are shown without regard to modules.
-/

namespace ScriptShell

variable {subscriber : LogSubscriber}

/-! ## Entries on standard error -/

namespace Entry

/-- The event that an entry is. -/
def event? : Entry → Option LogEvent
  | .logged event => some event
  | _ => none

/-- The events among entries. -/
def events (entries : List Entry) : List LogEvent :=
  entries.filterMap event?

/-- Whether an entry is text that was written to standard error. -/
def isDiagnostic : Entry → Bool
  | .wrote channel _ => channel = .stderr
  | _ => false

/-- Whether standard error shows an entry under a filter: what was written there, and an event that
the filter lets through. -/
def isShown (subscriber : LogSubscriber) (filter : subscriber.Filter) (entry : Entry) : Bool :=
  entry.isDiagnostic || entry.event?.any fun event => subscriber.enabled filter event.metadata

/-- The entries that standard error shows under a filter, with their places. -/
def shown (subscriber : LogSubscriber) (filter : subscriber.Filter) (entries : List Entry) :
    List (Entry × Nat) :=
  entries.zipIdx.filter fun placed => placed.1.isShown subscriber filter

/-- The text that an entry comes to on standard error. -/
def diagnostic (subscriber : LogSubscriber) : Entry × Nat → String
  | (.wrote _ text, _) => text
  | (.logged event, place) => subscriber.line place event
  | _ => ""

@[simp] theorem events_append (first second : List Entry) :
    events (first ++ second) = events first ++ events second :=
  List.filterMap_append

/-- Standard error is made of the entries that it shows. -/
theorem diagnostics_eq (filter : subscriber.Filter) (entries : List Entry) :
    diagnostics subscriber filter entries =
      String.join ((shown subscriber filter entries).map (diagnostic subscriber)) := by
  unfold diagnostics shown
  congr 1
  -- on the entries with their places, whatever these are
  induction entries.zipIdx with
  | nil => rfl
  | cons placed rest ih =>
      obtain ⟨entry, place⟩ := placed
      rw [List.filterMap_cons, List.filter_cons, ih]
      cases entry with
      | wrote channel text => cases channel <;> rfl
      | logged event =>
          cases hshows : subscriber.enabled filter event.metadata <;>
            simp [hshows, isShown, isDiagnostic, event?, diagnostic]
      | _ => rfl

theorem map_fst_shown (filter : subscriber.Filter) (entries : List Entry) :
    (shown subscriber filter entries).map Prod.fst =
      entries.filter (isShown subscriber filter) := by
  have hfilter := List.filter_map (f := Prod.fst) (p := isShown subscriber filter)
    (l := entries.zipIdx)
  rw [List.zipIdx_map_fst] at hfilter
  exact hfilter.symm

/-- The events that are shown are those that the filter lets through. -/
theorem events_shown (filter : subscriber.Filter) (entries : List Entry) :
    events ((shown subscriber filter entries).map Prod.fst) =
      (events entries).filter fun event => subscriber.enabled filter event.metadata := by
  rw [map_fst_shown]
  unfold events
  induction entries with
  | nil => rfl
  | cons entry rest ih =>
      rw [List.filter_cons, List.filterMap_cons]
      cases entry with
      | wrote channel text => cases channel <;> exact ih
      | logged event =>
          simp only [isShown, isDiagnostic, event?, Option.any_some, Bool.false_or,
            List.filter_cons, ← ih]
          split <;> rfl
      | _ => exact ih

/-- What standard error shows besides events is what was written there. -/
theorem shown_without_events (filter : subscriber.Filter) (entries : List Entry) :
    (shown subscriber filter entries).filter (fun placed => placed.1.event?.isNone) =
      entries.zipIdx.filter fun placed => placed.1.isDiagnostic := by
  unfold shown
  rw [List.filter_filter]
  refine List.filter_congr fun placed _ => ?_
  obtain ⟨entry, place⟩ := placed
  cases entry <;> simp [isShown, isDiagnostic, event?]

end Entry

/-! ## Filters -/

/-- The name of a module: a path of names of letters, digits and underscores. -/
def IsModule (module : String) : Prop :=
  module ≠ "" ∧ ∀ c ∈ module.toList, c.isAlphanum ∨ c = '_' ∨ c = ':'

/-- An event comes from a part of the shell whose module path starts with the name of a module. -/
def LogEvent.within (module : String) (event : LogEvent) : Bool :=
  module.toList.isPrefixOf event.source.target.toList

/-- The subscriber keeps to what the documentation of filters says of two kinds of settings: a level
alone, and a level behind the name of a module. -/
structure LogSubscriber.Documented (subscriber : LogSubscriber) : Prop where
  /-- A level lets everything through that is at least as weighty. -/
  level : ∃ filter, subscriber.read? "debug" = some filter ∧ ∀ metadata,
    subscriber.enabled filter metadata = decide (metadata.level.rank ≤ LogLevel.debug.rank)
  /-- Behind the name of a module it is about the targets that start with the name. -/
  module_level : ∀ module, IsModule module →
    ∃ filter, subscriber.read? (module ++ "=debug") = some filter ∧ ∀ metadata,
      subscriber.enabled filter metadata = (module.toList.isPrefixOf metadata.target.toList &&
        decide (metadata.level.rank ≤ LogLevel.debug.rank))

namespace LogSubscriber.Documented

variable (h : subscriber.Documented)

include h

/-- Without regard to modules, the level *debug* lets all events through. -/
theorem enabled_debug (event : LogEvent) :
    subscriber.enabled (subscriber.filterOf (some "debug")) event.metadata = true := by
  obtain ⟨filter, hread, henabled⟩ := h.level
  have hfilter : subscriber.filterOf (some "debug") = filter := by
    rw [filterOf, Option.bind_some, hread, Option.getD_some]
  rw [hfilter, henabled]
  rfl

/-- A filter for a module lets the events from within it through. -/
theorem enabled_module {module : String} (hmodule : IsModule module) (event : LogEvent) :
    subscriber.enabled (subscriber.filterOf (some (module ++ "=debug"))) event.metadata =
      event.within module := by
  obtain ⟨filter, hread, henabled⟩ := h.module_level module hmodule
  have hfilter : subscriber.filterOf (some (module ++ "=debug")) = filter := by
    rw [filterOf, Option.bind_some, hread, Option.getD_some]
  rw [hfilter, henabled]
  exact Bool.and_true _

/-- A filter for a module shows, of the events that are shown without regard to modules, those from
within the module. -/
theorem events_shown_module {module : String} (hmodule : IsModule module) (entries : List Entry) :
    Entry.events ((Entry.shown subscriber (subscriber.filterOf (some (module ++ "=debug")))
        entries).map Prod.fst) =
      (Entry.events ((Entry.shown subscriber (subscriber.filterOf (some "debug"))
        entries).map Prod.fst)).filter (LogEvent.within module) := by
  rw [Entry.events_shown, Entry.events_shown, List.filter_filter]
  refine List.filter_congr fun event _ => ?_
  rw [h.enabled_module hmodule, h.enabled_debug, Bool.and_true]

end LogSubscriber.Documented

/-- The module path of a part is the name of a module. -/
theorem LogSource.isModule_target (source : LogSource) : IsModule source.target := by
  have hall : (source.target.toList.all fun c => c.isAlphanum || c = '_' || c = ':') = true ∧
      source.target ≠ "" := by
    cases source <;> decide
  refine ⟨hall.2, fun c hc => ?_⟩
  have hc := List.all_eq_true.mp hall.1 c hc
  simpa [or_assoc] using hc

/-- Only the events of a part are within its module path, apart from the program's own, within which
all of them are. -/
theorem LogEvent.within_target {source : LogSource} (hsource : source ≠ .program)
    (event : LogEvent) : event.within source.target = decide (event.source = source) := by
  have hwithin : ∀ other : LogSource, source.target.toList.isPrefixOf other.target.toList =
      decide (other = source) := by
    intro other
    cases source <;> cases other <;> first | decide | exact absurd rfl hsource
  exact hwithin event.source

/-! ## Runs of the program -/

/-- How standard error depends on the setting of the log filter. -/
structure Outcome.ShowsEvents (outcome : Outcome) (subscriber : LogSubscriber) : Prop where
  stderr_eq : ∀ setting, outcome.stderr subscriber setting =
    String.join ((Entry.shown subscriber (subscriber.filterOf setting) outcome.journal).map
      (Entry.diagnostic subscriber))
  /-- Without the events, what is shown is the same under all settings. -/
  without_events : ∀ setting,
    (Entry.shown subscriber (subscriber.filterOf setting) outcome.journal).filter
        (fun placed => placed.1.event?.isNone) =
      outcome.journal.zipIdx.filter fun placed => placed.1.isDiagnostic
  /-- At the level *debug* all events are shown. -/
  all_events :
    Entry.events ((Entry.shown subscriber (subscriber.filterOf (some "debug"))
      outcome.journal).map Prod.fst) = Entry.events outcome.journal
  /-- A filter for a module shows the events from within it, of those shown at the level *debug*. -/
  of_module : ∀ module, IsModule module →
    Entry.events ((Entry.shown subscriber (subscriber.filterOf (some (module ++ "=debug")))
        outcome.journal).map Prod.fst) =
      (Entry.events ((Entry.shown subscriber (subscriber.filterOf (some "debug"))
        outcome.journal).map Prod.fst)).filter (LogEvent.within module)
  /-- From within the module of a part come the events of that part. -/
  of_part : ∀ source : LogSource, source ≠ .program →
    Entry.events ((Entry.shown subscriber (subscriber.filterOf (some (source.target ++ "=debug")))
        outcome.journal).map Prod.fst) =
      (Entry.events ((Entry.shown subscriber (subscriber.filterOf (some "debug"))
        outcome.journal).map Prod.fst)).filter (·.source = source)

theorem Outcome.showsEvents (outcome : Outcome) (h : subscriber.Documented) :
    outcome.ShowsEvents subscriber where
  stderr_eq _ := Entry.diagnostics_eq _ _
  without_events _ := Entry.shown_without_events _ _
  all_events := by
    rw [Entry.events_shown]
    exact List.filter_eq_self.mpr fun event _ => h.enabled_debug event
  of_module _ hmodule := h.events_shown_module hmodule _
  of_part source hsource := by
    rw [h.events_shown_module source.isModule_target]
    exact List.filter_congr fun event _ => LogEvent.within_target hsource event

end ScriptShell
