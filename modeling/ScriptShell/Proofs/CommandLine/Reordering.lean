import ScriptShell.Proofs.CommandLine.Rendering
import ScriptShell.Proofs.Program.Phases

/-!
# Settings in another order

The segments of a command line may change places as long as the scripts stay in their order among
themselves, the paths of the profile in theirs and the assignments to each option in theirs: the
command line asks for the same (`parse_reordered`). Each thing that segments say of a configuration
is read off a part of them whose order is kept, or off which of them there are at all, so that a
reordering describes the same configuration (`Reorders.describes`).

Hence it does not matter on which side of an assignment `--options` or a script stands.
`assignedOptions` is what all assignments of a command line make together, and it is what is listed
and what every script runs under.
-/

namespace ScriptShell

namespace CommandLine

/-! ## Reorderings -/

/-- Whether a segment gives a path for the profile. -/
def Segment.isProfile (segment : Segment) : Bool :=
  segment.profile?.isSome

/-- Whether a segment gives a value to an option. -/
def Segment.assigns (name : OptionName) (segment : Segment) : Bool :=
  (segment.assigned? name).isSome

/-- The same segments in another order, in which those that could overrule each other did not change
places. -/
structure Reorders (segments others : List Segment) : Prop where
  perm : segments.Perm others
  scripts_eq : segments.filter Segment.isScript = others.filter Segment.isScript
  profiles_eq : segments.filter Segment.isProfile = others.filter Segment.isProfile
  assignments_eq : ∀ name,
    segments.filter (Segment.assigns name) = others.filter (Segment.assigns name)

/-- What is read out of some segments is the same where these are the same, in the same order. -/
private theorem filterMap_eq_of_filter_eq {α : Type} {segments others : List Segment}
    (read : Segment → Option α) (hread : segments.filter (fun segment => (read segment).isSome) =
      others.filter fun segment => (read segment).isSome) :
    segments.filterMap read = others.filterMap read := by
  have hnone : ∀ segment, (read segment).isSome = false → read segment = none := by simp
  rw [← filterMap_filter_of_eq_none _ hnone segments, hread, filterMap_filter_of_eq_none _ hnone]

namespace Reorders

variable {segments others : List Segment}

theorem wellFormed (h : Reorders segments others)
    (hsegments : ∀ segment ∈ segments, segment.WellFormed) :
    ∀ segment ∈ others, segment.WellFormed :=
  fun segment hsegment => hsegments segment (h.perm.mem_iff.mpr hsegment)

/-- Reordered segments describe the same. -/
theorem describes (h : Reorders segments others) {trailing : List String}
    {configuration : Configuration} (hothers : configuration.Describes others trailing) :
    configuration.Describes segments trailing where
  scripts_eq := by
    rw [hothers.scripts_eq, filterMap_eq_of_filter_eq Segment.script? h.scripts_eq]
  interactive_iff := by rw [hothers.interactive_iff, h.perm.mem_iff]
  dump_iff := by rw [hothers.dump_iff, h.perm.mem_iff]
  profilePath_eq := by
    rw [hothers.profilePath_eq, filterMap_eq_of_filter_eq Segment.profile? h.profiles_eq]
  reportExit_iff := by rw [hothers.reportExit_iff, h.perm.mem_iff]
  crashHandlers_iff := by rw [hothers.crashHandlers_iff, h.perm.mem_iff]
  dumpOptions_iff := by rw [hothers.dumpOptions_iff, h.perm.mem_iff, h.perm.mem_iff]
  options_eq name := by
    rw [hothers.options_eq,
      filterMap_eq_of_filter_eq (Segment.assigned? name) (h.assignments_eq name)]
  trailingArguments_eq := hothers.trailingArguments_eq

/-- Reordered segments are read as the same request. -/
theorem ofSegments_eq (h : Reorders segments others) (trailing : List String) :
    Request.ofSegments segments trailing = Request.ofSegments others trailing := by
  have hconfiguration : Configuration.ofSegments segments trailing =
      Configuration.ofSegments others trailing :=
    (describes_ofSegments segments trailing).eq
      (h.describes (describes_ofSegments others trailing))
  have hlisting : segments.contains .listOptions = others.contains .listOptions := by
    rw [Bool.eq_iff_iff, List.contains_iff_mem, List.contains_iff_mem, h.perm.mem_iff]
  unfold Request.ofSegments
  rw [hconfiguration, hlisting]

end Reorders

/-! ## The options of a command line -/

/-- The options that all assignments among segments make, wherever they stand. -/
def assignedOptions (segments : List Segment) : Options :=
  (segments.filterMap Segment.assignment?).foldl Options.assign {}

/-- Each option has the value of the last assignment that names it. -/
theorem get_assignedOptions (segments : List Segment) (name : OptionName) :
    (assignedOptions segments).get name =
      ((segments.filterMap (Segment.assigned? name)).getLast?).getD (({} : Options).get name) := by
  rw [assignedOptions, Options.get_foldl_assign, List.filterMap_filterMap]
  rfl

theorem Configuration.Describes.options_eq_assignedOptions {segments : List Segment}
    {trailing : List String} {configuration : Configuration}
    (h : configuration.Describes segments trailing) :
    configuration.options = assignedOptions segments :=
  Options.eq_of_get_eq fun name => by rw [h.options_eq, get_assignedOptions]

/-- The arguments of the scripts, where an ending asks for nothing of its own. -/
def Ending.trailing? : Ending → Option (List String)
  | .complete => some []
  | .trailing arguments => some arguments
  | .help _ _ | .missing _ => none

/-- The request that segments are read as. -/
theorem parse_segments {segments : List Segment} {ending : Ending} {trailing : List String}
    (hsegments : ∀ segment ∈ segments, segment.WellFormed)
    (hending : ending.trailing? = some trailing) :
    parse (segments.flatMap Segment.arguments ++ ending.arguments) =
      .ok (Request.ofSegments segments trailing) := by
  have hwellFormed : ending.WellFormed := by
    cases ending with
    | help word unread => cases hending
    | _ => trivial
  rw [parse, split_eq_of_decomposes ⟨hsegments, hwellFormed, rfl⟩]
  cases ending with
  | complete | trailing arguments =>
      cases hending
      rfl
  | help word unread => cases hending
  | missing flag => cases hending

end CommandLine

/-! ## What scripts run under -/

theorem Host.Keeps.options_eq {engine : Engine} {α : Type} {action : Host engine α}
    (haction : Host.Keeps action) {session after : Session engine} {result : α}
    (hends : Host.Ends action session result after) : after.options = session.options := by
  obtain ⟨entries, hstays, -⟩ := haction session
  rw [show action.outcome session = (.ok result, after) from hends] at hstays
  exact hstays.options_eq

/-- In every run with a configuration each script runs under some options: it is executed in a
session with these options, and so is what its evaluation begins in. -/
def Program.RunsUnder (configuration : CommandLine.Configuration) (options : Options) : Prop :=
  ∀ (engine : Engine) (budget : Nat) (surroundings : Surroundings) (environment : Realm)
    (made before : Session engine) (earlier : List Script) (script : Script) (later : List Script)
    (success : Bool),
    Host.Ends (Host.createEnvironment configuration.trailingArguments).run
      (opening engine surroundings configuration) (.ok environment) made →
    configuration.scripts = earlier ++ script :: later →
    Host.Ends (Host.executeAll budget environment .stdout configuration.dump earlier)
      { made with sampler := made.sampler.start } success before →
    before.options = options ∧
      ∀ (run : ScriptRun engine) (after : Session engine), run.script = script →
        run.Executes budget environment .stdout configuration.dump before after →
          run.begun.options = options

/-- Scripts run under the options of the configuration. -/
theorem Program.runsUnder_options (configuration : CommandLine.Configuration) :
    RunsUnder configuration configuration.options := by
  intro engine budget surroundings environment made before earlier script later success hmade _
    hearlier
  have hbefore : before.options = configuration.options :=
    ((Host.keeps_shell.executeAll earlier).options_eq hearlier).trans
      ((Host.keeps_createEnvironment configuration.trailingArguments).options_eq hmade)
  refine ⟨hbefore, fun run after _ hrun => ?_⟩
  rw [hrun.begins.after_eq, hbefore]

namespace CommandLine

/-! ## Command lines -/

/-- Reordered segments, whatever ends the command line behind them, ask for the same. The options
that `--options` lists, and those that every script runs under, are made by all assignments of the
command line, those behind included. -/
theorem parse_reordered {segments others : List Segment}
    (hsegments : ∀ segment ∈ segments, segment.WellFormed) (h : Reorders segments others) :
    ∀ (ending : Ending) (trailing : List String), ending.trailing? = some trailing →
      parse (segments.flatMap Segment.arguments ++ ending.arguments) =
          parse (others.flatMap Segment.arguments ++ ending.arguments) ∧
        (.listOptions ∈ segments →
          parse (segments.flatMap Segment.arguments ++ ending.arguments) =
            .ok (.listOptions (assignedOptions segments))) ∧
        (.listOptions ∉ segments → ∃ configuration : Configuration,
          parse (segments.flatMap Segment.arguments ++ ending.arguments) =
              .ok (.run configuration) ∧
            configuration.Describes segments trailing ∧
            Program.RunsUnder configuration (assignedOptions segments)) := by
  intro ending trailing hending
  have hdescribes := describes_ofSegments segments trailing
  have hoptions := hdescribes.options_eq_assignedOptions
  have hparse := parse_segments hsegments hending
  refine ⟨?_, fun hlisting => ?_, fun hlisting => ?_⟩
  · rw [hparse, parse_segments (h.wellFormed hsegments) hending, h.ofSegments_eq]
  · rw [hparse]
    simp [Request.ofSegments, hlisting, hoptions]
  · refine ⟨_, ?_, hdescribes, hoptions ▸ Program.runsUnder_options _⟩
    rw [hparse]
    simp [Request.ofSegments, hlisting]

/-- Settings in front of the scripts that they are for. -/
def settingsFirst : List Segment :=
  [.assignment "maxStackSize=5", .assignment "maxStackSize=7", .assignment "strictMode=1",
    .profile "first.json", .profile "last.json", .dump, .inline "0", .bare "a.js"]

/-- The same settings behind them. -/
def settingsLast : List Segment :=
  [.inline "0", .assignment "maxStackSize=5", .profile "first.json", .bare "a.js", .dump,
    .assignment "strictMode=1", .assignment "maxStackSize=7", .profile "last.json"]

/-- Scripts and a listing in front of the assignments mind those behind them. -/
theorem parse_settings_last :
    Reorders settingsLast settingsFirst ∧
      parse (settingsLast.flatMap Segment.arguments ++ ["--", "-d"]) =
        parse (settingsFirst.flatMap Segment.arguments ++ ["--", "-d"]) ∧
      parse ((.listOptions :: settingsLast).flatMap Segment.arguments) =
        .ok (.listOptions { maxStackSize := 7, strictMode := true }) ∧
      ∃ configuration : Configuration,
        parse (settingsLast.flatMap Segment.arguments ++ ["--", "-d"]) = .ok (.run configuration) ∧
          configuration.scripts = [.inline "0", .file "a.js"] ∧
          configuration.profilePath = some "last.json" ∧
          Program.RunsUnder configuration { maxStackSize := 7, strictMode := true } := by
  have hwellFormed : ∀ segment ∈ .listOptions :: settingsLast, segment.WellFormed := by
    simp only [settingsLast, List.forall_mem_cons, Segment.WellFormed, true_and]
    refine ⟨by decide, ⟨by decide, fun text htext => ?_⟩, by decide, by decide,
      List.forall_mem_nil _⟩
    have hname := longName?_append text
    rw [← htext] at hname
    cases hname
  have hreorders : Reorders settingsLast settingsFirst :=
    ⟨by decide, by decide, by decide, by intro name; cases name <;> decide⟩
  have hoptions : assignedOptions settingsLast = { maxStackSize := 7, strictMode := true } := by
    decide
  obtain ⟨hsame, -, hrun⟩ := parse_reordered (List.forall_mem_cons.mp hwellFormed).2 hreorders
    (.trailing ["-d"]) ["-d"] rfl
  obtain ⟨-, hlisting, -⟩ := parse_reordered hwellFormed
    ⟨.refl _, rfl, rfl, fun _ => rfl⟩ .complete [] rfl
  obtain ⟨configuration, hparse, hdescribes, hunder⟩ := hrun (by decide)
  refine ⟨hreorders, hsame, ?_, configuration, hparse, hdescribes.scripts_eq,
    hdescribes.profilePath_eq, hoptions ▸ hunder⟩
  have hlisted := hlisting List.mem_cons_self
  rwa [show assignedOptions (.listOptions :: settingsLast) = _ from hoptions, Ending.arguments,
    List.append_nil] at hlisted

end CommandLine

end ScriptShell
