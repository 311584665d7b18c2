import Mathlib.Data.List.Forall2
import ScriptShell.Proofs.CommandLine.Grammar

/-!
# Configurations written as command lines

A configuration is written as a command line by one segment for each script, in their order, and
one for each thing that is set, anywhere between them: the switches that are on, the path of the
profile and every option with its value. Whatever text the payloads are, and however the segments
are interleaved, such a command line asks for a run of the very configuration
(`parse_rendering`). A description determines its configuration (`Configuration.Describes.eq`), so
all that is to be shown is that the segments describe the configuration that they write.
-/

namespace ScriptShell.CommandLine

/-! ## Renderings -/

/-- A segment writes a script. A path may stand on its own where it is read as one. -/
inductive Writes : Script → Segment → Prop
  | file (path : String) : Writes (.file path) (.file path)
  | inline (code : String) : Writes (.inline code) (.inline code)
  | bare {path : String} (hpath : (Segment.bare path).WellFormed) :
      Writes (.file path) (.bare path)

/-- Whether a segment names a script. -/
def Segment.isScript (segment : Segment) : Bool :=
  segment.script?.isSome

/-- The segments for the things that a configuration sets: the switches that are on, the path of
the profile and every option with its value. -/
def Configuration.settings (configuration : Configuration) : List Segment :=
  switches.filter configuration.isOn ++ (configuration.profilePath.map .profile).toList ++
    OptionName.all.map fun name =>
      .assignment (Options.assignmentText name (configuration.options.get name))

/-- Segments write a configuration: those that name scripts write the scripts in their order, and
the others, in any order and anywhere between them, are those for the settings. -/
structure Renders (configuration : Configuration) (segments : List Segment) : Prop where
  scripts : List.Forall₂ Writes configuration.scripts (segments.filter Segment.isScript)
  settings : (segments.filter fun segment => !segment.isScript).Perm configuration.settings

/-! ## Descriptions -/

/-- A description determines its configuration. -/
theorem Configuration.Describes.eq {segments : List Segment} {trailing : List String}
    {first second : Configuration} (hfirst : first.Describes segments trailing)
    (hsecond : second.Describes segments trailing) : first = second := by
  have hscripts := hfirst.scripts_eq.trans hsecond.scripts_eq.symm
  have hinteractive : first.interactive = second.interactive := by
    rw [Bool.eq_iff_iff, hfirst.interactive_iff, hsecond.interactive_iff, hscripts]
  have hdump : first.dump = second.dump := by
    rw [Bool.eq_iff_iff, hfirst.dump_iff, hsecond.dump_iff]
  have hprofile := hfirst.profilePath_eq.trans hsecond.profilePath_eq.symm
  have hreport : first.reportExit = second.reportExit := by
    rw [Bool.eq_iff_iff, hfirst.reportExit_iff, hsecond.reportExit_iff]
  have hcrash : first.crashHandlers = second.crashHandlers := by
    rw [Bool.eq_iff_iff, hfirst.crashHandlers_iff, hsecond.crashHandlers_iff]
  have hlisting : first.dumpOptions = second.dumpOptions := by
    rw [Bool.eq_iff_iff, hfirst.dumpOptions_iff, hsecond.dumpOptions_iff]
  have hoptions : first.options = second.options := Options.eq_of_get_eq fun name =>
    (hfirst.options_eq name).trans (hsecond.options_eq name).symm
  have htrailing := hfirst.trailingArguments_eq.trans hsecond.trailingArguments_eq.symm
  cases first
  cases second
  simp only at hscripts hinteractive hdump hprofile hreport hcrash hlisting hoptions htrailing
  simp [*]

/-! ## What settings say -/

section Settings

variable (configuration : Configuration)

theorem settings_wellFormed : ∀ segment ∈ configuration.settings, segment.WellFormed := by
  intro segment hsegment
  cases segment with
  | assignment text =>
      obtain ⟨name, rfl⟩ : ∃ name, Options.assignmentText name
          (configuration.options.get name) = text := by
        simpa [Configuration.settings, switches] using hsegment
      exact configuration.options.accepts_assignmentText name
  | bare path => simp [Configuration.settings, switches] at hsegment
  | _ => trivial

/-- A switch is among the settings exactly if it is on. -/
theorem mem_settings_iff {switch : Segment} (hswitch : switch ∈ switches) :
    switch ∈ configuration.settings ↔ configuration.isOn switch = true := by
  simp only [switches, List.mem_cons, List.not_mem_nil, or_false] at hswitch
  rcases hswitch with rfl | rfl | rfl | rfl | rfl <;>
    simp [Configuration.settings, switches]

/-- Whatever reads nothing out of switches reads nothing out of those that are on. -/
private theorem filterMap_switches {α : Type} {read : Segment → Option α}
    (hread : ∀ switch ∈ switches, read switch = none) :
    (switches.filter configuration.isOn).filterMap read = [] := by
  rw [List.filterMap_eq_nil_iff]
  intro segment hsegment
  exact hread segment (List.mem_filter.mp hsegment).1

/-- The settings give the path of the profile, if there is one. -/
theorem settings_profile : configuration.settings.filterMap Segment.profile? =
    configuration.profilePath.toList := by
  unfold Configuration.settings
  rw [List.filterMap_append, List.filterMap_append, filterMap_switches configuration (by decide)]
  cases configuration.profilePath <;> rfl

/-- The settings give each option its value, once. -/
theorem settings_assigned (name : OptionName) :
    configuration.settings.filterMap (Segment.assigned? name) =
      [configuration.options.get name] := by
  have hprofile : (configuration.profilePath.map Segment.profile).toList.filterMap
      (Segment.assigned? name) = [] := by
    cases configuration.profilePath <;> rfl
  have hswitches : ∀ switch ∈ switches, Segment.assigned? name switch = none := by
    simp [switches, Segment.assigned?, Segment.assignment?]
  have hoptions : (OptionName.all.map fun other => Segment.assignment
      (Options.assignmentText other (configuration.options.get other))) =
        configuration.options.assignments.map .assignment := by
    simp [Options.assignments]
  unfold Configuration.settings
  rw [List.filterMap_append, List.filterMap_append, filterMap_switches configuration hswitches,
    hprofile, hoptions, List.filterMap_map]
  exact configuration.options.filterMap_assignments name

end Settings

/-! ## Renderings describe what they write -/

/-- The segments that write scripts are well-formed and name them. -/
theorem writes_scripts {scripts : List Script} {written : List Segment}
    (h : List.Forall₂ Writes scripts written) :
    (∀ segment ∈ written, segment.WellFormed) ∧
      written.filterMap Segment.script? = scripts := by
  induction h with
  | nil => exact ⟨List.forall_mem_nil _, rfl⟩
  | cons hwrites _ ih =>
      cases hwrites with
      | file path => exact ⟨List.forall_mem_cons.mpr ⟨trivial, ih.1⟩, congrArg _ ih.2⟩
      | inline code => exact ⟨List.forall_mem_cons.mpr ⟨trivial, ih.1⟩, congrArg _ ih.2⟩
      | bare hpath => exact ⟨List.forall_mem_cons.mpr ⟨hpath, ih.1⟩, congrArg _ ih.2⟩

/-- What is read only out of some of the segments is read out of those. -/
theorem filterMap_filter_of_eq_none {α : Type} {read : Segment → Option α}
    (chosen : Segment → Bool) (hread : ∀ segment, chosen segment = false → read segment = none)
    (segments : List Segment) :
    (segments.filter chosen).filterMap read = segments.filterMap read := by
  rw [List.filterMap_filter]
  congr 1
  funext segment
  by_cases hchosen : chosen segment = true
  · rw [if_pos hchosen]
  · rw [if_neg hchosen, hread segment (by simpa using hchosen)]

namespace Renders

variable {configuration : Configuration} {segments : List Segment}

theorem wellFormed (h : Renders configuration segments) :
    ∀ segment ∈ segments, segment.WellFormed := by
  intro segment hsegment
  by_cases hscript : segment.isScript = true
  · exact (writes_scripts h.scripts).1 segment (List.mem_filter.mpr ⟨hsegment, hscript⟩)
  · have hmem : segment ∈ segments.filter fun segment => !segment.isScript :=
      List.mem_filter.mpr ⟨hsegment, by simpa using hscript⟩
    exact settings_wellFormed configuration segment (h.settings.mem_iff.mp hmem)

theorem scripts_eq (h : Renders configuration segments) :
    configuration.scripts = segments.filterMap Segment.script? := by
  rw [← (writes_scripts h.scripts).2]
  refine filterMap_filter_of_eq_none Segment.isScript (fun segment hsegment => ?_) segments
  simpa [Segment.isScript] using hsegment

/-- What names no script is written exactly if it is among the settings. -/
theorem mem_iff (h : Renders configuration segments) {segment : Segment}
    (hsegment : segment.isScript = false) :
    segment ∈ segments ↔ segment ∈ configuration.settings := by
  rw [← h.settings.mem_iff]
  simp [hsegment]

/-- What scripts say nothing of is said by the settings, in some order. -/
theorem filterMap_perm (h : Renders configuration segments) {α : Type}
    (read : Segment → Option α) (hread : ∀ segment, segment.isScript = true → read segment = none) :
    (segments.filterMap read).Perm (configuration.settings.filterMap read) := by
  rw [← filterMap_filter_of_eq_none (fun segment => !segment.isScript)
    (fun segment hsegment => hread segment (by simpa using hsegment)) segments]
  exact h.settings.filterMap read

/-- A switch is written exactly if it is on. -/
theorem switch_mem_iff (h : Renders configuration segments) (switch : Segment)
    (hswitch : switch ∈ switches) : switch ∈ segments ↔ configuration.isOn switch = true := by
  have hnames : ∀ segment ∈ switches, segment.isScript = false := by decide
  rw [h.mem_iff (hnames switch hswitch), mem_settings_iff configuration hswitch]

/-- Segments that write a configuration describe it, if the shell is on where no script is. -/
theorem describes (h : Renders configuration segments)
    (hshell : configuration.scripts = [] → configuration.interactive = true) :
    configuration.Describes segments configuration.trailingArguments where
  scripts_eq := h.scripts_eq
  interactive_iff := by
    rw [h.switch_mem_iff .interactive (by decide)]
    exact ⟨.inl, fun hor => hor.elim id hshell⟩
  dump_iff := (h.switch_mem_iff .dump (by decide)).symm
  profilePath_eq := by
    have hperm := h.filterMap_perm Segment.profile? fun segment hscript => by
      cases segment with
      | profile path => cases hscript
      | _ => rfl
    rw [settings_profile] at hperm
    cases hpath : configuration.profilePath with
    | none =>
        rw [hpath] at hperm
        rw [hperm.eq_nil]
        rfl
    | some path =>
        rw [hpath] at hperm
        rw [List.perm_singleton.mp hperm]
        rfl
  reportExit_iff := (h.switch_mem_iff .reportExit (by decide)).symm
  crashHandlers_iff := (h.switch_mem_iff .crashHandlers (by decide)).symm
  dumpOptions_iff := by
    have hlisting : .listOptions ∉ segments := by
      rw [h.mem_iff rfl]
      simp [Configuration.settings, switches]
    rw [h.switch_mem_iff .dumpOptions (by decide)]
    simp [hlisting, Configuration.isOn]
  options_eq := by
    intro name
    have hperm := h.filterMap_perm (Segment.assigned? name) fun segment hscript => by
      cases segment with
      | assignment text => cases hscript
      | _ => rfl
    rw [settings_assigned, List.perm_singleton] at hperm
    rw [hperm]
    rfl
  trailingArguments_eq := rfl

end Renders

/-! ## Renderings are read back -/

/-- The segment that writes a script behind a flag. -/
def flagged : Script → Segment
  | .file path => .file path
  | .inline code => .inline code

/-- A configuration can be written with its scripts first and its settings behind them. -/
theorem renders_scripts_settings (configuration : Configuration) :
    Renders configuration (configuration.scripts.map flagged ++ configuration.settings) := by
  have hscripts : ∀ segment ∈ configuration.scripts.map flagged, segment.isScript = true := by
    intro segment hsegment
    obtain ⟨script, -, rfl⟩ := List.mem_map.mp hsegment
    cases script <;> rfl
  have hsettings : ∀ segment ∈ configuration.settings, segment.isScript = false := by
    intro segment hsegment
    cases segment with
    | file path => simp [Configuration.settings, switches] at hsegment
    | inline code => simp [Configuration.settings, switches] at hsegment
    | bare path => simp [Configuration.settings, switches] at hsegment
    | _ => rfl
  constructor
  · rw [List.filter_append, List.filter_eq_self.mpr hscripts,
      List.filter_eq_nil_iff.mpr fun segment hsegment => by simp [hsettings segment hsegment],
      List.append_nil, List.forall₂_map_right_iff, List.forall₂_same]
    intro script _
    cases script with
    | file path => exact .file path
    | inline code => exact .inline code
  · rw [List.filter_append,
      List.filter_eq_nil_iff.mpr fun segment hsegment => by simp [hscripts segment hsegment],
      List.filter_eq_self.mpr fun segment hsegment => by simp [hsettings segment hsegment]]
    exact .refl _

/-- Every configuration can be written, if the shell is on where no script is, and whatever writes
it, with the trailing arguments behind two dashes, asks for a run of that configuration. -/
theorem parse_rendering {configuration : Configuration}
    (hshell : configuration.scripts = [] → configuration.interactive = true) :
    (∃ segments, Renders configuration segments) ∧
      ∀ segments, Renders configuration segments →
        parse (segments.flatMap Segment.arguments ++ "--" :: configuration.trailingArguments) =
          .ok (.run configuration) := by
  refine ⟨⟨_, renders_scripts_settings configuration⟩, fun segments hrenders => ?_⟩
  have hwritten : Decomposes (segments.flatMap Segment.arguments ++
      "--" :: configuration.trailingArguments) segments
      (.trailing configuration.trailingArguments) :=
    ⟨hrenders.wellFormed, trivial, rfl⟩
  have hlisting : .listOptions ∉ segments := by
    rw [hrenders.mem_iff rfl]
    simp [Configuration.settings, switches]
  have hsame : Configuration.ofSegments segments configuration.trailingArguments =
      configuration :=
    (describes_ofSegments segments configuration.trailingArguments).eq (hrenders.describes hshell)
  unfold parse
  rw [split_eq_of_decomposes hwritten]
  simp [Request.ofSegments, hlisting, hsame]

/-- A configuration whose texts look like flags. -/
def confusing : Configuration where
  scripts := [.inline "--", .file "-e", .file "a.js"]
  interactive := true
  profilePath := some "-h"
  options := { maxStackSize := 0xFFFFFFFFFFFFFFFF, strictMode := true }
  trailingArguments := ["", "--", "-h"]

/-- One way to write it. -/
def confusingSegments : List Segment :=
  [.assignment "maxStackSize=18446744073709551615", .inline "--", .profile "-h",
    .assignment "strictMode=true", .file "-e", .interactive,
    .assignment "maxLoopIterations=18446744073709551615", .assignment "maxRecursionDepth=512",
    .bare "a.js", .assignment "dumpSampleData=true", .assignment "useSampling=false"]

/-- Texts that look like flags are read as what they are. -/
theorem parse_confusing :
    Renders confusing confusingSegments ∧
      parse (confusingSegments.flatMap Segment.arguments ++ ["--", "", "--", "-h"]) =
        .ok (.run confusing) := by
  have hpath : (Segment.bare "a.js").WellFormed := by
    refine ⟨by decide, fun text htext => ?_⟩
    have hname := longName?_append text
    rw [← htext] at hname
    cases hname
  have hrenders : Renders confusing confusingSegments :=
    ⟨.cons (.inline "--") (.cons (.file "-e") (.cons (.bare hpath) .nil)), by decide +kernel⟩
  exact ⟨hrenders, (parse_rendering (by decide)).2 _ hrenders⟩

end ScriptShell.CommandLine
