import ScriptShell.CommandLine.Parse
import ScriptShell.Proofs.Options.Assignment

/-!
# The grammar of command lines

Every command line is written by segments and an ending, in exactly one way, provided that a
segment is only what it says: an assignment is one that the options accept, and a path stands on
its own only where it could not be read as anything else. What the program is asked for can be
said of that writing alone, segment by segment and without an order in which they are applied.

## Main results

* `split_eq_of_decomposes` and `decomposes_split` say that `split` finds the one writing.
* `describes_ofSegments` says what configuration segments describe.
* `parse_follows_grammar` is about whole command lines.
-/

namespace ScriptShell.CommandLine

/-! ## Well-formed segments and endings -/

/-- The words that are no path where a segment may begin. -/
def reservedWords : List String :=
  ["-f", "-e", "-p", "--", "-h", "--help", "-i", "-d", "-s", "-x", "--options", "--dumpOptions"]

/-- A segment is what it says: an assignment is accepted, and a path on its own is no reserved word
and no assignment that would be accepted. -/
def Segment.WellFormed : Segment → Prop
  | .assignment text => Options.Accepts text
  | .bare path =>
    path ∉ reservedWords ∧ ∀ text, path = "--" ++ text → ¬ Options.Accepts text
  | _ => True

/-- An ending is what it says: help is asked for by one of two words. -/
def Ending.WellFormed : Ending → Prop
  | .help word _ => word = "-h" ∨ word = "--help"
  | _ => True

/-- A command line is written by segments and an ending. -/
structure Decomposes (arguments : List String) (segments : List Segment) (ending : Ending) :
    Prop where
  segments_wellFormed : ∀ segment ∈ segments, segment.WellFormed
  ending_wellFormed : ending.WellFormed
  arguments_eq : arguments = segments.flatMap Segment.arguments ++ ending.arguments

/-! ## Words -/

theorem longName?_append (text : String) : longName? ("--" ++ text) = some text := by
  simp [longName?]

theorem eq_append_of_longName? {word text : String} (h : longName? word = some text) :
    word = "--" ++ text := by
  unfold longName? at h
  split at h
  · next rest heq =>
      rw [Option.some.injEq] at h
      rw [← h]
      exact String.toList_inj.mp (by simp [heq])
  · cases h

/-- No reserved word is an assignment that is accepted. -/
theorem not_accepts_of_mem_reservedWords {text : String} (h : "--" ++ text ∈ reservedWords) :
    ¬ Options.Accepts text := by
  have hnone : ∀ word ∈ reservedWords, (longName? word).all (fun text =>
      (Options.readAssignment? text).isNone) = true := by
    decide
  have hread := hnone _ h
  rw [longName?_append] at hread
  rw [Options.accepts_iff]
  simpa using hread

/-- A segment written with one word, and read from it. -/
private theorem split_cons_of_none {word : String} (rest : List String)
    (hflag : ValueFlag.ofSpelling? word = none) (hdashes : word ≠ "--")
    (hhelp : (word = "-h" || word = "--help") = false) :
    split (word :: rest) = (Segment.ofWord word :: (split rest).1, (split rest).2) := by
  rw [split]
  simp [hflag, hdashes, hhelp]

private theorem split_cons_of_not_reserved {word : String} (rest : List String)
    (hword : word ∉ reservedWords) :
    split (word :: rest) = (Segment.ofWord word :: (split rest).1, (split rest).2) := by
  simp only [reservedWords, List.mem_cons, List.not_mem_nil, or_false, not_or] at hword
  refine split_cons_of_none rest ?_ ?_ ?_ <;> simp [ValueFlag.ofSpelling?, hword]

/-- A word that is not reserved is an accepted assignment or a path. -/
private theorem ofWord_of_not_reserved {word : String} (hword : word ∉ reservedWords) :
    (∃ text, word = "--" ++ text ∧ Options.Accepts text ∧
      Segment.ofWord word = .assignment text) ∨
    ((∀ text, word = "--" ++ text → ¬ Options.Accepts text) ∧
      Segment.ofWord word = .bare word) := by
  simp only [reservedWords, List.mem_cons, List.not_mem_nil, or_false, not_or] at hword
  cases hname : longName? word with
  | none =>
      refine .inr ⟨?_, by simp [Segment.ofWord, hword, hname]⟩
      rintro text rfl
      rw [longName?_append] at hname
      cases hname
  | some text =>
      obtain rfl := eq_append_of_longName? hname
      by_cases haccepts : Options.Accepts text
      · have hread := Options.accepts_iff.mp haccepts
        exact .inl ⟨text, rfl, haccepts, by simp [Segment.ofWord, hword, hname, hread]⟩
      · have hread := mt Options.accepts_iff.mpr haccepts
        refine .inr ⟨?_, by simp [Segment.ofWord, hword, hname, hread]⟩
        intro other hother
        have hsame := longName?_append other
        rw [← hother, hname] at hsame
        obtain rfl := Option.some.inj hsame
        exact haccepts

/-! ## One writing for each command line -/

/-- A segment is read where it is written. -/
theorem split_segment {segment : Segment} (h : segment.WellFormed) (rest : List String) :
    split (segment.arguments ++ rest) = (segment :: (split rest).1, (split rest).2) := by
  cases segment with
  | file path => simp [Segment.arguments, split, ValueFlag.ofSpelling?, ValueFlag.segment]
  | inline code => simp [Segment.arguments, split, ValueFlag.ofSpelling?, ValueFlag.segment]
  | profile path => simp [Segment.arguments, split, ValueFlag.ofSpelling?, ValueFlag.segment]
  | interactive | dump | crashHandlers | reportExit | listOptions | dumpOptions =>
      exact split_cons_of_none rest (by decide) (by decide) (by decide)
  | assignment text =>
      have hword : "--" ++ text ∉ reservedWords := fun hmem =>
        not_accepts_of_mem_reservedWords hmem h
      show split (("--" ++ text) :: rest) = _
      rw [split_cons_of_not_reserved rest hword]
      rcases ofWord_of_not_reserved hword with ⟨other, heq, -, hread⟩ | ⟨hnone, -⟩
      · have hsame := longName?_append other
        rw [← heq, longName?_append] at hsame
        rw [hread, Option.some.inj hsame]
      · exact absurd h (hnone text rfl)
  | bare path =>
      obtain ⟨hword, hnone⟩ := h
      show split (path :: rest) = _
      rw [split_cons_of_not_reserved rest hword]
      rcases ofWord_of_not_reserved hword with ⟨text, heq, haccepts, -⟩ | ⟨-, hread⟩
      · exact absurd haccepts (hnone text heq)
      · rw [hread]

theorem split_ending {ending : Ending} (h : ending.WellFormed) :
    split ending.arguments = ([], ending) := by
  cases ending with
  | complete => rfl
  | trailing rest => simp [Ending.arguments, split, ValueFlag.ofSpelling?]
  | help word unread =>
      rcases h with rfl | rfl <;> simp [Ending.arguments, split, ValueFlag.ofSpelling?]
  | missing flag =>
      cases flag <;>
        simp [Ending.arguments, split, ValueFlag.ofSpelling?, ValueFlag.spelling]

/-- What is written is read. -/
theorem split_eq_of_decomposes {arguments : List String} {segments : List Segment}
    {ending : Ending} (h : Decomposes arguments segments ending) :
    split arguments = (segments, ending) := by
  obtain ⟨hsegments, hending, rfl⟩ := h
  induction segments with
  | nil => exact split_ending hending
  | cons segment segments ih =>
      obtain ⟨hsegment, hrest⟩ := List.forall_mem_cons.mp hsegments
      rw [List.flatMap_cons, List.append_assoc, split_segment hsegment, ih hrest]

theorem ValueFlag.eq_spelling_of_ofSpelling? {word : String} {flag : ValueFlag}
    (h : ofSpelling? word = some flag) : word = flag.spelling := by
  unfold ofSpelling? at h
  split_ifs at h with hfile hinline hprofile <;> cases h <;> assumption

theorem ValueFlag.segment_arguments (flag : ValueFlag) (value : String) :
    (flag.segment value).arguments = [flag.spelling, value] := by
  cases flag <;> rfl

theorem ValueFlag.segment_wellFormed (flag : ValueFlag) (value : String) :
    (flag.segment value).WellFormed := by
  cases flag <;> trivial

/-- A single word that ends nothing is what the segment read from it is written with. -/
private theorem ofWord_written {word : String} (hflag : ValueFlag.ofSpelling? word = none)
    (hdashes : word ≠ "--") (hhelp : (word = "-h" || word = "--help") = false) :
    (Segment.ofWord word).WellFormed ∧ (Segment.ofWord word).arguments = [word] := by
  by_cases hreserved : word ∈ reservedWords
  · simp only [reservedWords, List.mem_cons, List.not_mem_nil, or_false] at hreserved
    rcases hreserved with rfl | rfl | rfl | rfl | rfl | rfl | rfl | rfl | rfl | rfl | rfl | rfl <;>
      first | exact ⟨trivial, rfl⟩ | simp [ValueFlag.ofSpelling?] at hflag hdashes hhelp
  · rcases ofWord_of_not_reserved hreserved with ⟨text, rfl, haccepts, hread⟩ | ⟨hnone, hread⟩
    · rw [hread]
      exact ⟨haccepts, rfl⟩
    · rw [hread]
      exact ⟨⟨hreserved, hnone⟩, rfl⟩

/-- Whatever is read was written. -/
theorem decomposes_split (arguments : List String) :
    Decomposes arguments (split arguments).1 (split arguments).2 := by
  fun_induction split arguments with
  | case1 => exact ⟨List.forall_mem_nil _, trivial, rfl⟩
  | case2 word flag hflag =>
      refine ⟨List.forall_mem_nil _, trivial, ?_⟩
      rw [ValueFlag.eq_spelling_of_ofSpelling? hflag]
      rfl
  | case3 word flag hflag value rest segments ending hsplit ih =>
      rw [hsplit] at ih
      refine ⟨?_, ih.ending_wellFormed, ?_⟩
      · exact List.forall_mem_cons.mpr
          ⟨flag.segment_wellFormed value, ih.segments_wellFormed⟩
      · rw [List.flatMap_cons, flag.segment_arguments, ValueFlag.eq_spelling_of_ofSpelling? hflag]
        exact congrArg (fun rest => flag.spelling :: value :: rest) ih.arguments_eq
  | case4 rest hflag => exact ⟨List.forall_mem_nil _, trivial, rfl⟩
  | case5 word rest hflag hdashes hhelp =>
      have hword : word = "-h" ∨ word = "--help" := by simpa using hhelp
      exact ⟨List.forall_mem_nil _, hword, rfl⟩
  | case6 word rest hflag hdashes hhelp segments ending hsplit ih =>
      rw [hsplit] at ih
      obtain ⟨hword, hwritten⟩ := ofWord_written hflag hdashes (by simpa using hhelp)
      refine ⟨List.forall_mem_cons.mpr ⟨hword, ih.segments_wellFormed⟩, ih.ending_wellFormed, ?_⟩
      rw [List.flatMap_cons, hwritten]
      exact congrArg (word :: ·) ih.arguments_eq

/-! ## What segments describe -/

/-- The script that a segment names. -/
def Segment.script? : Segment → Option Script
  | .file path | .bare path => some (.file path)
  | .inline code => some (.inline code)
  | _ => none

/-- The path that a segment gives for the profile. -/
def Segment.profile? : Segment → Option String
  | .profile path => some path
  | _ => none

/-- The assignment that a segment makes. -/
def Segment.assignment? : Segment → Option String
  | .assignment text => some text
  | _ => none

/-- The value that a segment gives to an option. -/
def Segment.assigned? (name : OptionName) (segment : Segment) : Option OptionValue :=
  segment.assignment?.bind (Options.assigned? name)

/-- What segments and trailing arguments say of a configuration, field by field. -/
structure Configuration.Describes (segments : List Segment) (trailing : List String)
    (configuration : Configuration) : Prop where
  scripts_eq : configuration.scripts = segments.filterMap Segment.script?
  interactive_iff : configuration.interactive = true ↔
    .interactive ∈ segments ∨ configuration.scripts = []
  dump_iff : configuration.dump = true ↔ .dump ∈ segments
  profilePath_eq : configuration.profilePath = (segments.filterMap Segment.profile?).getLast?
  reportExit_iff : configuration.reportExit = true ↔ .reportExit ∈ segments
  crashHandlers_iff : configuration.crashHandlers = true ↔ .crashHandlers ∈ segments
  dumpOptions_iff : configuration.dumpOptions = true ↔
    .dumpOptions ∈ segments ∨ .listOptions ∈ segments
  options_eq : ∀ name, configuration.options.get name =
    ((segments.filterMap (Segment.assigned? name)).getLast?).getD (({} : Options).get name)
  trailingArguments_eq : configuration.trailingArguments = trailing

/-- The segments that turn on something and say nothing else. -/
def switches : List Segment :=
  [.interactive, .dump, .crashHandlers, .reportExit, .dumpOptions]

/-- Whether a configuration has on what a switch turns on. -/
def Configuration.isOn (configuration : Configuration) : Segment → Bool
  | .interactive => configuration.interactive
  | .dump => configuration.dump
  | .crashHandlers => configuration.crashHandlers
  | .reportExit => configuration.reportExit
  | .dumpOptions => configuration.dumpOptions
  | _ => false

/-- A segment turns on what a switch does: it is that switch, or it lists the options. -/
def Segment.TurnsOn (segment switch : Segment) : Prop :=
  segment = switch ∨ segment = .listOptions ∧ switch = .dumpOptions

section Applied

variable (configuration : Configuration) (segments : List Segment)

private theorem isOn_apply (segment : Segment) {switch : Segment} (hswitch : switch ∈ switches) :
    (configuration.apply segment).isOn switch = true ↔
      configuration.isOn switch = true ∨ segment.TurnsOn switch := by
  simp only [switches, List.mem_cons, List.not_mem_nil, or_false] at hswitch
  rcases hswitch with rfl | rfl | rfl | rfl | rfl <;> cases segment <;>
    simp [Configuration.apply, Configuration.isOn, Segment.TurnsOn]

/-- A switch is on where it was on before or some segment turns it on. -/
private theorem foldl_apply_isOn (switch : Segment) (hswitch : switch ∈ switches) :
    (segments.foldl Configuration.apply configuration).isOn switch = true ↔
      configuration.isOn switch = true ∨ ∃ segment ∈ segments, segment.TurnsOn switch := by
  induction segments generalizing configuration with
  | nil => simp
  | cons segment segments ih =>
      rw [List.foldl_cons, ih, isOn_apply configuration segment hswitch, or_assoc]
      simp

private theorem foldl_apply_scripts :
    (segments.foldl Configuration.apply configuration).scripts =
      configuration.scripts ++ segments.filterMap Segment.script? := by
  induction segments generalizing configuration with
  | nil => simp
  | cons segment segments ih =>
      rw [List.foldl_cons, ih]
      cases segment <;> simp [Configuration.apply, Segment.script?, List.filterMap_cons]

private theorem foldl_apply_profilePath :
    (segments.foldl Configuration.apply configuration).profilePath =
      (segments.filterMap Segment.profile?).getLast?.or configuration.profilePath := by
  induction segments generalizing configuration with
  | nil => rfl
  | cons segment segments ih =>
      rw [List.foldl_cons, ih]
      cases segment with
      | profile path =>
          simp only [Configuration.apply, List.filterMap_cons, Segment.profile?, List.getLast?_cons]
          cases (segments.filterMap Segment.profile?).getLast? <;> rfl
      | _ => rfl

private theorem foldl_apply_options :
    (segments.foldl Configuration.apply configuration).options =
      (segments.filterMap Segment.assignment?).foldl Options.assign configuration.options := by
  induction segments generalizing configuration with
  | nil => rfl
  | cons segment segments ih =>
      rw [List.foldl_cons, ih]
      cases segment <;> rfl

end Applied

/-- Segments and trailing arguments describe the configuration that they are read as. -/
theorem describes_ofSegments (segments : List Segment) (trailing : List String) :
    (Configuration.ofSegments segments trailing).Describes segments trailing := by
  have hscripts : (segments.foldl Configuration.apply {}).scripts = _ :=
    (foldl_apply_scripts {} segments).trans (List.nil_append _)
  have hinteractive := foldl_apply_isOn {} segments .interactive (by decide)
  have hdump := foldl_apply_isOn {} segments .dump (by decide)
  have hreport := foldl_apply_isOn {} segments .reportExit (by decide)
  have hcrash := foldl_apply_isOn {} segments .crashHandlers (by decide)
  have hlisting := foldl_apply_isOn {} segments .dumpOptions (by decide)
  simp only [Configuration.isOn, Segment.TurnsOn, reduceCtorEq, and_false, or_false, false_or,
    and_true, exists_eq_right, and_or_left, exists_or] at hinteractive hdump hreport hcrash hlisting
  exact {
    scripts_eq := hscripts
    interactive_iff := by
      simpa [Configuration.ofSegments, hscripts] using or_congr hinteractive Iff.rfl
    dump_iff := hdump
    profilePath_eq := (foldl_apply_profilePath {} segments).trans (Option.or_none)
    reportExit_iff := hreport
    crashHandlers_iff := hcrash
    dumpOptions_iff := hlisting
    options_eq := by
      intro name
      show (segments.foldl Configuration.apply {}).options.get name = _
      rw [foldl_apply_options, Options.get_foldl_assign, List.filterMap_filterMap]
      rfl
    trailingArguments_eq := rfl }

/-! ## Whole command lines -/

/-- The answer to a command line that is to be configured: the options, where some segment asks for
them, and a run otherwise, of the configuration that segments and trailing arguments describe. -/
def AsksFor (segments : List Segment) (trailing : List String)
    (answer : Except UsageError Request) : Prop :=
  ∃ configuration : Configuration, configuration.Describes segments trailing ∧
    answer = .ok (if .listOptions ∈ segments then .listOptions configuration.options
      else .run configuration)

/-- The answer that segments and an ending call for. -/
def Answers (segments : List Segment) : Ending → Except UsageError Request → Prop
  | .complete, answer => AsksFor segments [] answer
  | .trailing rest, answer => AsksFor segments rest answer
  | .help _ _, answer => answer = .ok .help
  | .missing flag, answer => ∃ error, answer = .error error ∧
      error.message = "missing argument for `" ++ flag.spelling ++ "`"

theorem asksFor_ofSegments (segments : List Segment) (trailing : List String) :
    AsksFor segments trailing (.ok (.ofSegments segments trailing)) := by
  refine ⟨_, describes_ofSegments segments trailing, ?_⟩
  by_cases hlisting : .listOptions ∈ segments
  · simp [Request.ofSegments, hlisting]
  · simp [Request.ofSegments, hlisting]

/-- Every command line is written by segments and an ending in exactly one way, and what it asks
for is what these call for. -/
theorem parse_follows_grammar (arguments : List String) :
    ∃ segments ending, Decomposes arguments segments ending ∧
      (∀ otherSegments otherEnding, Decomposes arguments otherSegments otherEnding →
        otherSegments = segments ∧ otherEnding = ending) ∧
      Answers segments ending (parse arguments) := by
  refine ⟨_, _, decomposes_split arguments, fun otherSegments otherEnding hother => ?_, ?_⟩
  · rw [split_eq_of_decomposes hother]
    exact ⟨rfl, rfl⟩
  · unfold parse
    rcases split arguments with ⟨segments, ending⟩
    cases ending with
    | complete => exact asksFor_ofSegments segments []
    | trailing rest => exact asksFor_ofSegments segments rest
    | help word unread => rfl
    | missing flag => exact ⟨_, rfl, rfl⟩

/-- Values are read by their place: dashes behind `-e` are code, an assignment that is not accepted
is a path, and it is the last `-p` whose value is missing. -/
theorem parse_values_by_place :
    let arguments := ["-e", "--", "--strictMode=1", "--strictMode=2", "-p", "-h", "-p"]
    Decomposes arguments
        [.inline "--", .assignment "strictMode=1", .bare "--strictMode=2", .profile "-h"]
        (.missing .profile) ∧
      ∃ error, parse arguments = .error error ∧ error.message = "missing argument for `-p`" := by
  intro arguments
  have hwritten : Decomposes arguments
      [.inline "--", .assignment "strictMode=1", .bare "--strictMode=2", .profile "-h"]
      (.missing .profile) := by
    refine ⟨?_, trivial, rfl⟩
    simp only [List.forall_mem_cons, Segment.WellFormed, true_and]
    refine ⟨by decide, ⟨by decide, fun text htext => ?_⟩, List.forall_mem_nil _⟩
    obtain rfl : text = "strictMode=2" := by
      have hname := longName?_append text
      rw [← htext] at hname
      simpa [longName?] using hname.symm
    decide
  obtain ⟨segments, ending, -, hunique, hanswers⟩ := parse_follows_grammar arguments
  obtain ⟨-, rfl⟩ := hunique _ _ hwritten
  exact ⟨hwritten, hanswers⟩

end ScriptShell.CommandLine
