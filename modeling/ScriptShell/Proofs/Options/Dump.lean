import ScriptShell.Proofs.CommandLine.Rendering
import ScriptShell.Proofs.Text.Lines

/-!
# The dump of the options, read back

Each line of the dump behind its heading shows an assignment between three spaces and three more in
front of dots. Cut out of the lines, the assignments turn any options into those that were dumped,
in whatever order they are made (`Options.foldl_assign_of_perm`), and so they do as arguments
behind two dashes, wherever these stand (`CommandLine.parse_of_perm`). Neither a name nor a
displayed value contains anything but letters and digits, so that the marks around the assignments,
the equals signs in them and the ends of the lines are where the dump has put them.
-/

namespace ScriptShell

/-! ## Letters and digits -/

theorem OptionName.isAlphanum_of_mem_spelling (name : OptionName) :
    ∀ c ∈ name.spelling.toList, c.isAlphanum = true := by
  have hall : (name.spelling.toList.all Char.isAlphanum) = true := by cases name <;> decide
  simpa using hall

theorem OptionValue.isAlphanum_of_mem_display (value : OptionValue) :
    ∀ c ∈ value.display.toList, c.isAlphanum = true := by
  cases value with
  | boolean value =>
      have hall : ((OptionValue.boolean value).display.toList.all Char.isAlphanum) = true := by
        cases value <;> decide
      simpa using hall
  | unsigned value =>
      intro c hc
      have hdigit : c ∈ Nat.toDigits 10 value.toNat := by
        simpa [OptionValue.display, Nat.repr_eq_ofList_toDigits] using hc
      have hisDigit := Nat.isDigit_of_mem_toDigits (by decide) (by decide) hdigit
      simp [Char.isAlphanum, hisDigit]

/-- A description stands on one line. -/
theorem OptionName.not_mem_description (name : OptionName) :
    '\n' ∉ name.description.toList ∧ '\r' ∉ name.description.toList := by
  cases name <;> decide

namespace Options

/-! ## What a dump shows -/

/-- What stands in front of the first occurrence of a mark. -/
def textBefore (mark : List Char) : List Char → List Char
  | [] => []
  | c :: rest => if mark.isPrefixOf (c :: rest) then [] else c :: textBefore mark rest

/-- What a line of a dump shows behind three spaces and in front of the description. -/
def shownAssignment (line : String) : String :=
  String.ofList (textBefore [' ', ' ', ' ', '.', '.', '.', ' '] (line.toList.drop 3))

/-- What the lines of a dump behind its heading show. -/
def shownAssignments (dump : String) : List String :=
  ((Lines.split dump).drop 1).map shownAssignment

theorem textBefore_append {c : Char} {mark : List Char} (text rest : List Char) (hc : c ∉ text) :
    textBefore (c :: mark) (text ++ (c :: mark ++ rest)) = text := by
  induction text with
  | nil =>
      rw [List.nil_append, List.cons_append, textBefore, if_pos]
      simp
  | cons first text ih =>
      rw [List.mem_cons, not_or] at hc
      obtain ⟨hfirst, hc⟩ := hc
      rw [List.cons_append, textBefore, if_neg, ih hc]
      simp [hfirst]

variable (options : Options)

/-- A line of the dump without its end. -/
def dumpText (name : OptionName) : String :=
  "   " ++ assignmentText name (options.get name) ++ "   ... " ++ name.description

/-- The characters of an assignment. -/
theorem mem_assignmentText {name : OptionName} {value : OptionValue} {c : Char}
    (hc : c ∈ (assignmentText name value).toList) : c.isAlphanum = true ∨ c = '=' := by
  simp only [assignmentText, String.toList_append, List.mem_append] at hc
  rcases hc with (hname | hequals) | hvalue
  · exact .inl (name.isAlphanum_of_mem_spelling c hname)
  · exact .inr (by simpa using hequals)
  · exact .inl (value.isAlphanum_of_mem_display c hvalue)

/-- A line of the dump is made of letters and digits, of marks, and of its description. -/
theorem not_mem_dumpText {name : OptionName} {c : Char} (hletter : c.isAlphanum = false)
    (hmark : c ∉ [' ', '.', '=']) (hdescription : c ∉ name.description.toList) :
    c ∉ (options.dumpText name).toList := by
  have hassignment : c ∉ (assignmentText name (options.get name)).toList := fun hmem => by
    rcases mem_assignmentText hmem with halpha | rfl
    · cases hletter.symm.trans halpha
    · exact hmark (by simp)
  simp only [List.mem_cons, List.not_mem_nil, or_false, not_or] at hmark
  simp [dumpText, hassignment, hdescription, hmark]

theorem shownAssignment_dumpText (name : OptionName) :
    shownAssignment (options.dumpText name) = assignmentText name (options.get name) := by
  have hspace : ' ' ∉ (assignmentText name (options.get name)).toList := fun hmem => by
    rcases mem_assignmentText hmem with halpha | hequals
    · exact absurd halpha (by decide)
    · exact absurd hequals (by decide)
  have hline : (options.dumpText name).toList.drop 3 =
      (assignmentText name (options.get name)).toList ++
        ([' ', ' ', ' ', '.', '.', '.', ' '] ++ name.description.toList) := by
    simp [dumpText]
  rw [shownAssignment, hline, textBefore_append _ _ hspace, String.ofList_toList]

theorem dumpText_append (name : OptionName) :
    options.dumpText name ++ "\n" = options.dumpLine name := by
  simp only [dumpText, dumpLine, assignmentText, String.append_assoc]

theorem dump_eq : options.dump =
    String.join
      (("All engine options:" :: OptionName.all.map options.dumpText).map (· ++ "\n")) := by
  have hlines : (OptionName.all.map options.dumpText).map (· ++ "\n") =
      OptionName.all.map options.dumpLine := by
    rw [List.map_map]
    exact List.map_congr_left fun name _ => options.dumpText_append name
  have hheading : "All engine options:" ++ "\n" = "All engine options:\n" := by decide
  unfold dump
  rw [List.map_cons, hlines, String.join_cons, hheading]

/-- A dump shows the assignments of all options. -/
theorem shownAssignments_dump : shownAssignments options.dump = options.assignments := by
  have hlines : ∀ line ∈ "All engine options:" :: OptionName.all.map options.dumpText,
      '\n' ∉ line.toList ∧ '\r' ∉ line.toList := by
    refine List.forall_mem_cons.mpr ⟨by decide, fun line hline => ?_⟩
    obtain ⟨name, -, rfl⟩ := List.mem_map.mp hline
    obtain ⟨hnewline, hreturn⟩ := name.not_mem_description
    exact ⟨options.not_mem_dumpText (by decide) (by decide) hnewline,
      options.not_mem_dumpText (by decide) (by decide) hreturn⟩
  rw [shownAssignments, dump_eq, Lines.split_join _ hlines, List.drop_one, List.tail_cons,
    List.map_map]
  exact List.map_congr_left fun name _ => options.shownAssignment_dumpText name

/-! ## What is shown is assigned -/

theorem accepts_of_mem_assignments {text : String} (htext : text ∈ options.assignments) :
    Accepts text := by
  obtain ⟨name, -, rfl⟩ := List.mem_map.mp htext
  exact options.accepts_assignmentText name

/-- Where all assignments are accepted, none is ignored. -/
theorem foldlM_assign? (start : Options) {texts : List String}
    (htexts : ∀ text ∈ texts, Accepts text) :
    texts.foldlM assign? start = some (texts.foldl assign start) := by
  induction texts generalizing start with
  | nil => rfl
  | cons text texts ih =>
      obtain ⟨htext, hrest⟩ := List.forall_mem_cons.mp htexts
      obtain ⟨next, hnext⟩ := Option.isSome_iff_exists.mp (htext start)
      rw [List.foldlM_cons, List.foldl_cons, assign, hnext]
      exact ih next hrest

/-- The assignments of all options, in any order, turn any options into those. -/
theorem foldl_assign_of_perm (start : Options) {texts : List String}
    (hperm : texts.Perm options.assignments) : texts.foldl assign start = options := by
  refine eq_of_get_eq fun name => ?_
  have hassigned := hperm.filterMap (assigned? name)
  rw [filterMap_assignments, List.perm_singleton] at hassigned
  rw [get_foldl_assign, hassigned]
  rfl

end Options

/-! ## What is shown, as arguments -/

namespace CommandLine

/-- Arguments whose assignments are those of all options ask for these options, whatever else they
ask for and wherever the assignments stand. -/
theorem parse_of_perm (options : Options) {segments : List Segment}
    (hsegments : ∀ segment ∈ segments, segment.WellFormed) (hlisting : .listOptions ∉ segments)
    (hperm : (segments.filterMap Segment.assignment?).Perm options.assignments) :
    ∃ configuration : Configuration,
      parse (segments.flatMap Segment.arguments) = .ok (.run configuration) ∧
        configuration.Describes segments [] ∧ configuration.options = options := by
  have hwritten : Decomposes (segments.flatMap Segment.arguments) segments .complete :=
    ⟨hsegments, trivial, (List.append_nil _).symm⟩
  have hdescribes := describes_ofSegments segments []
  refine ⟨_, ?_, hdescribes, Options.eq_of_get_eq fun name => ?_⟩
  · rw [parse, split_eq_of_decomposes hwritten]
    simp [Request.ofSegments, hlisting]
  · have hassigned := hperm.filterMap (Options.assigned? name)
    rw [Options.filterMap_assignments, List.perm_singleton, List.filterMap_filterMap] at hassigned
    rw [hdescribes.options_eq, show segments.filterMap (Segment.assigned? name) = _ from hassigned]
    rfl

section Assignments

variable {texts : List String}

/-- What nothing but assignments say of scripts and of the profile. -/
private theorem filterMap_assignment {α : Type} {read : Segment → Option α}
    (hread : ∀ text, read (.assignment text) = none) :
    (texts.map Segment.assignment).filterMap read = [] := by
  rw [List.filterMap_map, List.filterMap_eq_nil_iff]
  exact fun text _ => hread text

/-- Nothing but assignments describe nothing but options, and thereby the shell. -/
theorem Configuration.Describes.eq_of_assignments {configuration : Configuration}
    (h : configuration.Describes (texts.map Segment.assignment) []) :
    configuration = { options := configuration.options, interactive := true } :=
  h.eq {
    scripts_eq := (filterMap_assignment fun _ => rfl).symm
    interactive_iff := by simp
    dump_iff := by simp
    profilePath_eq := congrArg List.getLast? (filterMap_assignment fun _ => rfl).symm
    reportExit_iff := by simp
    crashHandlers_iff := by simp
    dumpOptions_iff := by simp
    options_eq := h.options_eq
    trailingArguments_eq := rfl }

theorem flatMap_assignment :
    (texts.map Segment.assignment).flatMap Segment.arguments = texts.map ("--" ++ ·) := by
  induction texts with
  | nil => rfl
  | cons text texts ih => exact congrArg (("--" ++ text) :: ·) ih

/-- The assignments of all options, in any order and on their own, ask for a run with these options
and nothing else. -/
theorem parse_assignments {options : Options} (hperm : texts.Perm options.assignments) :
    parse (texts.map ("--" ++ ·)) = .ok (.run { options, interactive := true }) := by
  have hsegments : ∀ segment ∈ texts.map Segment.assignment, segment.WellFormed := by
    intro segment hsegment
    obtain ⟨text, htext, rfl⟩ := List.mem_map.mp hsegment
    exact options.accepts_of_mem_assignments (hperm.mem_iff.mp htext)
  have hassignments : (texts.map Segment.assignment).filterMap Segment.assignment? = texts := by
    rw [List.filterMap_map]
    exact List.filterMap_some
  obtain ⟨configuration, hparse, hdescribes, rfl⟩ :=
    parse_of_perm options hsegments (by simp) (by rwa [hassignments])
  rw [← flatMap_assignment, hparse, ← hdescribes.eq_of_assignments]

end Assignments

end CommandLine

namespace Options

/-- What a dump shows can be fed back. In whatever order the assignments are made, any options
accept them all and become those that were dumped. As arguments behind two dashes they ask for a run
with those options and nothing else, so that none of them is taken for a script. And options with
the same dump are the same. -/
theorem dump_fed_back (options : Options) :
    (∀ texts : List String, texts.Perm (shownAssignments options.dump) →
      (∀ start : Options, texts.foldlM assign? start = some options) ∧
        CommandLine.parse (texts.map ("--" ++ ·)) = .ok (.run { options, interactive := true })) ∧
      ∀ other : Options, other.dump = options.dump → other = options := by
  refine ⟨fun texts hperm => ?_, fun other hdump => ?_⟩
  · rw [shownAssignments_dump] at hperm
    refine ⟨fun start => ?_, CommandLine.parse_assignments hperm⟩
    rw [foldlM_assign? start fun text htext =>
      options.accepts_of_mem_assignments (hperm.mem_iff.mp htext)]
    exact congrArg some (options.foldl_assign_of_perm start hperm)
  · have hshown := congrArg shownAssignments hdump
    rw [shownAssignments_dump, shownAssignments_dump] at hshown
    calc other = other.assignments.foldl assign {} := (other.foldl_assign_of_perm {} (.refl _)).symm
      _ = options.assignments.foldl assign {} := by rw [hshown]
      _ = options := options.foldl_assign_of_perm {} (.refl _)

/-- A dump with the greatest number in it, fed back from its last line to its first. -/
theorem dump_fed_back_reversed :
    let options : Options := { maxRecursionDepth := 0, strictMode := true }
    let texts := (shownAssignments options.dump).reverse
    texts = ["dumpSampleData=true", "useSampling=false", "strictMode=true", "maxStackSize=1024",
        "maxRecursionDepth=0", "maxLoopIterations=18446744073709551615"] ∧
      texts.foldlM assign? { useSampling := true } = some options ∧
      CommandLine.parse (texts.map ("--" ++ ·)) = .ok (.run { options, interactive := true }) ∧
      ({} : Options).dump ≠ options.dump := by
  intro options texts
  obtain ⟨hfed, hsame⟩ := dump_fed_back options
  obtain ⟨haccepted, hparse⟩ := hfed texts (List.reverse_perm _)
  have htexts : texts = options.assignments.reverse :=
    congrArg List.reverse options.shownAssignments_dump
  exact ⟨htexts.trans (by decide +kernel), haccepted _, hparse,
    fun hdump => absurd (hsame _ hdump) (by decide)⟩

end Options

end ScriptShell
