import ScriptShell.Language.Interpreter
import ScriptShell.Proofs.Session.Execution
import ScriptShell.Proofs.Text.Lines

/-!
# Stack texts in reports

A stack text is cut into lines when it is read out of something thrown, and the report of a script
puts the lines together again. Nothing of the text is lost on the way but the carriage returns
before its newlines (`ExceptionInfo.report_of_split`). The report is what the information displays
as, behind `Exception: `, wherever there is at least one line; without one the report has an empty
line more (`ExceptionInfo.report_eq_display_iff`).
-/

namespace ScriptShell

variable {engine : Engine}

namespace ExceptionInfo

/-- Of several stack texts the last one counts. -/
theorem withStack_foldl (message stack : String) (earlier : List String) :
    (earlier.foldl withStack { message := message }).withStack stack =
      ⟨message, some (Lines.split stack)⟩ := by
  have hmessage : ∀ info : ExceptionInfo, (earlier.foldl withStack info).message = info.message := by
    induction earlier with
    | nil => exact fun info => rfl
    | cons other earlier ih => exact fun info => ih (info.withStack other)
  rw [withStack, hmessage]

/-- Lines with a newline between each two and one behind the last are lines that are ended one by
one. -/
theorem intercalate_append_newline {lines : List String} (hne : lines ≠ []) :
    "\n".intercalate lines ++ "\n" = String.join (lines.map (· ++ "\n")) := by
  induction lines with
  | nil => exact absurd rfl hne
  | cons line lines ih =>
      cases lines with
      | nil => simp
      | cons next lines =>
          rw [String.intercalate_cons_cons, List.map_cons, String.join_cons, ← ih (by simp),
            String.append_assoc, String.append_assoc]

/-- Lines with a newline before each are a newline and then lines with a newline between two. -/
theorem join_newline_append {lines : List String} (hne : lines ≠ []) :
    String.join (lines.map ("\n" ++ ·)) = "\n" ++ "\n".intercalate lines := by
  induction lines with
  | nil => exact absurd rfl hne
  | cons line lines ih =>
      cases lines with
      | nil => simp
      | cons next lines =>
          rw [String.intercalate_cons_cons, List.map_cons, String.join_cons, ih (by simp),
            String.append_assoc, String.append_assoc]

/-- What a report shows of a stack text. -/
def shownStack (stack : String) : String :=
  String.ofList (Lines.withoutReturns stack.toList) ++
    if stack.toList.getLast? = some '\n' then "" else "\n"

theorem intercalate_split (stack : String) :
    "\n".intercalate (Lines.split stack) ++ "\n" = shownStack stack := by
  have hends := Lines.flatMap_splitOnto stack.toList
  by_cases hempty : stack = ""
  · subst hempty
    rfl
  have hne : Lines.split stack ≠ [] := mt (Lines.makeUp_split stack).eq_nil_iff.mp hempty
  have hchars : stack.toList ≠ [] := by simpa using hempty
  have hjoined : (String.join ((Lines.split stack).map (· ++ "\n"))).toList =
      (Lines.splitOnto [] stack.toList).flatMap (· ++ ['\n']) := by
    simp [Lines.split, List.flatMap_map]
  rw [intercalate_append_newline hne, ← String.toList_inj, hjoined, hends]
  by_cases hlast : stack.toList.getLast? = some '\n' <;> simp [shownStack, hlast, hchars]

/-- The report shows the stack text but for the carriage returns before its newlines. -/
theorem report_of_split (message stack : String) :
    report ⟨message, some (Lines.split stack)⟩ =
      "Exception: " ++ message ++ "\n" ++ shownStack stack := by
  rw [← intercalate_split]
  simp [report, headline, String.append_assoc]

/-- The report is what the information displays as, unless there is no line. -/
theorem report_eq_display_iff (message : String) (lines : List String) :
    report ⟨message, some lines⟩ = "Exception: " ++ display ⟨message, some lines⟩ ++ "\n" ↔
      lines ≠ [] := by
  constructor
  · rintro hsame rfl
    simp [report, headline, display, ← String.toList_inj] at hsame
  · intro hne
    have hlines := join_newline_append hne
    simp only [report, headline, display, Option.getD_some, hlines, String.append_assoc]

end ExceptionInfo

/-- A stack text is cut into lines that hold no newline and make it up with their endings, and only
the last of several stack texts counts. The report of a script that threw shows the message and then
the stack text, with a newline for each carriage return and newline and with a newline at its end;
that is what the information displays as, but for an empty stack text, which has an empty line in
the report. -/
theorem stack_text_survives (engine : Engine) (message stack : String) (earlier : List String) :
    let info := (earlier.foldl ExceptionInfo.withStack { message := message }).withStack stack
    let shown := String.ofList (Lines.withoutReturns stack.toList) ++
      if stack.toList.getLast? = some '\n' then "" else "\n"
    info = ⟨message, some (Lines.split stack)⟩ ∧
    (∀ line ∈ Lines.split stack, '\n' ∉ line.toList) ∧
    Lines.MakeUp (Lines.split stack) stack ∧
    info.report = "Exception: " ++ message ++ "\n" ++ shown ∧
    (info.report = "Exception: " ++ info.display ++ "\n" ↔ stack ≠ "") ∧
    (stack = "" → info.report = "Exception: " ++ info.display ++ "\n" ++ "\n") ∧
    (∀ (answer : Answer engine) fault session middle after,
      engine.limitText? fault = none →
      Host.Renders answer (Host.thrownIn session fault) (Host.throwing session fault) message
        middle →
      Host.ReadsStack answer (Host.thrownIn session fault) middle (some stack) after →
      Host.Ends (Host.exceptionInfo answer fault) session info after) ∧
    ∀ budget environment out dump source name fault (session after : Session engine),
      Host.Ends (Host.evaluateIn budget environment source name) session (.threw fault info) after →
      Host.Ends (Host.report budget environment out dump source name) session (some info)
        (after.note (.wrote out ("Exception: " ++ message ++ "\n" ++ shown))) := by
  dsimp only
  rw [ExceptionInfo.withStack_foldl]
  have hmade := Lines.makeUp_split stack
  have hreport := ExceptionInfo.report_of_split message stack
  refine ⟨rfl, hmade.newline_notMem, hmade, hreport, ?_, ?_, ?_, ?_⟩
  · rw [ExceptionInfo.report_eq_display_iff, ne_eq, hmade.eq_nil_iff]
  · rintro rfl
    rw [hreport]
    simp [ExceptionInfo.display, ExceptionInfo.shownStack, Lines.split, Lines.splitOnto,
      Lines.withoutReturns, String.append_assoc]
  · intro answer fault session middle after hlimit hmessage hstack
    exact Host.ends_exceptionInfo.mpr (.value hlimit hmessage hstack)
  · intro budget environment out dump source name fault session after hends
    refine Host.ends_bind.mpr ⟨_, _, hends, ?_⟩
    refine Host.ends_bind.mpr ⟨(), _, Host.ends_note.mpr rfl, ?_⟩
    exact Host.ends_pure.mpr ⟨rfl, by rw [hreport]; rfl⟩

/-- A script whose exception has a stack text of its own. -/
def returningScript : String :=
  "throw \x7bstack: 'a\\r\\n\\r\\r\\nb\\r', toString() \x7breturn 'm'\x7d\x7d"

/-- Of two carriage returns before a newline one is kept, and so is a last one without a newline. -/
theorem stack_text_survives_returns :
    let session := Session.start Language.engine {} false [] Files.empty (.ticking 0)
    let info : ExceptionInfo := ⟨"m", some ["a", "\r", "b\r"]⟩
    (({ message := "m" } : ExceptionInfo).withStack "early").withStack "a\r\n\r\r\nb\r" = info ∧
    ∃ after : Session Language.engine,
      Host.Ends (Host.report 2 0 .report false returningScript "a") session (some info)
        (after.note (.wrote .report "Exception: m\na\n\r\nb\r\n")) := by
  intro session info
  have hcomputed : ((Host.evaluateIn 2 0 returningScript "a").outcome session).1.toOption.any
      (fun outcome => outcome.exception = some info) = true := by
    decide +kernel
  obtain ⟨value | ⟨fault, thrown⟩, hends, hthrew⟩ := Host.exists_ends hcomputed
  · simp [Evaluated.exception] at hthrew
  obtain ⟨hinfo, -, -, -, -, -, -, hwrites⟩ :=
    stack_text_survives Language.engine "m" "a\r\n\r\r\nb\r" ["early"]
  have hsame : (({ message := "m" } : ExceptionInfo).withStack "early").withStack
      "a\r\n\r\r\nb\r" = info := hinfo.trans (by decide)
  have hthrown : thrown = info := by simpa [Evaluated.exception] using hthrew
  rw [hthrown, ← hsame] at hends
  have hreported := hwrites 2 0 .report false returningScript "a" fault session _ hends
  exact ⟨hsame, _, hsame ▸ hreported⟩

end ScriptShell
