import ScriptShell.Proofs.Session.Batch
import ScriptShell.Proofs.Session.Crossing

/-!
# Files that cannot be read

A native that is given a file converts its argument, reads the file and only then does anything
else. So where the conversion throws or the file cannot be read, the session is left as the
conversion left it, but for the note that the file was asked for, and the caller gets an error as
the answer to its call (`Call.ThrowsBack`). The script may catch it; if it does not, the error comes
out of the evaluation, and a batch goes on behind it. A driver that cannot read a script of its own
ends the batch.

## Main results

* `Call.throwsBack`: what an error in answer to a call means for the script that called.
* `unreadable_files_fail_cleanly`.
-/

namespace ScriptShell

variable {engine : Engine}

/-! ## Natives that are given a file -/

/-- The natives that are given a file begin with the same two steps. -/
theorem Native.respond_eq_withSource {native : Native} {kind : EvaluationKind}
    (hkind : native.visitKind? = some kind) (answer : Answer engine) (bound : Nat)
    (arguments : List engine.Value) :
    ∃ next, Host.respond answer bound native arguments =
      Host.withSource answer (Host.firstArgument arguments) next := by
  cases native with
  | load | run | checkSyntax => exact ⟨_, rfl⟩
  | _ => cases hkind

namespace Call

open Host

variable {budget : Nat} {call : Call engine} {kind : EvaluationKind} {session : Session engine}

/-- The session behind a call that could not read its file: the one behind the conversion, with a
note that the file was asked for and back in the realm of the caller. -/
def refused (session converted : Session engine) (path : String) : Session engine :=
  { converted.note (.fileRead path false) with realm := session.realm }

/-- A conversion that throws is all that there is of a call. -/
theorem ends_of_unconverted {fault : engine.Fault} {inside : Session engine}
    (hkind : call.native.visitKind? = some kind)
    (hends : Ends (call.path budget) (call.within session) (.error fault) inside) :
    Ends (call.answered (budget + 1)) session (.error fault)
      { inside with realm := session.realm } := by
  obtain ⟨next, hnext⟩ :=
    Native.respond_eq_withSource hkind (answer budget) budget call.arguments
  refine ends_called.mpr ⟨inside, ?_, rfl⟩
  rw [hnext]
  exact ends_withSource.mpr (.inl ⟨fault, hends, rfl⟩)

/-- A file that cannot be read is the end of a call. -/
theorem ends_of_unreadable {path : String} {error : IoError} {converted : Session engine}
    (hkind : call.native.visitKind? = some kind)
    (hends : Ends (call.path budget) (call.within session) (.ok path) converted)
    (hread : session.files.read path = .error error) :
    Ends (call.answered (budget + 1)) session
      (.error (engine.errorOf ("Could not open file: " ++ path)))
      (refused session converted path) := by
  obtain ⟨_, hcourse⟩ := follows_closed.toText (follows_answer budget) _ hends
  have hfiles : converted.files = session.files := hcourse.files_eq
  obtain ⟨next, hnext⟩ :=
    Native.respond_eq_withSource hkind (answer budget) budget call.arguments
  refine ends_called.mpr ⟨_, ?_, rfl⟩
  rw [hnext]
  exact ends_withSource.mpr (.inr ⟨path, converted, hends,
    .inl ⟨error, hfiles ▸ hread, rfl, rfl⟩⟩)

/-! ## What the caller makes of it -/

/-- A call throws an error back to the script that made it. The frames, the realm and all else that
script code cannot change are as before the call. The engine goes on with the error as the answer,
so that the script may catch it. If the script does not, the error comes out of the evaluation that
the script belongs to. -/
structure ThrowsBack (budget : Nat) (call : Call engine) (session : Session engine)
    (fault : engine.Fault) (answered : Session engine) : Prop where
  answers : Ends (call.answered budget) session (.error fault) answered
  setting_eq : answered.setting = session.setting
  goes_on : ∀ {α : Type} (behaviour : engine.Acts α) resume before,
    Reaches (answer budget) call resume session behaviour before →
      (perform (answer budget) behaviour).run.outcome before =
        (perform (answer budget) (resume answered.store (.error fault))).run.outcome answered
  uncaught : ∀ (own : Visit engine) code resume, own.kind = .evaluate →
    own.result = .error fault → engine.parse own.opened.options own.source = .ok code →
      Reaches (answer budget) call resume session
        (engine.evaluate own.begun.realm code own.begun.store) own.begun →
      Ends (perform (answer budget) (resume answered.store (.error fault))).run answered
        (.error fault) own.ran →
      Ends (drainOutermost (answer budget) budget) own.ran () own.drained →
        own.Throws budget 0 fault

/-- Whatever the call threw, and whatever came before that. -/
theorem throwsBack {fault : engine.Fault} {answered : Session engine}
    (hends : Ends (call.answered budget) session (.error fault) answered) :
    call.ThrowsBack budget session fault answered where
  answers := hends
  setting_eq :=
    let ⟨_, hcourse⟩ := follows_answer budget call.realm call.native call.arguments hends
    hcourse.setting_eq
  goes_on _ _ _ hreaches := hreaches.outcome_eq hends
  uncaught _ _ _ hkind hresult hparse hreaches hrest hjobs :=
    .raised (Visit.works_of_resume hkind hparse hreaches hends (hresult ▸ hrest) hjobs) hresult

end Call

/-! ## Batches -/

namespace Host

variable {budget : Nat} {environment : Realm} {out : Channel} {dump : Bool}
  {session middle : Session engine}

/-- A script that was executed, whatever it threw, is followed by the rest of its batch. -/
theorem outcome_executeAll_cons {script : Script} {rest : List Script} {execution : Execution}
    (hends : Ends (execute budget environment out dump script) session (.ok execution) middle) :
    (executeAll budget environment out dump (script :: rest)).outcome session =
      (executeAll budget environment out dump rest >>= fun others =>
        pure (execution.succeeded && others)).outcome middle := by
  rw [executeAll, outcome_bind_of_ends hends]

/-- A script file that cannot be read is the end of its batch. -/
theorem ends_executeAll_of_unreadable {path : String} {rest : List Script} {error : IoError}
    (hread : session.files.read path = .error error) :
    Ends (executeAll budget environment out dump (.file path :: rest)) session false
      (session.noteAll (abortEntries (.file path :: rest))) := by
  have hopened : (Script.file path).opened session.files = .error (.file path) := by
    simp [Script.opened, hread]
  have hreads : (Script.file path).reads session.files = [.fileRead path false] := by
    rw [Script.reads, hread]
    rfl
  have hexecute : Ends (execute budget environment out dump (.file path)) session
      (.error (.file path)) (session.noteAll [.fileRead path false]) := by
    rw [← hreads, Ends, execute, outcome_bind_of_ends (ends_openScript.mpr ⟨rfl, rfl⟩), hopened]
    rfl
  rw [Ends, executeAll, outcome_bind_of_ends hexecute]
  rfl

/-- Where an error comes out of the evaluation of a script, the script has failed. -/
theorem failed_of_throws {script : Script} {execution : Execution}
    (hends : Ends (execute budget environment out dump script) session (.ok execution) middle) :
    ∃ run : ScriptRun engine, run.script = script ∧ run.execution = execution ∧
      run.Executes budget environment out dump session middle ∧
      ∀ (own : Visit engine) depth fault,
        own.Of .evaluate run.name run.source { run.begun with realm := environment } →
          own.Throws budget depth fault →
            run.outcome.toExcept = .error fault ∧ execution.succeeded = false := by
  rcases scriptRun hends with ⟨failure, -, hresult, -⟩ | ⟨run, hscript, hresult, hrun⟩
  · cases hresult
  cases hresult
  refine ⟨run, hscript, rfl, hrun, fun own depth fault hown hthrows => ?_⟩
  rcases evaluateIn_of_throws hown hthrows with ⟨info, after, hthrew⟩ | ⟨halt, cut, hhalts, -⟩
  · have houtcome := (hrun.evaluates.unique hthrew).1
    rw [hrun.succeeded_eq, houtcome]
    exact ⟨rfl, rfl⟩
  · rw [Halts, show (evaluateIn budget environment run.source run.name).outcome run.begun = _ from
      hrun.evaluates] at hhalts
    cases hhalts

end Host

open Host in
/-- A file that cannot be read is thrown to the script that asked for it, and nothing else comes of
it.

Whatever is given to `run`, `load` or `checkSyntax`, and wherever: what its conversion throws is
thrown back, and so is an error that names the path where there is no file to read. Beyond what the
conversion did, the session has changed in nothing but the note that the file was asked for. In a
batch, a script that lets such an error out has failed and is followed by the rest, while a script
file that cannot be read itself ends the batch. -/
theorem unreadable_files_fail_cleanly (engine : Engine) (budget : Nat) :
    (∀ (call : Call engine) kind session, call.native.visitKind? = some kind →
      (∀ fault inside,
        Ends (call.path budget) (call.within session) (.error fault) inside →
          call.ThrowsBack (budget + 1) session fault { inside with realm := session.realm }) ∧
      ∀ path error converted,
        Ends (call.path budget) (call.within session) (.ok path) converted →
          session.files.read path = .error error →
            call.ThrowsBack (budget + 1) session
              (engine.errorOf ("Could not open file: " ++ path))
              { converted.note (.fileRead path false) with realm := session.realm }) ∧
    (∀ environment out dump script rest execution (session middle : Session engine),
      Ends (execute budget environment out dump script) session (.ok execution) middle →
        (executeAll budget environment out dump (script :: rest)).outcome session =
            (executeAll budget environment out dump rest >>= fun others =>
              pure (execution.succeeded && others)).outcome middle ∧
          ∃ run : ScriptRun engine, run.script = script ∧ run.execution = execution ∧
            run.Executes budget environment out dump session middle ∧
            ∀ (own : Visit engine) depth fault,
              own.Of .evaluate run.name run.source { run.begun with realm := environment } →
                own.Throws budget depth fault →
                  run.outcome.toExcept = .error fault ∧ execution.succeeded = false) ∧
    ∀ environment out dump path rest error (session : Session engine),
      session.files.read path = .error error →
        Ends (executeAll budget environment out dump (.file path :: rest)) session false
          (session.noteAll (abortEntries (.file path :: rest))) := by
  refine ⟨fun call kind session hkind => ⟨fun fault inside hpath => ?_,
    fun path error converted hpath hread => ?_⟩, ?_, ?_⟩
  · exact Call.throwsBack (Call.ends_of_unconverted hkind hpath)
  · exact Call.throwsBack (Call.ends_of_unreadable hkind hpath hread)
  · intro environment out dump script rest execution session middle hends
    exact ⟨outcome_executeAll_cons hends, failed_of_throws hends⟩
  · intro environment out dump path rest error session hread
    exact ends_executeAll_of_unreadable hread

/-- A script that catches the error of a file that is not there. -/
def catching : Script :=
  .inline "try \x7b run('gone.js') \x7d catch (e) \x7b print(e instanceof Error, e.message) \x7d"

/-- A script that lets the error of a path with a NUL in it out. -/
def lettingOut : Script :=
  .inline "load('a\\0b')"

theorem lettingOut_fails :
    ∃ execution middle, Host.Ends (Host.execute 3 1 .report false lettingOut) unreadableSession
      (.ok execution) middle ∧ execution.succeeded = false := by
  have hcomputed : ((Host.execute 3 1 .report false lettingOut).outcome
      unreadableSession).1.toOption.any (fun result => match result with
        | .ok execution => !execution.succeeded
        | .error _ => false) = true := by
    decide +kernel
  obtain ⟨result, hends, hfailed⟩ := Host.exists_ends hcomputed
  cases result with
  | error failure => cases hfailed
  | ok execution => exact ⟨execution, _, hends, by simpa using hfailed⟩

/-- A call of `run` for a file that is not there. -/
def goneCall : Call Language.engine :=
  ⟨1, .run, [Language.engine.ofText "gone.js"]⟩

theorem goneCall_path :
    ∃ converted, Host.Ends (goneCall.path 2)
      (goneCall.within (unreadableSession.entering "outer.js")) (.ok "gone.js") converted := by
  have hcomputed : ((goneCall.path 2).outcome
      (goneCall.within (unreadableSession.entering "outer.js"))).1.toOption.any
        (fun converted => match converted with
          | .ok path => path = "gone.js"
          | .error _ => false) = true := by
    decide +kernel
  obtain ⟨converted, hends, hpath⟩ := Host.exists_ends hcomputed
  cases converted with
  | error fault => cases hpath
  | ok path =>
      obtain rfl : path = "gone.js" := decide_eq_true_eq.mp hpath
      exact ⟨_, hends⟩

/-- A session in which there is a file that may not be opened. -/
def lockedSession : Session Language.engine :=
  { unreadableSession with files := unreadableSession.files.addLocked "locked.js" }

/-- Thrown back to a nested script, let out by a script of a batch, met by the driver itself, and
caught. A file that may not be opened is met by the driver as well. -/
theorem unreadable_files_fail_cleanly_gone :
    (∃ converted, goneCall.ThrowsBack 3 (unreadableSession.entering "outer.js")
      (Language.engine.errorOf "Could not open file: gone.js") converted) ∧
    (∃ after, Host.Ends (Host.executeAll 3 1 .report false
      [lettingOut, .file "gone.js", catching]) unreadableSession false after) ∧
    Entry.written .stdout ((Host.executeAll 3 1 .report false
      [lettingOut, catching, .file "gone.js", catching]).outcome unreadableSession).2.journal =
        "true Could not open file: gone.js\n" ∧
    lockedSession.files.read "locked.js" = .error .notPermitted ∧
    Host.Ends (Host.executeAll 3 1 .report false [.file "locked.js", catching]) lockedSession false
      (lockedSession.noteAll (abortEntries [.file "locked.js", catching])) := by
  have hread : unreadableSession.files.read "gone.js" = .error .notFound := by decide +kernel
  have hlocked : lockedSession.files.read "locked.js" = .error .notPermitted := by decide +kernel
  obtain ⟨hcalls, -⟩ := unreadable_files_fail_cleanly Language.engine 2
  obtain ⟨-, hgoes, hstops⟩ := unreadable_files_fail_cleanly Language.engine 3
  refine ⟨?_, ?_, by decide +kernel, hlocked,
    hstops 1 .report false "locked.js" [catching] .notPermitted lockedSession hlocked⟩
  · obtain ⟨converted, hconverted⟩ := goneCall_path
    exact ⟨_, (hcalls goneCall .evaluate _ rfl).2 "gone.js" .notFound converted hconverted hread⟩
  · obtain ⟨execution, middle, hends, hfailed⟩ := lettingOut_fails
    obtain ⟨hrest, run, -, -, hrun, -⟩ := hgoes 1 .report false lettingOut _ execution _ _ hends
    rw [← hrun.files_eq] at hread
    have hstopped := hstops 1 .report false "gone.js" [catching] .notFound middle hread
    refine ⟨middle.noteAll (abortEntries [.file "gone.js", catching]), ?_⟩
    rw [Host.Ends, hrest, Host.outcome_bind_of_ends hstopped, hfailed]
    exact Host.ends_pure.mpr ⟨rfl, rfl⟩

end ScriptShell
