import ScriptShell.Proofs.Session.Passage
import ScriptShell.Proofs.Session.Standing

/-!
# The states of a session

The user of a session has the shell do one operation after another and may hold frames open
around some of them. `Reachable` gathers the sessions that this leads to, with the names of the
frames held. An operation that is cut off, by a call of `quit` or by a bound, leads to no further
state.

In every state the open frames are the held ones (`Reachable.frames_eq`) and the engine is in its
first realm (`Reachable.realm_eq`). What else holds of all states is an induction over passages and
held frames (`Reachable.invariant`, `Reachable.journal_induction`).
-/

namespace ScriptShell

variable {engine : Engine}

/-! ## Operations -/

/-- What the user of a session can have the shell do. -/
inductive Operation (engine : Engine) where
  | evaluate (environment : Realm) (source name : String)
  | checkSyntax (environment : Realm) (source name : String)
  | stringify (environment : Realm) (value : engine.Value)
  | createEnvironment (arguments : List String)
  | execute (environment : Realm) (out : Channel) (dump : Bool) (script : Script)
  | runScripts (environment : Realm) (out : Channel) (dump : Bool) (scripts : List Script)
  | shell (environment : Realm) (out : Channel)
  | shellOn (environment : Realm) (out : Channel) (input : Bytes)
  | changeFlags (change : SamplingFlags → SamplingFlags)
  | changeSampler (change : Sampler → Sampler)
  | saveProfile (path : String)

/-- Does an operation; what it results in is left out. -/
def Operation.run (budget : Nat) : Operation engine → Host engine Unit
  | .evaluate environment source name => discard (Host.evaluateIn budget environment source name)
  | .checkSyntax environment source name =>
    discard (Host.checkSyntaxIn budget environment source name)
  | .stringify environment value => discard (Host.stringifyIn budget environment value)
  | .createEnvironment arguments => discard (Host.createEnvironment arguments).run
  | .execute environment out dump script =>
    discard (Host.execute budget environment out dump script)
  | .runScripts environment out dump scripts =>
    discard (Host.runScripts budget environment out dump scripts)
  | .shell environment out => Host.shell budget environment out
  | .shellOn environment out input => discard (Host.shellOn budget environment out input)
  | .changeFlags change => modify fun session => { session with flags := change session.flags }
  | .changeSampler change =>
    modify fun session => { session with sampler := change session.sampler }
  | .saveProfile path => discard (Program.saveProfile path)

/-- A property of all actions of the shell is one of an operation, if it is one of saving the
profile and of changing the sampler at will, where these are what the operation does. -/
theorem Operation.holds {holds : ∀ ⦃α : Type⦄, Host engine α → Prop}
    (closed : Host.ShellClosed holds) (budget : Nat) (operation : Operation engine)
    (hsampler : ∀ change, operation = .changeSampler change →
      holds (modify fun session => { session with sampler := change session.sampler } :
        Host engine PUnit))
    (hsave : ∀ path, operation = .saveProfile path →
      holds (Program.saveProfile path : Host engine (Except Failure Unit))) :
    holds (operation.run budget) := by
  have hdiscard : ∀ {α : Type} {action : Host engine α}, holds action → holds (discard action) :=
    fun haction => closed.bind haction fun _ => closed.pure _
  cases operation with
  | evaluate environment source name =>
      exact hdiscard (closed.evaluateIn budget environment source name)
  | checkSyntax environment source name =>
      exact hdiscard (closed.checkSyntaxIn budget environment source name)
  | stringify environment value => exact hdiscard (closed.stringifyIn budget environment value)
  | createEnvironment arguments => exact hdiscard (closed.createEnvironment arguments)
  | execute environment out dump script => exact hdiscard (closed.execute script)
  | runScripts environment out dump scripts => exact hdiscard (closed.runScripts scripts)
  | shell environment out => exact closed.shell
  | shellOn environment out input => exact hdiscard (closed.shellOn input)
  | changeFlags change => exact closed.changeFlags change
  | changeSampler change => exact hsampler change rfl
  | saveProfile path => exact hdiscard (hsave path rfl)

/-- Every operation makes a passage. -/
theorem Operation.passes (budget : Nat) (operation : Operation engine) :
    Host.Passes (operation.run budget) :=
  operation.holds Host.passes_closed budget (fun _ _ => Host.passes_sample _)
    fun path _ => Host.passes_saveProfile path

/-! ## Reachable sessions -/

/-- The sessions that operations lead to, with the names of the frames that are held open around
them, innermost first. -/
inductive Reachable : List String → Session engine → Prop
  | start (options : Options) (profiling : Bool) (input : Bytes) (files : Files) (clock : Clock) :
      Reachable [] (Session.start engine options profiling input files clock)
  | operate {held : List String} {session after : Session engine} (budget : Nat)
      (operation : Operation engine) (h : Reachable held session)
      (hends : Host.Ends (operation.run budget) session () after) : Reachable held after
  | enter {held : List String} {session after : Session engine} (frame : String)
      (h : Reachable held session) (hends : Host.Ends (Host.enter frame) session () after) :
      Reachable (frame :: held) after
  | leave {frame : String} {held : List String} {session after : Session engine}
      (h : Reachable (frame :: held) session) (hends : Host.Ends Host.leave session () after) :
      Reachable held after

namespace Reachable

variable {held : List String} {session : Session engine}

/-- The open frames are the held ones. -/
theorem frames_eq (h : Reachable held session) : session.frames = held := by
  induction h with
  | start options profiling input files clock => rfl
  | operate budget operation _ hends ih =>
      obtain ⟨entries, hpassage⟩ := operation.passes budget hends
      exact hpassage.frames_eq.trans ih
  | enter frame _ hends ih =>
      rw [Host.ends_enter.mp hends]
      exact congrArg (frame :: ·) ih
  | leave _ hends ih =>
      rw [(Host.ends_leave ih).mp hends]
      exact congrArg List.tail ih

/-- Whatever holds of new sessions and is kept by passages and by the frames held around them holds
of every reachable session. -/
theorem invariant {motive : List String → Session engine → Prop}
    (hstart : ∀ options profiling input files clock,
      motive [] (Session.start engine options profiling input files clock))
    (hpassage : ∀ {held session entries after}, Reachable held session →
      Passage session entries after → motive held session → motive held after)
    (henter : ∀ {held session} frame, Reachable held session → motive held session →
      motive (frame :: held) (session.entering frame))
    (hleave : ∀ {frame held session}, Reachable (frame :: held) session →
      motive (frame :: held) session → motive held (session.leaving frame))
    (h : Reachable held session) : motive held session := by
  induction h with
  | start options profiling input files clock => exact hstart ..
  | operate budget operation hreachable hends ih =>
      obtain ⟨entries, hentries⟩ := operation.passes budget hends
      exact hpassage hreachable hentries ih
  | enter frame hreachable hends ih =>
      rw [Host.ends_enter.mp hends]
      exact henter frame hreachable ih
  | leave hreachable hends ih =>
      rw [(Host.ends_leave hreachable.frames_eq).mp hends]
      exact hleave hreachable ih

/-- The engine is in its first realm. -/
theorem realm_eq (h : Reachable held session) : session.realm = 0 :=
  h.invariant (motive := fun _ session => session.realm = 0) (fun _ _ _ _ _ => rfl)
    (fun _ hpassage hrealm => hpassage.realm_eq.trans hrealm) (fun _ _ hrealm => hrealm)
    (fun _ hrealm => hrealm)

/-- The journal of a reachable session grows by passages and by the entries of held frames. -/
theorem journal_induction {motive : List Entry → Prop}
    (hstart : ∀ profiling sampling, motive [.logged (.runtimeCreated profiling sampling)])
    (hpassage : ∀ {held} {session after : Session engine} {entries}, Reachable held session →
      Passage session entries after → motive session.journal → motive (session.journal ++ entries))
    (hframe : ∀ {entries} frame, motive entries →
      motive (entries ++ [.entered frame]) ∧ motive (entries ++ [.left frame]))
    (h : Reachable held session) : motive session.journal := by
  refine h.invariant (motive := fun _ session => motive session.journal)
    (fun _ _ _ _ _ => hstart _ _) (fun hreachable hentries hmotive => ?_)
    (fun {held session} frame _ hmotive => ?_) (fun {frame held session} _ hmotive => ?_)
  · rw [hentries.journal_eq]
    exact hpassage hreachable hentries hmotive
  · simpa [Session.journal] using (hframe frame hmotive).1
  · simpa [Session.journal] using (hframe frame hmotive).2

end Reachable

end ScriptShell
