import ScriptShell.Program
import ScriptShell.Proofs.Session.Following

/-!
# What the shell does around script code

Between two courses of script code the shell does a few chores of its own: it writes reports and
prompts, announces events, keeps the sampler and saves the profile. A `Passage` is made of courses
and chores; whatever the user of a session has the shell do is one (`Operation.passes`), so
that the states of a session are those that passages and held scopes lead to (`Reachable`).
-/

namespace ScriptShell

variable {engine : Engine}

/-! ## Passages -/

/-- One chore of the shell, with the entries that it leaves. -/
inductive Chore : Session engine → List Entry → Session engine → Prop
  | write {session : Session engine} (channel : Channel) (text : String) :
      Chore session [.wrote channel text] (session.note (.wrote channel text))
  | announce {session : Session engine} (event : LogEvent) :
      Chore session [.logged event] (session.note (.logged event))
  | sample {session : Session engine} (sampler : Sampler) :
      Chore session [] { session with sampler := sampler }
  | save {session : Session engine} (path : String) (files : Files) (failure : Option IoError) :
      Chore session [.fileWritten path failure]
        (Session.note { session with files := files } (.fileWritten path failure))

/-- Courses of script code and chores of the shell, one after another. -/
inductive Passage : Session engine → List Entry → Session engine → Prop
  | course {session after : Session engine} {entries : List Entry}
      (hcourse : Course .script session entries after) : Passage session entries after
  | chore {session after : Session engine} {entries : List Entry}
      (hchore : Chore session entries after) : Passage session entries after
  | append {session middle after : Session engine} {first second : List Entry}
      (hfirst : Passage session first middle) (hsecond : Passage middle second after) :
      Passage session (first ++ second) after

namespace Passage

variable {session after : Session engine} {entries : List Entry}

/-- A passage leaves the frames of a session as they are. -/
theorem frames_eq (h : Passage session entries after) : after.frames = session.frames := by
  induction h with
  | course hcourse => exact hcourse.frames_eq
  | chore hchore => cases hchore <;> rfl
  | append _ _ ihfirst ihsecond => exact ihsecond.trans ihfirst

/-- A passage leaves the realm of a session as it is. -/
theorem realm_eq (h : Passage session entries after) : after.realm = session.realm := by
  induction h with
  | course hcourse => exact hcourse.realm_eq
  | chore hchore => cases hchore <;> rfl
  | append _ _ ihfirst ihsecond => exact ihsecond.trans ihfirst

/-- The journal gains the entries of a passage. -/
theorem journal_eq (h : Passage session entries after) :
    after.journal = session.journal ++ entries := by
  induction h with
  | course hcourse => exact hcourse.journal_eq
  | chore hchore => cases hchore <;> simp [Session.journal]
  | append _ _ ihfirst ihsecond => rw [ihsecond, ihfirst, List.append_assoc]

end Passage

namespace Host

variable {α : Type}

instance : Chained (@Passage engine) where
  stay _ := .course .stay
  append := .append

/-- Wherever the action comes to its end, it made a passage. -/
abbrev Passes (action : Host engine α) : Prop :=
  Traces Passage action

theorem Follows.passes {action : Host engine α} (haction : Follows action) : Passes action := by
  intro session result after hends
  obtain ⟨entries, hcourse⟩ := haction hends
  exact ⟨entries, .course hcourse⟩

/-! ## Chores -/

theorem passes_write (channel : Channel) (text : String) :
    Passes (write channel text : Host engine Unit) := by
  intro session result after hends
  rw [ends_note.mp hends]
  exact ⟨_, .chore (.write channel text)⟩

theorem passes_log (event : LogEvent) : Passes (log event : Host engine Unit) := by
  intro session result after hends
  rw [ends_note.mp hends]
  exact ⟨_, .chore (.announce event)⟩

/-- Whatever only changes the sampler is a chore. -/
theorem passes_sample (change : Session engine → Sampler) :
    Passes (modify fun session => { session with sampler := change session } :
      Host engine PUnit) := by
  intro session result after hends
  rw [ends_modify.mp hends]
  exact ⟨_, .chore (.sample (change session))⟩

theorem passes_openWindow (script : String) :
    Passes (openWindow script : Host engine Window) := by
  refine .get_bind fun _ => ?_
  split
  · refine (follows_now .window).passes.bind fun instant => ?_
    intro session result after hends
    rw [ends_modifyGet, Prod.mk.injEq] at hends
    rw [← hends.2]
    exact ⟨_, .chore (.sample _)⟩
  · exact .pure _

theorem passes_closeWindow (window : Window) :
    Passes (closeWindow window : Host engine Unit) := by
  unfold closeWindow
  split
  · exact (follows_now .window).passes.bind fun _ => passes_sample _
  · exact .pure _

/-- Whatever the shell does around script code is made of courses and chores. -/
theorem passes_closed : @ShellClosed engine fun _ action => Passes action where
  pure := .pure
  bind := .bind
  lookInstrumented _ hnext := .get_bind fun _ => hnext _
  lookInput _ hnext := .get_bind fun _ => hnext _
  exhausted := @fun _ => Traces.throw _
  write := passes_write
  log := passes_log
  nowScript := (follows_now .script).passes
  readLine := follows_readLine.passes
  readFile path := (follows_readFile path).passes
  changeFlags change := (follows_changeFlags change).passes
  changeSampler _ := passes_sample _
  openWindow := passes_openWindow
  closeWindow := passes_closeWindow
  createEnvironment arguments := Follows.passes (follows_createEnvironment arguments)
  evaluateIn budget environment source name :=
    (follows_evaluateIn budget environment source name).passes
  checkSyntaxIn budget environment source name :=
    (follows_checkSyntaxIn budget environment source name).passes
  stringifyIn budget environment value :=
    (follows_stringifyIn budget environment value).passes

/-- Saving the profile writes all of its records at once, or reports why it cannot. -/
theorem ends_saveProfile {path : String} {result : Except Failure Unit} :
    Ends (Program.saveProfile path : Host engine (Except Failure Unit)) session result after ↔
      match session.profile with
      | none => result = .ok () ∧ after = session
      | some records =>
        match session.files.write path (Bytes.ofString (Profile.render records)) with
        | .ok files => result = .ok () ∧
            after = Session.note { session with files := files } (.fileWritten path none)
        | .error error => result = .error (.io error) ∧
            after = session.note (.fileWritten path (some error)) := by
  unfold Program.saveProfile
  rw [ends_get_bind]
  cases session.profile with
  | none => exact ends_pure
  | some records =>
      cases hwrite : session.files.write path (Bytes.ofString (Profile.render records)) with
      | ok files =>
          simp only [hwrite]
          rw [ends_bind]
          simp only [ends_set, ends_note_bind, ends_pure]
          constructor
          · rintro ⟨_, _, rfl, rfl, rfl⟩
            exact ⟨rfl, rfl⟩
          · rintro ⟨rfl, rfl⟩
            exact ⟨(), _, rfl, rfl, rfl⟩
      | error error =>
          simp only [hwrite]
          rw [ends_note_bind, ends_pure]

theorem passes_saveProfile (path : String) :
    Passes (Program.saveProfile path : Host engine (Except Failure Unit)) := by
  intro session result after hends
  have hsaved := ends_saveProfile.mp hends
  split at hsaved
  · rw [hsaved.2]
    exact ⟨[], .course .stay⟩
  · split at hsaved <;> rw [hsaved.2]
    · exact ⟨_, .chore (.save path _ none)⟩
    · exact ⟨_, .chore (.save path session.files _)⟩

end Host

end ScriptShell
