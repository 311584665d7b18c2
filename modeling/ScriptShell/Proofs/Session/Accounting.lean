import ScriptShell.Proofs.Session.Reachable

/-!
# Journals tell frames and jobs right

A session has its frames and its queue, and its journal says which frames are open and which jobs
wait. Along every course of script code and every passage of the shell the two agree, and the
journal gains admissible entries only. In a reachable session the journal therefore says all by
itself what the frames and the queue are.

## Main results

* `Course.tells` and `Passage.tells` are the step from one session to another.
* `Reachable.tells` is about whole journals.
-/

namespace ScriptShell

variable {engine : Engine}

/-- What a session itself says of its frames and jobs. -/
def Session.standing (session : Session engine) : Standing where
  frames := session.frames
  waiting := session.jobs.map Prod.fst
  queued := session.jobCount

open Standing

namespace Standing

/-- Records of the profile say nothing of frames and jobs. -/
private theorem tells_recorded (standing : Standing) (record : Option ProfileRecord) :
    standing.Tells (record.map Entry.recorded).toList standing := by
  cases record with
  | none => exact .nil standing
  | some record => exact .single trivial

/-- What a native shows of the frames says nothing of frames and jobs. -/
private theorem tells_shows (standing : Standing) (native : Native) (frames : List String) :
    standing.Tells (native.shows frames) standing := by
  cases native with
  | stackTrace => exact .single trivial
  | dumpCallFrame =>
      cases frames with
      | nil => exact .nil standing
      | cons frame outer => exact .single trivial
  | _ => exact .nil standing

/-- A frame is entered, entries are gained inside it, and it is left again. -/
private theorem Tells.framed {standing inside : Standing} {frame : String} {entries : List Entry}
    (hinside : Tells { standing with frames := frame :: standing.frames } entries inside)
    (hframes : inside.frames = frame :: standing.frames) :
    standing.Tells (.entered frame :: (entries ++ [.left frame]))
      { inside with frames := standing.frames } := by
  have hentered : standing.Tells [.entered frame] _ := .single trivial
  have hleft : inside.Tells [.left frame] _ := .single (by simp [Allows, hframes])
  have hframed := hentered.append (hinside.append hleft)
  simpa [next, hframes] using hframed

end Standing

/-! ## Courses and passages -/

/-- What an evaluation leaves in the journal, from what its parts leave there. -/
private theorem tells_evaluation {session ran drained reported : Session engine}
    {name : String} {script jobs report : List Entry}
    (hframes : reported.frames = name :: session.frames)
    (hscript : (session.entering name).standing.Tells script ran.standing)
    (hjobs : ran.standing.Tells jobs drained.standing)
    (record : Option ProfileRecord)
    (hreport : drained.standing.Tells report reported.standing) :
    session.standing.Tells (⟨name, script, jobs, record, report⟩ : Evaluation).entries
      (reported.leaving name).standing := by
  have hrecord := tells_recorded drained.standing record
  have hframed := @Tells.framed session.standing _ _ _
    (hscript.append (hjobs.append (hrecord.append hreport))) hframes
  simpa [Evaluation.entries, Evaluation.closing, Session.standing, hframes] using hframed

theorem Stroke.tells {session after : Session engine} {entries : List Entry}
    (h : Stroke session entries after) : session.standing.Tells entries after.standing := by
  cases h with
  | work store => exact .nil _
  | look | day => exact .nil _
  | flag flags => exact .nil _
  | write hout text => exact .single trivial
  | announce arguments => exact .single trivial
  | readFile path => exact .single trivial
  | readLine => exact .single trivial
  | queue job =>
      have hqueued : session.standing.Tells [.queued session.jobCount] _ := .single rfl
      simpa [next, Session.standing] using hqueued
  | realm store => exact .single trivial
  | call native =>
      have hcalled : session.standing.Tells [.called native session.frames] session.standing :=
        .single rfl
      exact hcalled.append (tells_shows session.standing native session.frames)

/-- The first of the waiting jobs begins to run. -/
private theorem tells_starting {session : Session engine} {number : Nat} {job : engine.Job}
    {rest : List (Nat × engine.Job)} (hframes : session.frames.length = 1)
    (hjobs : session.jobs = (number, job) :: rest) :
    session.standing.Tells [.started number] (session.starting number).standing := by
  have hstarted : session.standing.Tells [.started number] _ :=
    .single ⟨by simp [Session.standing, hjobs], hframes⟩
  simpa [next, Session.standing] using hstarted

/-- The journal gains admissible entries along every course, and they tell its end. -/
theorem Course.tells {stage : Stage} {session after : Session engine} {entries : List Entry}
    (h : Course stage session entries after) :
    session.standing.Tells entries after.standing := by
  induction h with
  | stay => exact .nil _
  | stroke hstroke => exact hstroke.tells
  | append _ _ ihfirst ihsecond => exact ihfirst.append ihsecond
  | inRealm realm _ ih => exact ih
  | checked hkind hreport ih =>
      exact tells_evaluation hreport.frames_eq (.nil _) (.nil _) _ ih
  | evaluated hkind hscript hjobs hreport ihscript ihjobs ihreport =>
      refine tells_evaluation ?_ ihscript ihjobs _ ihreport
      rw [hreport.frames_eq, Session.recording_frames, Session.looked_frames, hjobs.frames_eq,
        hscript.frames_eq, Session.looked_frames, Session.entering_frames]
  | nested hframes => exact .nil _
  | drained hframes hjobs => exact .nil _
  | @job _ settled _ number _ _ _ _ hframes hjobs _ _ ihbody ihmore =>
      have hsettled : settled.standing.Tells [.settled number] settled.standing := .single trivial
      exact (tells_starting hframes hjobs).append (ihbody.append (hsettled.append ihmore))
  | @interrupted _ failed number _ _ _ hframes hjobs _ ihbody =>
      have hdropped : failed.standing.Tells [.interrupted number]
        (failed.interrupted number).standing := .single trivial
      exact (tells_starting hframes hjobs).append (ihbody.append hdropped)

theorem Passage.tells {session after : Session engine} {entries : List Entry}
    (h : Passage session entries after) :
    session.standing.Tells entries after.standing := by
  induction h with
  | course hcourse => exact hcourse.tells
  | chore hchore =>
      cases hchore with
      | write channel text => exact .single trivial
      | announce event => exact .single trivial
      | sample sampler => exact .nil _
      | save path files failure => exact .single trivial
  | append _ _ ihfirst ihsecond => exact ihfirst.append ihsecond

/-! ## Reachable sessions -/

/-- A journal tells the frames and the jobs of its session. -/
theorem Reachable.tells {held : List String} {session : Session engine}
    (h : Reachable held session) : ({} : Standing).Tells session.journal session.standing := by
  refine h.invariant (motive := fun _ session =>
    ({} : Standing).Tells session.journal session.standing)
    (fun _ _ _ _ _ => .single trivial) (fun _ hpassage htells => ?_)
    (fun {held session} frame _ htells => ?_) (fun {frame held session} hreachable htells => ?_)
  · rw [hpassage.journal_eq]
    exact htells.append hpassage.tells
  · have hentered : session.standing.Tells [.entered frame] (session.entering frame).standing :=
      .single trivial
    simpa [Session.journal] using htells.append hentered
  · have hleft : session.standing.Tells [.left frame] (session.leaving frame).standing := by
      refine .single ?_
      show session.frames.head? = some frame
      rw [hreachable.frames_eq]
      rfl
    simpa [Session.journal] using htells.append hleft

/-- A journal tells which frames are open. -/
theorem Reachable.openFrames_eq {held : List String} {session : Session engine}
    (h : Reachable held session) : Entry.openFrames [] session.journal = session.frames :=
  h.tells.openFrames_eq

end ScriptShell
