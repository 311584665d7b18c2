import ScriptShell.Session.Basic

/-!
# What a journal says of frames and jobs

Which frames are open and which jobs wait can be read off a journal alone, without the sessions it
belongs to. A `Standing` is what the entries up to some point say of both; `Standing.Admits` says
that each entry fits what stands before it: a frame is left only where it is the innermost, script
code that calls a native sees the open frames, jobs get their numbers in turn, and only the first
of the waiting jobs begins to run, with a single frame open.

What an admissible journal can look like is a fact about lists of entries: jobs are started at most
once and in the order in which they were queued (`Admits.startedJobs_sublist`), and where no job
was interrupted, those queued are those started and those that wait
(`Admits.waiting_append_queuedJobs`).
-/

namespace ScriptShell

namespace Entry

/-! ## Frames in a journal -/

/-- The frames that are open behind some entries: those that were open before and those entered
meanwhile, without those that were left. -/
def openFrames (frames : List String) : List Entry → List String
  | [] => frames
  | .entered frame :: rest => openFrames (frame :: frames) rest
  | .left _ :: rest => openFrames frames.tail rest
  | _ :: rest => openFrames frames rest

theorem openFrames_append (frames : List String) (first second : List Entry) :
    openFrames frames (first ++ second) = openFrames (openFrames frames first) second := by
  induction first generalizing frames with
  | nil => rfl
  | cons entry rest ih => cases entry <;> exact ih _

/-! ## Jobs in a journal -/

/-- The numbers of the jobs that entries queue. -/
def queuedJobs (entries : List Entry) : List Nat :=
  entries.filterMap fun
    | .queued job => some job
    | _ => none

/-- The numbers of the jobs that entries start. -/
def startedJobs (entries : List Entry) : List Nat :=
  entries.filterMap fun
    | .started job => some job
    | _ => none

/-- Whether an entry is about a job that ended in an error. -/
def interrupts : Entry → Bool
  | .interrupted _ => true
  | _ => false

/-- The jobs that wait behind some entries, from those that waited before. -/
def waitingJobs (waiting : List Nat) : List Entry → List Nat
  | [] => waiting
  | .queued job :: rest => waitingJobs (waiting ++ [job]) rest
  | .started _ :: rest => waitingJobs waiting.tail rest
  | .interrupted _ :: rest => waitingJobs [] rest
  | _ :: rest => waitingJobs waiting rest

/-- No job ended in an error that dropped the waiting ones. -/
def Uninterrupted (entries : List Entry) : Prop :=
  ∀ entry ∈ entries, entry.interrupts = false

@[simp] theorem startedJobs_append (first second : List Entry) :
    startedJobs (first ++ second) = startedJobs first ++ startedJobs second :=
  List.filterMap_append

/-- Whether an entry is about a job that runs. -/
def runsJob : Entry → Bool
  | .started _ | .settled _ | .interrupted _ => true
  | _ => false

/-- No job runs. -/
def Idle (entries : List Entry) : Prop :=
  ∀ entry ∈ entries, entry.runsJob = false

@[simp] theorem idle_nil : Idle [] :=
  List.forall_mem_nil _

@[simp] theorem idle_cons {entry : Entry} {entries : List Entry} :
    Idle (entry :: entries) ↔ entry.runsJob = false ∧ Idle entries :=
  List.forall_mem_cons

@[simp] theorem idle_append {first second : List Entry} :
    Idle (first ++ second) ↔ Idle first ∧ Idle second :=
  List.forall_mem_append

theorem Idle.startedJobs_eq_nil {entries : List Entry} (h : Idle entries) :
    startedJobs entries = [] := by
  unfold startedJobs
  rw [List.filterMap_eq_nil_iff]
  intro entry hentry
  have hidle := h entry hentry
  cases entry with
  | started job => cases hidle
  | _ => rfl

/-- Where no job runs, all that are queued wait. -/
theorem Idle.waitingJobs_eq {entries : List Entry} (h : Idle entries) (waiting : List Nat) :
    waitingJobs waiting entries = waiting ++ queuedJobs entries := by
  induction entries generalizing waiting with
  | nil => simp [waitingJobs, queuedJobs]
  | cons entry rest ih =>
      obtain ⟨hentry, hrest⟩ := idle_cons.mp h
      cases entry with
      | started | settled | interrupted => cases hentry
      | queued job => simpa [waitingJobs, queuedJobs] using ih hrest (waiting ++ [job])
      | _ => exact ih hrest waiting

theorem Idle.uninterrupted {entries : List Entry} (h : Idle entries) : Uninterrupted entries := by
  intro entry hentry
  have hidle := h entry hentry
  cases entry with
  | interrupted job => cases hidle
  | _ => rfl

end Entry

/-! ## Standings -/

/-- What the entries up to some point of a journal say of frames and jobs. -/
@[ext]
structure Standing where
  /-- The open frames, innermost first. -/
  frames : List String := []
  /-- The numbers of the waiting jobs, the first one first. -/
  waiting : List Nat := []
  /-- How many jobs were queued. -/
  queued : Nat := 0
  deriving DecidableEq

namespace Standing

open Entry

/-- The standing behind one more entry. -/
def next (standing : Standing) : Entry → Standing
  | .entered frame => { standing with frames := frame :: standing.frames }
  | .left _ => { standing with frames := standing.frames.tail }
  | .queued job =>
    { standing with waiting := standing.waiting ++ [job], queued := standing.queued + 1 }
  | .started _ => { standing with waiting := standing.waiting.tail }
  | .interrupted _ => { standing with waiting := [] }
  | _ => standing

/-- The standing behind some entries. -/
def replay (standing : Standing) (entries : List Entry) : Standing :=
  entries.foldl next standing

/-- The entry fits what stands before it. -/
def Allows (standing : Standing) : Entry → Prop
  | .left frame => standing.frames.head? = some frame
  | .called _ frames => frames = standing.frames
  | .queued job => job = standing.queued
  | .started job => standing.waiting.head? = some job ∧ standing.frames.length = 1
  | _ => True

/-- Each of the entries fits what stands before it. -/
def Admits : Standing → List Entry → Prop
  | _, [] => True
  | standing, entry :: rest => standing.Allows entry ∧ (standing.next entry).Admits rest

@[simp] theorem replay_nil (standing : Standing) : standing.replay [] = standing := rfl

@[simp] theorem replay_cons (standing : Standing) (entry : Entry) (entries : List Entry) :
    standing.replay (entry :: entries) = (standing.next entry).replay entries := rfl

@[simp] theorem replay_append (standing : Standing) (first second : List Entry) :
    standing.replay (first ++ second) = (standing.replay first).replay second :=
  List.foldl_append

theorem replay_frames (standing : Standing) (entries : List Entry) :
    (standing.replay entries).frames = openFrames standing.frames entries := by
  induction entries generalizing standing with
  | nil => rfl
  | cons entry rest ih =>
      rw [replay_cons, ih]
      cases entry <;> rfl

theorem replay_waiting (standing : Standing) (entries : List Entry) :
    (standing.replay entries).waiting = waitingJobs standing.waiting entries := by
  induction entries generalizing standing with
  | nil => rfl
  | cons entry rest ih =>
      rw [replay_cons, ih]
      cases entry <;> rfl

@[simp] theorem admits_nil (standing : Standing) : standing.Admits [] := trivial

@[simp] theorem admits_cons {standing : Standing} {entry : Entry} {entries : List Entry} :
    standing.Admits (entry :: entries) ↔
      standing.Allows entry ∧ (standing.next entry).Admits entries := Iff.rfl

@[simp] theorem admits_append {standing : Standing} {first second : List Entry} :
    standing.Admits (first ++ second) ↔
      standing.Admits first ∧ (standing.replay first).Admits second := by
  induction first generalizing standing with
  | nil => simp
  | cons entry rest ih => simp [ih, and_assoc]

/-- In an admissible journal, each entry fits the standing behind the entries before it. -/
theorem Admits.allows {standing : Standing} {before behind : List Entry} {entry : Entry}
    (h : standing.Admits (before ++ entry :: behind)) : (standing.replay before).Allows entry :=
  (admits_cons.mp (admits_append.mp h).2).1

/-- The entries fit one standing and lead to another. -/
structure Tells (before : Standing) (entries : List Entry) (after : Standing) : Prop where
  admits : before.Admits entries
  replay_eq : before.replay entries = after

namespace Tells

variable {before middle after : Standing} {first second : List Entry}

theorem nil (standing : Standing) : standing.Tells [] standing :=
  ⟨trivial, rfl⟩

theorem append (hfirst : before.Tells first middle) (hsecond : middle.Tells second after) :
    before.Tells (first ++ second) after := by
  constructor
  · rw [admits_append, hfirst.replay_eq]
    exact ⟨hfirst.admits, hsecond.admits⟩
  · rw [replay_append, hfirst.replay_eq, hsecond.replay_eq]

theorem openFrames_eq (h : before.Tells first after) :
    openFrames before.frames first = after.frames := by
  rw [← replay_frames, h.replay_eq]

theorem waitingJobs_eq (h : before.Tells first after) :
    waitingJobs before.waiting first = after.waiting := by
  rw [← replay_waiting, h.replay_eq]

theorem single {entry : Entry} (hallows : before.Allows entry) :
    before.Tells [entry] (before.next entry) :=
  ⟨⟨hallows, trivial⟩, rfl⟩

end Tells

/-! ## Jobs of an admissible journal -/

/-- Jobs are numbered in the order in which they are queued. -/
theorem Admits.range_append_queuedJobs {standing : Standing} {entries : List Entry}
    (h : standing.Admits entries) :
    List.range standing.queued ++ queuedJobs entries =
      List.range (standing.replay entries).queued := by
  induction entries generalizing standing with
  | nil => simp [queuedJobs]
  | cons entry rest ih =>
      obtain ⟨hallows, hrest⟩ := h
      have hnext := ih hrest
      cases entry with
      | queued job =>
          rw [show job = standing.queued from hallows] at hnext ⊢
          rw [replay_cons, ← hnext]
          simp [next, queuedJobs, List.range_succ]
      | _ => exact hnext

/-- Jobs start at most once and in the order in which they were queued. -/
theorem Admits.startedJobs_sublist {standing : Standing} {entries : List Entry}
    (h : standing.Admits entries) :
    (startedJobs entries).Sublist (standing.waiting ++ queuedJobs entries) := by
  induction entries generalizing standing with
  | nil => simp [startedJobs]
  | cons entry rest ih =>
      obtain ⟨hallows, hrest⟩ := h
      have hnext := ih hrest
      cases entry with
      | queued job =>
          simp only [next, List.append_assoc] at hnext
          exact hnext
      | started job =>
          obtain ⟨waiting, hwaiting⟩ := List.head?_eq_some_iff.mp hallows.1
          simp only [next, hwaiting, List.tail_cons] at hnext
          rw [hwaiting]
          exact hnext.cons_cons job
      | interrupted job =>
          exact hnext.trans (List.sublist_append_right standing.waiting _)
      | _ => exact hnext

/-- Where no job was interrupted, none is lost: a job that was waiting or was queued meanwhile has
started or waits. -/
theorem Admits.waiting_append_queuedJobs {standing : Standing} {entries : List Entry}
    (h : standing.Admits entries) (huninterrupted : Uninterrupted entries) :
    standing.waiting ++ queuedJobs entries =
      startedJobs entries ++ (standing.replay entries).waiting := by
  induction entries generalizing standing with
  | nil => simp [startedJobs, queuedJobs]
  | cons entry rest ih =>
      obtain ⟨hallows, hrest⟩ := h
      have hnext := ih hrest (List.forall_mem_cons.mp huninterrupted).2
      cases entry with
      | queued job =>
          simp only [next, List.append_assoc] at hnext
          exact hnext
      | started job =>
          obtain ⟨waiting, hwaiting⟩ := List.head?_eq_some_iff.mp hallows.1
          rw [replay_cons, hwaiting]
          simp only [next, hwaiting, List.tail_cons] at hnext ⊢
          exact congrArg (job :: ·) hnext
      | interrupted job => cases huninterrupted _ List.mem_cons_self
      | _ => exact hnext

end Standing

end ScriptShell
