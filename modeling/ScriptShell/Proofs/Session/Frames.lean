import ScriptShell.Language.Interpreter
import ScriptShell.Proofs.Session.Accounting

/-!
# Frames and realms are put back

Evaluations, syntax checks, conversions and natives nest in each other to any depth and end in many
ways. However they end, the frames and the realm behind them are those before them, and whenever
script code calls a native on the way, the open frames are those that were open before and those
entered since and not yet left. These are the frames that `jscStack` and `dumpCallFrame` show.

## Main results

* `Host.brackets_answer`: natives, at every depth at which they are called.
* `frames_and_realm_put_back`: all ways into the engine, and all reachable sessions.
-/

namespace ScriptShell

open Entry

variable {engine : Engine}

/-- Entries that begin where some frames are open: only the innermost frame is left, calls of
natives see the open frames, and the natives that show frames show those. -/
structure Bracketed (frames : List String) (entries : List Entry) : Prop where
  left_innermost : ∀ before frame behind, entries = before ++ .left frame :: behind →
    (openFrames frames before).head? = some frame
  called_open : ∀ before native seen behind, entries = before ++ .called native seen :: behind →
    seen = openFrames frames before
  called_shown : ∀ before native seen behind, entries = before ++ .called native seen :: behind →
    native.shows seen <+: behind

/-! ## What natives show -/

/-- Right behind each call of a native stands what it shows of the frames. -/
private def Shown (entries : List Entry) : Prop :=
  ∀ before native seen behind, entries = before ++ .called native seen :: behind →
    native.shows seen <+: behind

private theorem Shown.of_no_call {entries : List Entry}
    (hentries : ∀ native seen, .called native seen ∉ entries) : Shown entries := by
  intro before native seen behind heq
  exact absurd (by simp [heq]) (hentries native seen)

private theorem Shown.append {first second : List Entry} (hfirst : Shown first)
    (hsecond : Shown second) : Shown (first ++ second) := by
  intro before native seen behind heq
  -- The call stands in the second part, or in the first with all that it shows behind it there.
  rcases List.append_eq_append_iff.mp heq with ⟨middle, -, hsplit⟩ | ⟨middle, hsplit, hrest⟩
  · exact hsecond middle native seen behind hsplit
  · cases middle with
    | nil => exact hsecond [] native seen behind hrest.symm
    | cons entry rest =>
        obtain ⟨rfl, rfl⟩ := List.cons.inj hrest
        exact (hfirst before native seen rest hsplit).trans (List.prefix_append rest second)

private theorem shown_call (native : Native) (frames : List String) :
    Shown (.called native frames :: native.shows frames) := by
  have hquiet : ∀ other seen, Entry.called other seen ∉ native.shows frames := by
    intro other seen
    cases native with
    | dumpCallFrame => cases frames <;> simp [Native.shows]
    | _ => simp [Native.shows]
  intro before other seen behind heq
  cases before with
  | nil =>
      obtain ⟨hcall, rfl⟩ := List.cons.inj heq
      cases hcall
      exact List.prefix_refl _
  | cons entry rest =>
      have hmem : Entry.called other seen ∈ native.shows frames := by
        rw [(List.cons.inj heq).2]
        simp
      exact absurd hmem (hquiet other seen)

private theorem Course.shown {stage : Stage} {session after : Session engine}
    {entries : List Entry} (h : Course stage session entries after) : Shown entries := by
  refine h.entries_induction (.of_no_call (by simp)) Shown.append (fun {entry} hscripted => ?_)
    shown_call
  refine .of_no_call fun native seen hmem => ?_
  rw [← List.mem_singleton.mp hmem] at hscripted
  exact hscripted

private theorem Passage.shown {session after : Session engine} {entries : List Entry}
    (h : Passage session entries after) : Shown entries := by
  induction h with
  | course hcourse => exact hcourse.shown
  | chore hchore => cases hchore <;> exact .of_no_call (by simp)
  | append _ _ ihfirst ihsecond => exact ihfirst.append ihsecond

/-- The journal of a reachable session has what natives show right behind their calls. -/
private theorem Reachable.shown {held : List String} {session : Session engine}
    (h : Reachable held session) : Shown session.journal := by
  refine h.journal_induction (fun _ _ => .of_no_call (by simp))
    (fun _ hpassage hshown => hshown.append hpassage.shown) (fun frame hshown => ⟨?_, ?_⟩)
  · exact hshown.append (.of_no_call (by simp))
  · exact hshown.append (.of_no_call (by simp))

/-! ## Bracketing -/

private theorem bracketed {standing after : Standing} {entries : List Entry}
    (htells : standing.Tells entries after) (hshown : Shown entries) :
    Bracketed standing.frames entries where
  left_innermost before frame behind heq := by
    have hallows := (heq ▸ htells.admits).allows
    rwa [Standing.Allows, Standing.replay_frames] at hallows
  called_open before native seen behind heq := by
    have hallows := (heq ▸ htells.admits).allows
    rwa [Standing.Allows, Standing.replay_frames] at hallows
  called_shown := hshown

/-- Wherever the action comes to its end, by whatever exit, the frames and the realm are those on
entry, and what happened in between is bracketed by them. -/
def Host.Brackets {α : Type} (action : Host engine α) : Prop :=
  ∀ ⦃session : Session engine⦄ ⦃result : α⦄ ⦃after : Session engine⦄,
    Host.Ends action session result after →
      after.frames = session.frames ∧ after.realm = session.realm ∧
        ∃ entries, after.journal = session.journal ++ entries ∧
          openFrames session.frames entries = session.frames ∧ Bracketed session.frames entries

namespace Host

theorem Follows.brackets {α : Type} {action : Host engine α} (haction : Follows action) :
    Brackets action := by
  intro session result after hends
  obtain ⟨entries, hcourse⟩ := haction hends
  exact ⟨hcourse.frames_eq, hcourse.realm_eq, entries, hcourse.journal_eq,
    hcourse.tells.openFrames_eq.trans hcourse.frames_eq, bracketed hcourse.tells hcourse.shown⟩

/-- Every native puts frames and realm back, at every depth at which it is called. -/
theorem brackets_answer (budget : Nat) (realm : Realm) (native : Native)
    (arguments : List engine.Value) : Brackets (answer budget realm native arguments).run :=
  Follows.brackets (follows_answer budget realm native arguments)

end Host

/-- In every reachable session the open frames are those held around it, as its journal tells, and
the realm is the first one. Evaluations, syntax checks, conversions, new environments and natives
put frames and realm back in every session, whichever way they end. -/
theorem frames_and_realm_put_back (engine : Engine) :
    (∀ {held : List String} {session : Session engine}, Reachable held session →
      session.frames = held ∧ session.realm = 0 ∧
        openFrames [] session.journal = held ∧ Bracketed [] session.journal) ∧
    ∀ budget : Nat,
      (∀ environment source name,
        Host.Brackets (Host.evaluateIn budget environment source name : Host engine _)) ∧
      (∀ environment source name,
        Host.Brackets (Host.checkSyntaxIn budget environment source name : Host engine _)) ∧
      (∀ environment (value : engine.Value),
        Host.Brackets (Host.stringifyIn budget environment value)) ∧
      (∀ arguments, Host.Brackets (Host.createEnvironment arguments : Attempt engine Realm).run) ∧
      (∀ realm native (arguments : List engine.Value),
        Host.Brackets (Host.answer budget realm native arguments).run) := by
  constructor
  · intro held session hreachable
    exact ⟨hreachable.frames_eq, hreachable.realm_eq,
      hreachable.openFrames_eq.trans hreachable.frames_eq,
      bracketed hreachable.tells hreachable.shown⟩
  · intro budget
    refine ⟨fun environment source name => ?_, fun environment source name => ?_,
      fun environment value => ?_, fun arguments => ?_, fun realm native arguments => ?_⟩
    · exact (Host.follows_evaluateIn budget environment source name).brackets
    · exact (Host.follows_checkSyntaxIn budget environment source name).brackets
    · exact (Host.follows_stringifyIn budget environment value).brackets
    · exact Host.Follows.brackets (Host.follows_createEnvironment arguments)
    · exact Host.brackets_answer budget realm native arguments

/-- A session with a frame held open, and a file that throws. -/
def heldSession : Session Language.engine :=
  (Session.start Language.engine {} false []
    (Files.empty.addFile "inner.js" (Bytes.ofString "throw 'lost'")) (.ticking 0)).entering "held"

/-- A file that throws is loaded while a frame is held. -/
theorem frames_put_back_behind_throwing_load :
    (heldSession.frames = ["held"] ∧ Bracketed [] heldSession.journal) ∧
      ∃ fault after,
        Host.Ends (Host.answer 2 0 .load [Language.engine.ofText "inner.js"]).run heldSession
          (.error fault) after ∧
        after.frames = ["held"] ∧ after.realm = 0 := by
  have hreachable : Reachable ["held"] heldSession :=
    .enter "held" (.start {} false [] _ _) (Host.ends_enter.mpr rfl)
  have hheld := (frames_and_realm_put_back Language.engine).1 hreachable
  refine ⟨⟨hheld.1, hheld.2.2.2⟩, ?_⟩
  have hcomputed : ((Host.answer 2 0 .load [Language.engine.ofText "inner.js"]).run.outcome
      heldSession).1.toOption.any (fun result => !result.isOk) = true := by
    decide +kernel
  obtain ⟨result | value, hends, hthrew⟩ := Host.exists_ends hcomputed
  · have hback := (((frames_and_realm_put_back Language.engine).2 2).2.2.2.2 0 .load _) hends
    exact ⟨_, _, hends, hback.1, hback.2.1⟩
  · cases hthrew

end ScriptShell
