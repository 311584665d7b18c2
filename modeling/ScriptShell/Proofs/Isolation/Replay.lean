import ScriptShell.Proofs.Isolation.Turns

/-!
# Leaving out the turns in one environment

The turns that are not in an environment keep to the realms outside. Where the engine keeps realms
apart they come to the same when they are taken again without the others (`Turn.replay_elsewhere`).
One turn is taken at a time (`Beside.leaveOut`, `Beside.takeAgain`), from a new session on.
-/

namespace ScriptShell

variable {engine : Engine}

section Replay

variable {division : engine.Division} {budget : Nat} {environment : Realm}
  {past rest : List (Turn engine)} {again : List (Reply engine)} {turn : Turn engine}
  {inside outside : division.Reach} {session twin after behind other : Session engine}

/-! ## Saving the profile -/

/-- Whether a file can be written does not depend on what is written. -/
theorem Files.write_error_congr {files : Files} {path : String} {content : Bytes} {error : IoError}
    (hwrite : files.write path content = .error error) (other : Bytes) :
    files.write path other = .error error := by
  unfold Files.write at hwrite ⊢
  dsimp only at hwrite ⊢
  generalize files.resolve (if withoutSlashes path = "" then path else withoutSlashes path) =
    place at hwrite ⊢
  cases place with
  | error failure => exact hwrite
  | ok place =>
      simp only [bind, Except.bind] at hwrite ⊢
      by_cases hbare : withoutSlashes path = path
      · cases hnode : files.root.follow? place with
        | none => simp [hnode, hbare] at hwrite
        | some node => cases node <;> simp_all
      · cases hnode : files.root.follow? place with
        | none => simp_all
        | some node => cases node <;> simp_all

/-- Saving the profile comes to the same where profiling is on in both sessions or in neither. -/
theorem Host.ends_saveProfile_shared {extent : division.Reach} {depth : Nat} (budget : Nat)
    (path : String) (hshared : Shared division depth extent session twin) :
    ∃ (gained : List Entry) (files filesTwin : Files),
      Ends (SessionStep.reply budget (.operate (.saveProfile path))) session .done
        { session with files, history := gained.reverse ++ session.history } ∧
      Ends (SessionStep.reply budget (.operate (.saveProfile path))) twin .done
        { twin with files := filesTwin, history := gained.reverse ++ twin.history } := by
  have hreply : ∀ {result} {before after : Session engine},
      Ends (Program.saveProfile path) before result after →
      Ends (SessionStep.reply budget (.operate (.saveProfile path))) before .done after :=
    fun hsave => ends_bind.mpr ⟨(), _, ends_bind.mpr ⟨_, _, hsave, rfl⟩, rfl⟩
  have hsilent : ∀ {before : Session engine}, before.profile = none →
      Ends (Program.saveProfile path) before (.ok ()) before :=
    fun hprofile => ends_saveProfile.mpr (by simp [hprofile])
  have hfails : ∀ {before : Session engine} {records error}, before.profile = some records →
      before.files.write path (Bytes.ofString (Profile.render records)) = .error error →
      Ends (Program.saveProfile path) before (.error (.io error))
        (before.note (.fileWritten path (some error))) :=
    fun hprofile hwrite => ends_saveProfile.mpr (by simp [hprofile, hwrite])
  have hwrites : ∀ {before : Session engine} {records files}, before.profile = some records →
      before.files.write path (Bytes.ofString (Profile.render records)) = .ok files →
      Ends (Program.saveProfile path) before (.ok ())
        (Session.note { before with files := files } (.fileWritten path none)) :=
    fun hprofile hwrite => ends_saveProfile.mpr (by simp [hprofile, hwrite])
  have hprofiling := hshared.profiling_eq
  have hfiles : twin.files = session.files := by
    obtain ⟨_, _, _, _, _, _, rfl⟩ := hshared.same
    rfl
  cases hprofile : session.profile with
  | none =>
      have hprofileTwin : twin.profile = none := by simpa [hprofile] using hprofiling
      exact ⟨[], session.files, twin.files, hprofile ▸ hreply (hsilent hprofile),
        hreply (hsilent hprofileTwin)⟩
  | some records =>
      obtain ⟨others, hprofileTwin⟩ : ∃ others, twin.profile = some others := by
        rw [hprofile] at hprofiling
        exact Option.isSome_iff_exists.mp hprofiling
      cases hwrite : session.files.write path (Bytes.ofString (Profile.render records)) with
      | error error =>
          have hwriteTwin := Files.write_error_congr hwrite (Bytes.ofString (Profile.render others))
          rw [← hfiles] at hwriteTwin
          exact ⟨[.fileWritten path (some error)], session.files, twin.files,
            hprofile ▸ hreply (hfails hprofile hwrite),
            hreply (hfails hprofileTwin hwriteTwin)⟩
      | ok files =>
          cases hwriteTwin : twin.files.write path (Bytes.ofString (Profile.render others)) with
          | error error =>
              rw [hfiles] at hwriteTwin
              cases hwrite.symm.trans (Files.write_error_congr hwriteTwin _)
          | ok filesTwin =>
              exact ⟨[.fileWritten path none], files, filesTwin,
                hprofile ▸ hreply (hwrites hprofile hwrite),
                hreply (hwrites hprofileTwin hwriteTwin)⟩

/-! ## Turns that are taken again -/

/-- Taken again, a turn comes to the same, and the sessions behind are beside each other again. -/
structure Turn.Resumes (division : engine.Division) (budget : Nat) (environment : Realm)
    (past : List (Turn engine)) (again : List (Reply engine)) (outside beyond : division.Reach)
    (turn taken : Turn engine) : Prop where
  le : outside ≤ beyond
  noticed : division.Noticed beyond (turn.effect budget) (taken.effect budget)
  beside {reply : Reply engine} (hresult : turn.result budget = .ok reply)
    (hframes : (turn.after budget).frames = []) (hjobs : (turn.after budget).jobs = []) :
    ∃ within, Beside division budget environment (past ++ [turn]) (again ++ [taken.tells budget])
      within beyond (turn.after budget) ((taken.after budget).finding (turn.after budget))

namespace Turn

/-- A turn that is cut off is cut off when it is taken again. -/
theorem resumes_of_halted {taken : Turn engine} {halt : Halt} {entries : List Entry}
    (heffect : turn.effect budget = (.error halt, entries))
    (hagain : taken.effect budget = (.error halt, entries)) :
    turn.Resumes division budget environment past again outside outside taken where
  le := le_rfl
  noticed := by
    rw [heffect, hagain]
    exact .halted halt entries
  beside hresult _ _ := by cases hresult.symm.trans (congrArg Prod.fst heffect :)

/-- A turn that tells nothing when it is taken again. -/
theorem resumes_of_done {taken : Turn engine} {entries : List Entry}
    (heffect : turn.effect budget = (.ok .done, entries))
    (hagain : taken.effect budget = (.ok .done, entries))
    (hbeside : (turn.after budget).frames = [] → ∃ within,
      Beside division budget environment (past ++ [turn]) (again ++ [.done]) within outside
        (turn.after budget) ((taken.after budget).finding (turn.after budget))) :
    turn.Resumes division budget environment past again outside outside taken where
  le := le_rfl
  noticed := by
    rw [heffect, hagain]
    exact .ok .done entries
  beside _ hframes _ := by
    rw [tells_of_result (congrArg Prod.fst hagain :)]
    exact hbeside hframes

theorem told_of_not_isIn (hin : turn.isIn environment = false) {reply other : Reply engine}
    (hresult : turn.result budget = .ok reply) (hreply : division.Replied outside reply other) :
    division.Told budget environment inside outside turn other := by
  have hside : ¬ turn.isIn environment = true := by
    rw [hin]
    decide
  rw [Engine.Division.Told, if_neg hside, tells_of_result hresult]
  exact hreply

end Turn

namespace Beside

variable (isolates : Engine.Isolates division)

include isolates

/-- A turn that tells nothing of environments and of values, and does nothing to the engine. -/
theorem advance_done
    (h : Beside division budget environment past again inside outside turn.session twin)
    (hin : turn.isIn environment = false) (hresult : turn.result budget = .ok .done)
    (hstore : after.store = turn.session.store) (hrealms : after.realms = turn.session.realms)
    (hshared : Shared division 1 outside after behind) :
    Beside division budget environment (past ++ [turn]) (again ++ [.done]) inside outside after
      behind := by
  refine h.advance isolates le_rfl le_rfl ?_ ?_ hshared ?_ hrealms.ge (fun place hmade => ?_)
    (Turn.told_of_not_isIn hin hresult .done)
  · rw [hrealms]
    exact h.outside_eq
  · rw [hrealms]
    exact h.below
  · rw [hstore]
    exact h.alike
  · cases hresult.symm.trans (Turn.made?_eq_some.mp hmade)

/-- The saved profile may be another one; whoever reads it finds what there was to find. -/
theorem save (h : Beside division budget environment past again inside outside turn.session twin)
    (hin : turn.isIn environment = false) (hsaves : turn.step.saves = true) :
    turn.Resumes division budget environment past again outside outside
      (turn.retaken twin again) := by
  obtain ⟨session, told, ask⟩ := turn
  obtain ⟨path, rfl⟩ : ∃ path, ask = .take (.operate (.saveProfile path)) := by
    cases ask with
    | render environment number => cases hsaves
    | take step =>
        cases step with
        | operate operation => cases operation <;> first | exact ⟨_, rfl⟩ | cases hsaves
        | _ => cases hsaves
  let turn : Turn engine := ⟨session, told, .take (.operate (.saveProfile path))⟩
  obtain ⟨gained, files, filesTwin, hends, hendsTwin⟩ :=
    Host.ends_saveProfile_shared budget path h.shared
  have heffect : turn.effect budget = (.ok .done, gained) :=
    Turn.effect_of_outcome gained hends rfl
  have hagain : (turn.retaken twin again).effect budget = (.ok .done, gained) :=
    Turn.effect_of_outcome gained hendsTwin rfl
  refine Turn.resumes_of_done heffect hagain fun _ => ⟨inside, ?_⟩
  have hafter : turn.after budget = _ := congrArg Prod.snd hends
  have hbehind : (turn.retaken twin again).after budget = _ := congrArg Prod.snd hendsTwin
  rw [hafter, hbehind]
  refine h.advance_done isolates hin (congrArg Prod.fst hends) rfl rfl ?_
  obtain ⟨store, jobs, sampler, profile, clock, history, rfl⟩ := h.shared.same
  exact { h.shared with
    same := ⟨store, jobs, sampler, profile, session.clock, _, rfl⟩
    clock := .refl _ _ }

/-- Where no frame is held open there is none to leave, and one that is entered is held open. -/
theorem switch (h : Beside division budget environment past again inside outside turn.session twin)
    (hin : turn.isIn environment = false) (hframes : turn.session.frames = [])
    (hswitches : turn.step.frames = true) :
    turn.Resumes division budget environment past again outside outside
      (turn.retaken twin again) := by
  obtain ⟨session, told, ask⟩ := turn
  obtain ⟨step, rfl⟩ : ∃ step, ask = .take step := by
    cases ask with
    | render environment number => cases hswitches
    | take step => exact ⟨step, rfl⟩
  let turn : Turn engine := ⟨session, told, .take step⟩
  cases step with
  | enter frame =>
      have henters (session : Session engine) :
          (SessionStep.reply budget (.enter frame)).outcome session =
            (.ok .done, session.entering frame) := rfl
      have heffect : turn.effect budget = (.ok .done, [.entered frame]) :=
        Turn.effect_of_outcome [.entered frame] (henters session) rfl
      have hagain : (turn.retaken twin again).effect budget = (.ok .done, [.entered frame]) :=
        Turn.effect_of_outcome [.entered frame] (henters twin) rfl
      refine Turn.resumes_of_done heffect hagain fun hheld => ?_
      have hafter : turn.after budget = session.entering frame :=
        congrArg Prod.snd (henters session)
      rw [hafter] at hheld
      cases hheld
  | leave =>
      have hleaves {session : Session engine} (hframes : session.frames = []) :
          (SessionStep.reply budget .leave).outcome session = (.ok .done, session) := by
        have hnothing : Host.Ends Host.leave session () session :=
          Host.ends_get_bind.mpr (by rw [hframes]; rfl)
        exact Host.outcome_bind_of_ends hnothing
      have hframesTwin : twin.frames = [] := h.shared.frames_eq.trans hframes
      have heffect : turn.effect budget = (.ok .done, []) :=
        Turn.effect_of_outcome [] (hleaves hframes) rfl
      have hagain : (turn.retaken twin again).effect budget = (.ok .done, []) :=
        Turn.effect_of_outcome [] (hleaves hframesTwin) rfl
      refine Turn.resumes_of_done heffect hagain fun _ => ⟨inside, ?_⟩
      have hafter : turn.after budget = session := congrArg Prod.snd (hleaves hframes)
      have hbehind : (turn.retaken twin again).after budget = twin :=
        congrArg Prod.snd (hleaves hframesTwin)
      rw [hafter, hbehind]
      exact h.advance_done isolates hin (congrArg Prod.fst heffect) rfl rfl h.shared.finding
  | _ => cases hswitches

end Beside

/-! ### New environments -/

/-- Where no job waits, sessions share whatever is alike in them. -/
theorem Shared.reach {depth : Nat} {extent greater : division.Reach}
    (h : Shared division depth extent session twin) (hjobs : session.jobs = [])
    (halike : division.Alike greater session.store twin.store)
    (hbelow : ∀ realm ∈ greater.territory, realm < session.realms) :
    Shared division depth greater session twin :=
  { h with
    alike := halike
    below := hbelow
    ready := fun hdepth => by
      have hready := h.ready hdepth
      rw [hjobs, List.forall₂_nil_left_iff] at hready
      rw [hjobs, hready]
      exact .nil }

namespace Turn

/-- Making an environment is the same wherever it is asked for. -/
theorem step_retaken_of_makes {arguments : List String}
    (hstep : turn.step = .operate (.createEnvironment arguments)) :
    (turn.retaken twin again).step = turn.step := by
  obtain ⟨session, told, ask⟩ := turn
  cases ask with
  | take step => rfl
  | render environment number => cases hstep

/-- A new realm is compared with nothing of what there is. -/
theorem parallel_of_makes (isolates : Engine.Isolates division) {extent : division.Reach}
    {arguments : List String} {taken : Turn engine}
    (hshared : Shared division 1 extent turn.session taken.session)
    (hstep : turn.step = .operate (.createEnvironment arguments)) (htaken : taken.step = turn.step)
    (hwaiting : turn.session.jobs = []) :
    turn.Parallel division budget 1 ⟨extent.naming, ∅⟩ taken := by
  have hnowhere : Shared division 1 ⟨extent.naming, ∅⟩ turn.session taken.session :=
    hshared.reach hwaiting (isolates.alike_empty hshared.alike)
      fun _ hrealm => absurd hrealm (Set.notMem_empty _)
  refine parallel_of_confines ?_ hnowhere
  rw [htaken]
  refine Host.confines_reply isolates (Nat.succ_pos 0) ?_ ?_ ?_ ?_ (.same ?_) <;>
    simp [hstep, SessionStep.frames, SessionStep.saves, SessionStep.KeepsEnabled,
      SessionStep.environment?]

end Turn

theorem Advanced.finding {extent : division.Reach} {naming : division.Naming} {depth : Nat}
    (h : Advanced division depth extent naming session twin after behind) :
    Advanced division depth extent naming session twin after (behind.finding after) :=
  { h with shared := h.shared.finding }

/-- What there was is left as it was where nothing but a new realm is changed. -/
theorem Advanced.alike_elsewhere (isolates : Engine.Isolates division) {extent : division.Reach}
    {naming greater : division.Naming}
    (hadvanced : Advanced division 1 ⟨naming, ∅⟩ greater session twin after behind)
    (hshared : Shared division 1 extent session twin)
    (hcalls : division.calls after.store = division.calls session.store)
    (hnaming : extent.naming ≤ greater) :
    division.Alike (extent.under greater) after.store behind.store := by
  have hcallsTwin : division.calls behind.store = division.calls twin.store := by
    rw [isolates.calls_eq hadvanced.shared.alike, hcalls, isolates.calls_eq hshared.alike]
  exact isolates.alike_under hnaming (isolates.alike_congr hshared.alike
    (fun realm hrealm => hadvanced.untouched realm (hshared.below realm hrealm)
      (Set.notMem_empty _))
    (fun realm hrealm => hadvanced.untouched_twin realm (hshared.below realm hrealm)
      (Set.notMem_empty _)) hcalls hcallsTwin)

namespace Beside

variable (isolates : Engine.Isolates division)

include isolates

/-- The new realm is that of the environment that is left out. -/
theorem make_inside {greater self : division.Naming} {reply : Reply engine}
    (h : Beside division budget environment past again inside outside turn.session twin)
    (hadvanced : Advanced division 1 ⟨outside.naming, ∅⟩ greater turn.session twin after behind)
    (hself : Advanced division 1 ⟨inside.naming, ∅⟩ self turn.session turn.session after after)
    (hcalls : division.calls after.store = division.calls turn.session.store)
    (hjobs : after.jobs = []) (hrealms : after.realms = turn.session.realms + 1)
    (hmade : turn.made? budget = some environment)
    (htold : division.Told budget environment (inside.grownTo self turn.session.realms after.realms)
      (outside.under greater) turn reply) (hwaiting : turn.session.jobs = []) :
    ∃ within, Beside division budget environment (past ++ [turn]) (again ++ [reply]) within
      (outside.under greater) after behind := by
  have hthere : turn.session.realms < after.realms := by omega
  have houtside : Shared division 1 (outside.under greater) after behind :=
    hadvanced.shared.reach hjobs
      (hadvanced.alike_elsewhere isolates h.shared hcalls hadvanced.le)
      fun realm hrealm => (h.shared.below realm hrealm).trans hthere
  have hinside : division.Alike (inside.grownTo self turn.session.realms after.realms) after.store
      after.store := by
    have hthere := hself.alike_elsewhere isolates (.self h.alike h.below hwaiting) hcalls hself.le
    have hunion := isolates.alike_union hthere hself.shared.alike
    rw [Extent.grownTo, grown_eq_union]
    exact hunion
  refine ⟨inside.grownTo self turn.session.realms after.realms, h.advance isolates
    (Extent.le_grownTo hself.le) (Extent.le_under hadvanced.le) ?_ ?_ houtside hinside hthere.le
    (fun place hplace => ?_) htold⟩
  · show outside.territory = _
    rw [h.outside_eq]
    exact (besides_grown hthere.le).symm
  · exact fun realm hrealm => hrealm.elim (fun hown => (h.below realm hown).trans hthere)
      fun hbetween => hbetween.2
  · obtain ⟨rfl, -⟩ := Turn.place_of_made hplace
    have hmine : turn.session.realms = environment :=
      Option.some.inj (hplace.symm.trans hmade)
    exact ⟨hthere, iff_of_true (.inr ⟨Nat.le_refl _, hthere⟩) hmine⟩

/-- The new realm is one outside. -/
theorem make_outside {greater : division.Naming} {reply : Reply engine}
    (h : Beside division budget environment past again inside outside turn.session twin)
    (hadvanced : Advanced division 1 ⟨outside.naming, ∅⟩ greater turn.session twin after behind)
    (hcalls : division.calls after.store = division.calls turn.session.store)
    (hjobs : after.jobs = []) (hafter : turn.after budget = after)
    (hother : turn.made? budget ≠ some environment)
    (htold : division.Told budget environment inside
      (outside.grownTo greater turn.session.realms after.realms) turn reply) :
    Beside division budget environment (past ++ [turn]) (again ++ [reply]) inside
      (outside.grownTo greater turn.session.realms after.realms) after behind := by
  have hboth : division.Alike (outside.grownTo greater turn.session.realms after.realms) after.store
      behind.store := by
    rw [Extent.grownTo, grown_eq_union]
    exact isolates.alike_union (hadvanced.alike_elsewhere isolates h.shared hcalls hadvanced.le)
      hadvanced.shared.alike
  have houtside : Shared division 1 (outside.grownTo greater turn.session.realms after.realms) after
      behind :=
    hadvanced.shared.reach hjobs hboth fun realm hrealm => hrealm.elim
      (fun hbeside => (h.shared.below realm hbeside).trans_le hadvanced.realms_le)
      fun hbetween => hbetween.2
  have hinside : division.Alike inside after.store after.store :=
    isolates.alike_congr h.alike
      (fun realm hown => hadvanced.untouched realm (h.below realm hown) (Set.notMem_empty _))
      (fun realm hown => hadvanced.untouched realm (h.below realm hown) (Set.notMem_empty _))
      hcalls hcalls
  refine h.advance isolates le_rfl (Extent.le_grownTo hadvanced.le) ?_
    (fun realm hown => (h.below realm hown).trans_le hadvanced.realms_le) houtside hinside
    hadvanced.realms_le (fun place hplace => ?_) htold
  · show grown outside.territory _ _ = _
    rw [h.outside_eq]
    exact grown_besides h.below hadvanced.realms_le
  · obtain ⟨rfl, hrealms⟩ := Turn.place_of_made hplace
    rw [hafter] at hrealms
    have hthere : turn.session.realms < after.realms := hrealms ▸ Nat.lt_succ_self _
    refine ⟨hthere, iff_of_false (fun hown => (h.below _ hown).ne rfl) ?_⟩
    rintro rfl
    exact hother hplace

/-- A new environment is made on one side or the other. -/
theorem make {arguments : List String}
    (h : Beside division budget environment past again inside outside turn.session twin)
    (hin : turn.isIn environment = false)
    (hstep : turn.step = .operate (.createEnvironment arguments))
    (hwaiting : turn.session.jobs = []) :
    ∃ beyond, turn.Resumes division budget environment past again outside beyond
      (turn.retaken twin again) := by
  have hself : Shared division 1 inside turn.session turn.session := .self h.alike h.below hwaiting
  cases Turn.parallel_of_makes isolates
    (by exact h.shared : Shared division 1 outside turn.session (turn.retaken twin again).session)
    hstep (Turn.step_retaken_of_makes hstep) hwaiting with
  | halts halt entries heffect hagain => exact ⟨outside, Turn.resumes_of_halted heffect hagain⟩
  | @ends reply other greater entries heffect hagain hadvanced hcalls hreply =>
  have htells := Turn.tells_of_result (congrArg Prod.fst hagain :)
  by_cases hmine : turn.made? budget = some environment
  · have hmade := Turn.made?_eq_some.mp hmine
    obtain rfl : Reply.environment (.ok environment) = reply :=
      Except.ok.inj (hmade.symm.trans (congrArg Prod.fst heffect :))
    have hany : division.Replied (outside.under greater) (.environment (.ok environment))
        other := by
      cases hreply with
      | environment hplace =>
          cases hplace with
          | ok hplace => exact .environment (.ok hplace)
    cases Turn.parallel_of_makes isolates hself hstep rfl hwaiting with
    | halts halt others heffectSelf _ => cases heffect.symm.trans heffectSelf
    | @ends _ _ self _ _ _ hadvancedSelf _ _ =>
        refine ⟨outside.under greater, Extent.le_under hadvanced.le, ?_, fun _ _ hjobs => ?_⟩
        · rw [heffect, hagain]
          exact .ok hany entries
        · rw [htells]
          obtain ⟨hplace, hrealms⟩ := Turn.place_of_made hmine
          rw [hplace] at hrealms
          exact h.make_inside isolates hadvanced.finding hadvancedSelf hcalls hjobs hrealms hmine
            (Turn.told_of_not_isIn hin hmade hany) hwaiting
  · have hgrown : (⟨outside.naming, ∅⟩ : division.Reach).grownTo greater turn.session.realms
          (turn.after budget).realms ≤
        outside.grownTo greater turn.session.realms (turn.after budget).realms :=
      ⟨le_refl greater, fun realm hnew => .inr (hnew.resolve_left (Set.notMem_empty realm))⟩
    have hreplied := isolates.replied_mono hgrown hreply
    refine ⟨outside.grownTo greater turn.session.realms (turn.after budget).realms,
      Extent.le_grownTo hadvanced.le, ?_, fun _ _ hjobs => ⟨inside, ?_⟩⟩
    · rw [heffect, hagain]
      exact .ok hreplied entries
    · rw [htells]
      exact h.make_outside isolates hadvanced.finding hcalls hjobs rfl hmine
        (Turn.told_of_not_isIn hin (congrArg Prod.fst heffect :) hreplied)

/-! ### Any turn -/

/-- A new session is beside itself. -/
theorem start (environment : Realm) (budget : Nat) (options : Options) (profiling : Bool)
    (input : Bytes) (files : Files) (clock : Clock) :
    ∃ inside outside, Beside division budget environment [] [] inside outside
      (Session.start engine options profiling input files clock)
      (Session.start engine options profiling input files clock) := by
  obtain ⟨naming, halike⟩ := isolates.alike_start options
  have hwhole : ({0} : Set Realm) = besides ∅ 1 := by
    refine Set.ext fun (realm : Nat) => ?_
    show realm = 0 ↔ realm < 1 ∧ realm ∉ (∅ : Set Realm)
    simp
  refine ⟨⟨naming, ∅⟩, ⟨naming, {0}⟩, hwhole, ?_, .self halike ?_ rfl, ?_, ?_, .nil⟩
  · exact fun _ hrealm => absurd hrealm (Set.notMem_empty _)
  · rintro realm rfl
    exact Nat.one_pos
  · exact isolates.alike_empty halike
  · exact List.forall_mem_nil _

end Beside

/-! ## All turns -/

namespace Turn

end Turn

end Replay

end ScriptShell
