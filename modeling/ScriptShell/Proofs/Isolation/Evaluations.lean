import ScriptShell.Proofs.Isolation.Confined

/-!
# Evaluations keep to their territory

Whatever the shell has the engine do in a realm of a territory is confined to the territory: running
a source text, the jobs behind it and the reading of what was thrown. How natives are answered
meanwhile is a parameter here (`AnswersWithin`).
-/

namespace ScriptShell

variable {engine : Engine} {division : engine.Division}

/-- Two evaluations came to values that correspond, or to errors that correspond and are reported
alike. -/
inductive Engine.Division.Evaluated (division : engine.Division) (extent : division.Reach) :
    Evaluated engine → Evaluated engine → Prop
  | completed {value other : engine.Value} (hvalue : division.Value extent value other) :
      division.Evaluated extent (.completed value) (.completed other)
  | threw {fault other : engine.Fault} (hfault : division.Fault extent fault other)
      (info : ExceptionInfo) : division.Evaluated extent (.threw fault info) (.threw other info)

namespace Host

variable {α β : Type} {depth : Nat} {extent : division.Reach} {realm : Realm}
  {session twin : Session engine}

/-! ## Basic actions -/

/-- An action that always comes to its end, is not aware of what may differ and leaves the engine
and the jobs alone. -/
theorem Confines.of_change (result : Session engine → α)
    (change : Session engine → Session engine) (gained : Session engine → List Entry)
    {rel : division.Reach → α → α → Prop} {action : Host engine α}
    (hends : ∀ session, Ends action session (result session) (change session))
    (hsame : ∀ session store jobs sampler profile clock history,
      result { session with store, jobs, sampler, profile, clock, history } = result session ∧
        change { session with store, jobs, sampler, profile, clock, history } =
          { change session with
            store, jobs, sampler, profile, clock
            history := (gained session).reverse ++ history })
    (hplace : ∀ session, (change session).realm = session.realm ∧
      (change session).realms = session.realms ∧ (change session).frames = session.frames ∧
      (change session).options = session.options)
    (hvalue : ∀ session, rel extent (result session) (result session)) :
    Confined division depth extent realm rel action := by
  intro session twin hshared _
  obtain ⟨store, jobs, sampler, profile, clock, history, rfl⟩ := hshared.same
  have hchanged := (hsame session session.store session.jobs session.sampler session.profile
    session.clock session.history).2
  obtain ⟨hresult, hchangedTwin⟩ := hsame session store jobs sampler profile clock history
  obtain ⟨hrealm, hrealms, hframes, hoptions⟩ := hplace session
  have hstore : (change session).store = session.store := (congrArg Session.store hchanged :)
  have hafter : Shared division depth extent (change session)
      (change { session with store, jobs, sampler, profile, clock, history }) := by
    refine ⟨⟨_, _, _, _, _, _, hchangedTwin⟩, ?_, fun place hplace => ?_, fun hdepth => ?_, ?_, ?_,
      ?_⟩
    · rw [hchangedTwin, hstore]
      exact hshared.alike
    · rw [hrealms]
      exact hshared.below place hplace
    · rw [hframes] at hdepth
      rw [hchangedTwin, congrArg Session.jobs hchanged]
      exact hshared.ready hdepth
    · rw [hchangedTwin, congrArg Session.sampler hchanged]
      exact hshared.enabled_eq
    · rw [hchangedTwin, congrArg Session.profile hchanged]
      exact hshared.profiling_eq
    · rw [hchangedTwin, congrArg Session.clock hchanged]
      exact hshared.clock
  refine .of_still_ends (gained session) (hends session) (hends _)
    (congrArg Session.history hchanged :) (congrArg Session.history hchangedTwin :) ?_ hrealms
    (by rw [hstore]) (by rw [hresult]; exact hvalue session)
  exact .of_shared hafter hstore (congrArg Session.store hchangedTwin :) hrealms hrealm hframes
    hoptions (congrArg (·.sampler.enabled) hchanged :) (congrArg (·.profile.isSome) hchanged :)

theorem confined_note (entry : Entry) :
    Confined division depth extent realm plain (note entry : Host engine Unit) :=
  .of_change (fun _ => ()) (·.note entry) (fun _ => [entry]) (fun _ => ends_note.mpr rfl)
    (fun _ _ _ _ _ _ _ => ⟨rfl, rfl⟩) (fun _ => ⟨rfl, rfl, rfl, rfl⟩) fun _ => rfl

theorem confined_readLine :
    Confined division depth extent realm plain (readLine : Host engine Bytes) :=
  .of_change (·.input.takeChunk.1.chomp) (·.reading)
    (fun session => [.lineRead session.input.takeChunk.1]) (fun _ => ends_readLine.mpr ⟨rfl, rfl⟩)
    (fun _ _ _ _ _ _ _ => ⟨rfl, rfl⟩) (fun _ => ⟨rfl, rfl, rfl, rfl⟩) fun _ => rfl

theorem confined_readFile (path : String) : Confined division depth extent realm plain
    (readFile path : Host engine (Except IoError Bytes)) :=
  .of_change (fun session => session.files.read path)
    (fun session => session.note (.fileRead path (session.files.read path).isOk))
    (fun session => [.fileRead path (session.files.read path).isOk])
    (fun _ => ends_readFile.mpr ⟨rfl, rfl⟩) (fun _ _ _ _ _ _ _ => ⟨rfl, rfl⟩)
    (fun _ => ⟨rfl, rfl, rfl, rfl⟩) fun _ => rfl

theorem confined_changeFlags (change : SamplingFlags → SamplingFlags) :
    Confined division depth extent realm plain
      (modify fun session => { session with flags := change session.flags } : Host engine PUnit) :=
  .of_change (fun _ => ⟨⟩) (fun session => { session with flags := change session.flags })
    (fun _ => []) (fun _ => ends_modify.mpr rfl) (fun _ _ _ _ _ _ _ => ⟨rfl, rfl⟩)
    (fun _ => ⟨rfl, rfl, rfl, rfl⟩) fun _ => rfl

/-- A look at the clock, but for one that times a window. -/
theorem confined_now {look : Look} (hlook : look ≠ .window) :
    Confined division depth extent realm plain (now look : Host engine Nat) := by
  intro session twin hshared _
  have hlooked : Shared division depth extent (session.looked look) (twin.looked look) := by
    obtain ⟨store, jobs, sampler, profile, clock, history, rfl⟩ := hshared.same
    exact { hshared with
      same := ⟨store, jobs, sampler, profile, _, history, rfl⟩
      clock := hshared.clock.looked look }
  exact .of_still_ends [] (ends_now.mpr ⟨rfl, rfl⟩) (ends_now.mpr ⟨rfl, rfl⟩) rfl rfl
    (.of_shared hlooked rfl rfl rfl rfl rfl rfl rfl rfl) rfl rfl (hshared.clock.instant_eq hlook)

theorem confined_elapsedSince {look : Look} (hlook : look ≠ .window) (instant : Nat) :
    Confined division depth extent realm plain
      (elapsedSince look instant : Host engine Duration) :=
  (confined_now hlook).bind fun _ _ _ _ hvalue => .pure (by rw [plain, hvalue])

theorem confined_timeOfDay :
    Confined division depth extent realm plain (timeOfDay : Host engine (Option Nat)) := by
  intro session twin hshared _
  have hread : Shared division depth extent session.dayRead twin.dayRead := by
    obtain ⟨store, jobs, sampler, profile, clock, history, rfl⟩ := hshared.same
    exact { hshared with
      same := ⟨store, jobs, sampler, profile, _, history, rfl⟩
      clock := hshared.clock.dayRead }
  exact .of_still_ends [] (ends_timeOfDay.mpr ⟨rfl, rfl⟩) (ends_timeOfDay.mpr ⟨rfl, rfl⟩) rfl rfl
    (.of_shared hread rfl rfl rfl rfl rfl rfl rfl rfl) rfl rfl hshared.clock.day_eq

/-- What waits is dropped in both sessions. -/
theorem confined_dropJobs : Confined division depth extent realm plain
    (modify fun session => { session with jobs := [] } : Host engine PUnit) := by
  intro session twin hshared _
  have hdropped : Shared division depth extent { session with jobs := [] }
      { twin with jobs := [] } := by
    obtain ⟨store, jobs, sampler, profile, clock, history, rfl⟩ := hshared.same
    exact { hshared with
      same := ⟨store, [], sampler, profile, clock, history, rfl⟩
      ready := fun _ => .nil }
  exact .of_still_ends [] (ends_modify.mpr rfl) (ends_modify.mpr rfl) rfl rfl
    (.of_shared hdropped rfl rfl rfl rfl rfl rfl rfl rfl) rfl rfl (Eq.refl PUnit.unit)

/-- Records are kept where profiling is on, which is the same in both sessions. -/
theorem confined_record (record : ProfileRecord) :
    Confined division depth extent realm plain (Host.record record : Host engine Unit) := by
  intro session twin hshared _
  obtain ⟨store, jobs, sampler, profile, clock, history, rfl⟩ := hshared.same
  have hprofiling : profile.isSome = session.profile.isSome := hshared.profiling_eq
  have hkept : Session.kept { session with store, jobs, sampler, profile, clock, history } record =
      session.kept record := by
    unfold Session.kept
    cases hprofile : session.profile <;> cases profile <;> simp_all
  refine .of_still_ends ((session.kept record).map Entry.recorded).toList (ends_record.mpr rfl)
    (ends_record.mpr rfl) ?_ ?_ ?_ rfl rfl (Eq.refl ())
  · cases hprofile : session.kept record <;> simp [Session.recording, hprofile]
  · simp only [Session.recording, hkept]
    cases session.kept record <;> rfl
  · refine .of_shared ⟨⟨_, _, _, _, _, _, rfl⟩, hshared.alike, hshared.below, hshared.ready,
      hshared.enabled_eq, ?_, hshared.clock⟩ rfl rfl rfl rfl rfl rfl rfl ?_
    · simpa [Session.recording] using hprofiling
    · simp [Session.recording]

/-- An action in a frame of its own. -/
theorem confines_withFrame {rel : division.Reach → α → α → Prop} {action other : Host engine α}
    (frame : String) (haction : Confines division (depth + 1) extent realm rel action other) :
    Confines division depth extent realm rel (withFrame frame action) (withFrame frame other) := by
  intro session twin hshared hrealm
  have hentered : Shared division (depth + 1) extent (session.entering frame)
      (twin.entering frame) := by
    obtain ⟨store, jobs, sampler, profile, clock, history, rfl⟩ := hshared.same
    exact { hshared with
      same := ⟨store, jobs, sampler, profile, clock, _, rfl⟩
      ready := fun hdepth => hshared.ready (Nat.lt_of_succ_lt_succ hdepth) }
  have hbegins (action : Host engine α) (session : Session engine) :
      (withFrame frame action).outcome session =
        (action >>= fun result => leave >>= fun _ => pure result).outcome
          (session.entering frame) :=
    outcome_bind_of_ends (ends_enter.mpr rfl : Ends (enter frame) _ () _)
  cases haction hentered hrealm with
  | @ends value valueOther after behind naming gained hfirst hsecond hhistory hhistoryTwin hadvanced
      hcalls hvalue =>
      have hleave {value : α} {last : Session engine} {frames : List String}
          (hframes : last.frames = frame :: frames) :
          (leave >>= fun _ => pure value).outcome last = (.ok value, last.leaving frame) :=
        outcome_bind_of_ends ((ends_leave hframes).mpr rfl : Ends leave _ () _)
      have hframes : after.frames = frame :: session.frames := hadvanced.frames_eq
      have hends : Ends (withFrame frame action) session value (after.leaving frame) := by
        rw [Ends, hbegins, outcome_bind_of_ends hfirst, hleave hframes]
      have hendsTwin : Ends (withFrame frame other) twin valueOther (behind.leaving frame) := by
        rw [Ends, hbegins, outcome_bind_of_ends hsecond,
          hleave (hadvanced.shared.frames_eq.trans hframes)]
      refine .ends (.entered frame :: (gained ++ [.left frame])) hends hendsTwin ?_ ?_
        hadvanced.inFrame hcalls hvalue
      · simp [hhistory, Session.entering, Session.leaving]
      · simp [hhistoryTwin, Session.entering, Session.leaving]
  | @halts halt after behind gained hfirst hsecond hhistory hhistoryTwin =>
      have hcut : (withFrame frame action).outcome session = (.error halt, after) := by
        rw [hbegins, outcome_bind, hfirst]
      have hcutTwin : (withFrame frame other).outcome twin = (.error halt, behind) := by
        rw [hbegins, outcome_bind, hsecond]
      refine .halts (.entered frame :: gained) hcut hcutTwin ?_ ?_
      · simp [hhistory, Session.entering]
      · simp [hhistoryTwin, Session.entering]

/-! ## Following the engine -/

theorem outcome_setStore_bind (store : engine.Store) (next : Unit → Host engine α)
    (session : Session engine) : (setStore store >>= next).outcome session =
      (next ()).outcome { session with store := store } :=
  rfl

section Isolated

variable (isolates : Engine.Isolates division)

include isolates

theorem confines_thrownValue {fault other : engine.Fault} (hrealm : realm ∈ extent.territory)
    (hfault : division.Fault extent fault other) :
    Confines division depth extent realm division.Value (thrownValue fault)
      (thrownValue other) := by
  rintro session twin hshared rfl
  obtain ⟨naming, hreturn, hvalue⟩ := isolates.thrown hrealm hfault hshared.alike
  have hends : Ends (thrownValue other) twin
      (engine.thrown session.realm other twin.store).1
      { twin with store := (engine.thrown session.realm other twin.store).2 } := by
    rw [← hshared.realm_eq]
    exact ends_thrownValue.mpr ⟨rfl, rfl⟩
  refine .ends [] (ends_thrownValue.mpr ⟨rfl, rfl⟩) hends rfl rfl
    (.withStore hshared isolates hreturn.toStep) hreturn.calls_eq ?_
  rw [Extent.grownTo_self]
  exact hvalue

/-- The engine's own rendering of a value is the same in both sessions. -/
theorem confines_display {next : String → Host engine β} {last : division.Reach → β → β → Prop}
    {value other : engine.Value} (hvalue : division.Value extent value other)
    (hnext : ∀ text, Confined division depth extent realm last (next text)) :
    Confines division depth extent realm last
      (get >>= fun session => next (engine.display value session.store))
      (get >>= fun session => next (engine.display other session.store)) := by
  intro session twin hshared hrealm
  -- a text does not tell what an object is called
  refine .get_bind ?_
  rw [isolates.display_eq hvalue hshared.alike]
  exact hnext _ hshared hrealm

end Isolated

/-- Calls of natives that belong to realms of a territory are answered within it. -/
def AnswersWithin (division : engine.Division) (depth : Nat) (answer : Answer engine) : Prop :=
  ∀ (extent : division.Reach) (owner : Realm) (native : Native)
    (arguments others : List engine.Value) (realm : Realm), owner ∈ extent.territory →
    List.Forall₂ (division.Value extent) arguments others →
    Confines division depth extent realm (division.Result division.Value)
      (answer owner native arguments).run (answer owner native others).run

section Followed

variable {answer : Answer engine} (hanswer : AnswersWithin division depth answer)
  (isolates : Engine.Isolates division)

include hanswer isolates

/-- Two behaviours in step are followed alike. -/
theorem confinedAt_perform {calls : division.Calls} {rel : division.Reach → α → α → Prop}
    {store other : engine.Store} {behaviour behaviourOther : engine.Acts α}
    (hstep : division.InStep calls rel extent store other behaviour behaviourOther)
    (hshared : Shared division depth extent session twin) (hstore : session.store = store)
    (hother : twin.store = other) :
    ConfinedAt division depth calls extent (division.Result rel)
      (perform answer behaviour).run (perform answer behaviourOther).run session twin := by
  -- on the behaviours in step, with sessions that hold what the engine is given next
  induction hstep generalizing session twin with
  | @finish extent naming _ _ after behind result resultOther hstep hcalls hresult =>
      subst hstore hother
      refine .ends [] rfl rfl rfl rfl (.withStore hshared isolates hstep) hcalls ?_
      rw [Extent.grownTo_self]
      exact hresult
  | @native extent naming _ _ after behind owner callee arguments others resume resumeOther hstep
      howner harguments hresume ih =>
      subst hstore hother
      have hthere := hshared.withStore isolates hstep.le hstep.alike
      refine .of_still [] (outcome_setStore_bind ..) (outcome_setStore_bind ..) rfl rfl
        (.withStore hshared isolates hstep) rfl ?_
      -- the native may have enlarged the territory, in which the behaviours go on
      refine (hanswer (extent.under naming) owner callee arguments others session.realm howner
        harguments hthere
        rfl).bind fun _ answer answerOther left leftTwin hadvanced hcalls hresult => ?_
      exact .get_bind (ih _ _ _ answer answerOther hadvanced.le_grownTo hadvanced.shared.alike
        hcalls hresult hadvanced.shared rfl rfl)
  | @enqueue extent naming _ _ after behind job jobOther resume resumeOther hstep hjob hresume ih =>
      subst hstore hother
      refine .of_still [] (outcome_setStore_bind ..) (outcome_setStore_bind ..) rfl rfl
        (.withStore hshared isolates hstep) rfl ?_
      have hqueued := (hshared.withStore isolates hstep.le hstep.alike).queueing hjob
      have hqueue (job : engine.Job) (session : Session engine) :
          Ends (queueJob job) session () (session.queueing job) :=
        ends_queueJob.mpr rfl
      refine .of_still [.queued session.jobCount] (outcome_bind_of_ends (hqueue ..))
        (outcome_bind_of_ends (hqueue ..)) rfl ?_
        (.of_shared hqueued rfl rfl rfl rfl rfl rfl rfl rfl) rfl (ih hqueued rfl rfl)
      obtain ⟨_, _, _, _, _, _, rfl⟩ := hshared.same
      rfl
  | exhausted => exact .throw .exhausted

theorem confines_act {rel : division.Reach → α → α → Prop}
    {operation operationOther : Realm → engine.Store → engine.Acts α}
    (hrealm : realm ∈ extent.territory)
    (hkeeps : division.Keeps rel extent operation operationOther) :
    Confines division depth extent realm (division.Result rel)
      (act answer operation).run (act answer operationOther).run := by
  rintro session twin hshared rfl
  refine .get_bind ?_
  rw [hshared.realm_eq]
  exact confinedAt_perform hanswer isolates (hkeeps _ hrealm _ _ hshared.alike) hshared rfl rfl

theorem confines_toText {value other : engine.Value} (hrealm : realm ∈ extent.territory)
    (hvalue : division.Value extent value other) :
    Confines division depth extent realm (division.Result plain)
      (toText answer value).run (toText answer other).run :=
  confines_act hanswer isolates hrealm (isolates.toText hvalue)

theorem confines_stringify {value other : engine.Value} (hrealm : realm ∈ extent.territory)
    (hvalue : division.Value extent value other) :
    Confines division depth extent realm plain (stringify answer value)
      (stringify answer other) := by
  refine (confines_toText hanswer isolates hrealm hvalue).bind
    fun greater result resultOther hgreater hresult => ?_
  cases hresult with
  | ok htext => exact .pure htext
  | error hfault =>
      exact confines_display isolates (isolates.value_mono hgreater hvalue) fun _ => .pure rfl

theorem confines_stackText {value other : engine.Value} (hrealm : realm ∈ extent.territory)
    (hvalue : division.Value extent value other) :
    Confines division depth extent realm plain (stackText answer value)
      (stackText answer other) := by
  unfold stackText
  rw [isolates.isObject_eq hvalue]
  split
  · refine (confines_act hanswer isolates hrealm (isolates.stack hvalue)).bind
      fun greater result resultOther hgreater hresult => ?_
    cases hresult with
    | error hfault => exact .pure rfl
    | @ok stack stackOther hstack =>
        show Confines division depth greater realm plain
          (if engine.isNullish stack then _ else _) (if engine.isNullish stackOther then _ else _)
        rw [isolates.isNullish_eq hstack]
        split
        · exact .pure rfl
        · exact (confines_stringify hanswer isolates (Extent.mem_of_le hgreater hrealm) hstack).bind
            fun _ _ _ _ htext => .pure (congrArg some htext)
  · exact .pure rfl

theorem confines_exceptionInfo {fault other : engine.Fault} (hrealm : realm ∈ extent.territory)
    (hfault : division.Fault extent fault other) :
    Confines division depth extent realm plain (exceptionInfo answer fault)
      (exceptionInfo answer other) := by
  unfold exceptionInfo
  rw [isolates.limitText_eq hfault]
  split
  · exact .pure rfl
  · refine (confines_thrownValue isolates hrealm hfault).bind
      fun thrown value valueOther hthrown hvalue => ?_
    have hhere := Extent.mem_of_le hthrown hrealm
    refine (confines_stringify hanswer isolates hhere hvalue).bind
      fun told message messageOther htold hmessage => ?_
    obtain rfl : messageOther = message := hmessage
    refine (confines_stackText hanswer isolates (Extent.mem_of_le htold hhere)
      (isolates.value_mono htold hvalue)).bind fun _ stack stackOther _ hstack => ?_
    obtain rfl : stackOther = stack := hstack
    cases stackOther with
    | none => exact .pure rfl
    | some stack => exact .pure rfl

theorem confines_evaluated {result other : Except engine.Fault engine.Value}
    (hrealm : realm ∈ extent.territory)
    (hresult : division.Result division.Value extent result other) :
    Confines division depth extent realm division.Evaluated (evaluated answer result)
      (evaluated answer other) := by
  cases hresult with
  | ok hvalue => exact .pure (.completed hvalue)
  | error hfault =>
      refine (confines_exceptionInfo hanswer isolates hrealm hfault).bind
        fun greater info infoOther hgreater hinfo => ?_
      obtain rfl : infoOther = info := hinfo
      exact .pure (.threw (isolates.fault_mono hgreater hfault) infoOther)

theorem confined_runSource (source : String) (hrealm : realm ∈ extent.territory) :
    Confined division depth extent realm (division.Result division.Value)
      (runSource answer source).run := by
  have hparsed (options : Options) : Confined division depth extent realm
      (division.Result division.Value) (runParsed answer (engine.parse options source)) := by
    cases hparse : engine.parse options source with
    | ok code => exact confines_act hanswer isolates hrealm (isolates.evaluate extent code)
    | error fault => exact .pure (.error (isolates.fault_parse extent hparse))
  rw [runSource_eq]
  exact .get_bind (·.options) (fun _ _ hshared => hshared.options_eq) hparsed

/-! ### Jobs -/

/-- No job is taken in both sessions, or two that correspond. -/
inductive Taken (division : engine.Division) (extent : division.Reach) :
    Option (Nat × engine.Job) → Option (Nat × engine.Job) → Prop
  | none : Taken division extent none none
  | some (number : Nat) {job other : engine.Job} (hjob : division.Job extent job other) :
      Taken division extent (some (number, job)) (some (number, other))

omit hanswer isolates in
theorem taken_head? {jobs others : List (Nat × engine.Job)}
    (h : List.Forall₂ (division.Waiting extent) jobs others) :
    Taken division extent jobs.head? others.head? := by
  cases h with
  | nil => exact .none
  | @cons job other jobs others hjob hrest =>
      obtain ⟨number, job⟩ := job
      obtain ⟨_, other⟩ := other
      obtain ⟨rfl, hjob⟩ := hjob
      exact .some _ hjob

omit hanswer isolates in
theorem confinedAt_takeJob (hshared : Shared division depth extent session twin)
    (hframes : session.frames.length < depth) :
    ConfinedAt division depth (division.calls session.store) extent (Taken division) takeJob
      takeJob session twin := by
  have hready := hshared.ready hframes
  have hafter : Shared division depth extent { session with jobs := session.jobs.tail }
      { twin with jobs := twin.jobs.tail } := by
    obtain ⟨store, jobs, sampler, profile, clock, history, rfl⟩ := hshared.same
    exact { hshared with
      same := ⟨store, jobs.tail, sampler, profile, clock, history, rfl⟩
      ready := fun _ => by simpa using List.forall₂_drop 1 hready }
  exact .of_still_ends [] (ends_takeJob.mpr ⟨rfl, rfl⟩) (ends_takeJob.mpr ⟨rfl, rfl⟩) rfl rfl
    (.of_shared hafter rfl rfl rfl rfl rfl rfl rfl rfl) rfl rfl (taken_head? hready)

/-- Where the waiting jobs are those of the territory, running them is confined to it. -/
theorem confinedAt_drain (bound : Nat) (hrealm : session.realm ∈ extent.territory)
    (hshared : Shared division depth extent session twin)
    (hframes : session.frames.length < depth) :
    ConfinedAt division depth (division.calls session.store) extent plain (drain answer bound)
      (drain answer bound) session twin := by
  -- on the bound; a job may enlarge the territory for those behind it
  induction bound generalizing extent session twin with
  | zero =>
      have hempty {jobs others : List (Nat × engine.Job)}
          (h : List.Forall₂ (division.Waiting extent) jobs others) :
          others.isEmpty = jobs.isEmpty := by
        cases h <;> rfl
      refine .get_bind ?_
      rw [hempty (hshared.ready hframes)]
      split
      · exact .pure hshared rfl
      · exact .throw .exhausted
  | succ bound ih =>
      refine (confinedAt_takeJob hshared hframes).bind
        fun _ taken takenOther left leftTwin hleft hcalls htaken => ?_
      rw [← hcalls]
      cases htaken with
      | none => exact .pure hleft.shared rfl
      | some number hjob =>
          have hrealmLeft := hleft.realm_mem hrealm
          refine (confined_note (.started number) hleft.shared rfl).bind
            fun _ _ _ begun begunTwin hbegun hcallsBegun _ => ?_
          rw [← hcallsBegun]
          refine (confines_act hanswer isolates (hbegun.realm_mem hrealmLeft)
            (isolates.runJob (isolates.job_mono hbegun.le_grownTo hjob)) hbegun.shared
            rfl).bind fun _ result resultOther ran ranTwin hran hcallsRan hresult => ?_
          rw [← hcallsRan]
          have hrealmRan := hran.realm_mem (hbegun.realm_mem hrealmLeft)
          cases hresult with
          | ok _ =>
              refine (confined_note (.settled number) hran.shared rfl).bind
                fun _ _ _ settled settledTwin hsettled hcallsSettled _ => ?_
              rw [← hcallsSettled]
              exact ih (hsettled.realm_mem hrealmRan) hsettled.shared
                (hsettled.frames_lt (hran.frames_lt (hbegun.frames_lt (hleft.frames_lt hframes))))
          | error _ =>
              -- a job that fails takes those behind it along, in both sessions
              refine (confined_note (.interrupted number) hran.shared rfl).bind
                fun _ _ _ noted notedTwin hnoted hcallsNoted _ => ?_
              rw [← hcallsNoted]
              exact confined_dropJobs hnoted.shared rfl

/-- Only where no more than one frame is open does an evaluation run the waiting jobs. -/
theorem confined_drainOutermost (bound : Nat) (hdepth : 1 < depth)
    (hrealm : realm ∈ extent.territory) :
    Confined division depth extent realm plain (drainOutermost answer bound) := by
  rintro session twin hshared rfl
  refine .get_bind ?_
  rw [hshared.frames_eq]
  split
  · exact confinedAt_drain hanswer isolates bound hrealm hshared (by omega)
  · exact .pure hshared rfl

end Followed

/-! ### Evaluations -/

section Evaluated

variable {answer : Answer engine} (hanswer : AnswersWithin division (depth + 1) answer)
  (isolates : Engine.Isolates division)

include hanswer isolates

theorem confined_evaluate (bound : Nat) (source name : String) (hdepth : 0 < depth)
    (hrealm : realm ∈ extent.territory) :
    Confined division depth extent realm division.Evaluated
      (evaluate answer bound source name) := by
  have hlook : Look.evaluation ≠ .window := by decide
  refine confines_withFrame name <| (confined_now hlook).bind
    fun began _ instant hbegan hinstant => ?_
  obtain rfl := hinstant
  have hhere := Extent.mem_of_le hbegan hrealm
  refine (confined_runSource hanswer isolates source hhere).bind
    fun ran result resultOther hran hresult => ?_
  have hthere := Extent.mem_of_le hran hhere
  refine (confined_drainOutermost hanswer isolates bound (Nat.succ_lt_succ hdepth) hthere).bind
    fun drained _ _ hdrained _ => ?_
  refine (confined_elapsedSince hlook instant).bind fun timed _ elapsed htimed helapsed => ?_
  obtain rfl := helapsed
  have hok : resultOther.isOk = result.isOk := by
    cases hresult with
    | ok _ => rfl
    | error _ => rfl
  rw [hok]
  refine (confined_record _).bind fun recorded _ _ hrecorded _ => ?_
  -- what the source text came to is still known where the exception is read
  have hkept : ran ≤ recorded := (hdrained.trans htimed).trans hrecorded
  exact confines_evaluated hanswer isolates (Extent.mem_of_le hkept hthere)
    (isolates.result_mono (fun _ _ => isolates.value_mono hkept) hkept hresult)

theorem confined_checkSyntax (source name : String) (hrealm : realm ∈ extent.territory) :
    Confined division depth extent realm division.Evaluated
      (checkSyntax answer source name) := by
  have hlook : Look.evaluation ≠ .window := by decide
  refine confines_withFrame name <| (confined_now hlook).bind
    fun began _ instant hbegan hinstant => ?_
  obtain rfl := hinstant
  have hchecked (options : Options) : Confined division (depth + 1) began realm
      division.Evaluated (do
        let result := (engine.parse options source).map fun _ => engine.undefined
        Host.record ⟨name, .checkSyntax, ← elapsedSince .evaluation instant, !result.isOk⟩
        evaluated answer result) := by
    refine (confined_elapsedSince hlook instant).bind fun timed _ elapsed htimed helapsed => ?_
    obtain rfl := helapsed
    refine (confined_record _).bind fun recorded _ _ hrecorded _ => ?_
    refine confines_evaluated hanswer isolates
      (Extent.mem_of_le hrecorded (Extent.mem_of_le htimed (Extent.mem_of_le hbegan hrealm))) ?_
    cases hparse : engine.parse options source with
    | ok code => exact .ok (isolates.value_undefined recorded)
    | error fault => exact .error (isolates.fault_parse recorded hparse)
  exact .get_bind (·.options) (fun _ _ hshared => hshared.options_eq) hchecked

end Evaluated

end Host

end ScriptShell
