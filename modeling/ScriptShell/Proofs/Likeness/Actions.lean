import ScriptShell.Proofs.Likeness.Sessions
import ScriptShell.Proofs.Session.Loading
import ScriptShell.Proofs.Session.Parallel

/-!
# Script code that works alike

Where a likeness is sound, everything that the shell has the engines do is paired: the conversions
and the report of something thrown, jobs, evaluations and syntax checks, and the calls of natives
at every depth (`Likeness.pairs_answer`). The budgets of the two sessions may be different ones. If
the second session is to give up only where the first one does, its budget must not be the smaller
one.
-/

namespace ScriptShell

variable {one two : Engine} {α β : Type}

/-- Two evaluations completed with values that correspond, or threw errors that do and of which the
same is reported. -/
inductive Likeness.Outcome (likeness : Likeness one two) : Evaluated one → Evaluated two → Prop
  | completed {value : one.Value} {other : two.Value} (hvalue : likeness.Value value other) :
      Outcome likeness (.completed value) (.completed other)
  | threw {fault : one.Fault} {other : two.Fault} (hfault : likeness.Fault fault other)
      (info : ExceptionInfo) : Outcome likeness (.threw fault info) (.threw other info)

theorem Likeness.Outcome.toExcept {likeness : Likeness one two} {outcome : Evaluated one}
    {other : Evaluated two} (h : likeness.Outcome outcome other) :
    likeness.Result likeness.Value outcome.toExcept other.toExcept := by
  cases h with
  | completed hvalue => exact .ok hvalue
  | threw hfault info => exact .error hfault

namespace Likeness

open Host

variable {likeness : Likeness one two} {offset : Offset}

/-! ## Natives that are answered in some way -/

section Answered

/-! Natives are answered in two ways that are paired. -/

variable {answer : ScriptShell.Answer one} {reply : ScriptShell.Answer two}
  (hsound : likeness.Sound)
  (hanswer : ∀ (offset : Offset) realm native ⦃arguments others⦄,
    List.Forall₂ likeness.Value arguments others →
      likeness.Pairs offset (likeness.Result likeness.Value) (answer realm native arguments).run
        (reply realm native others).run)

section Following

include hanswer

/-- Behaviours that are in step are followed side by side. -/
theorem pairs_perform {rel : α → β → Prop} {behaviour : one.Acts α} {other : two.Acts β}
    (h : likeness.InStep rel behaviour other) :
    likeness.Pairs offset (likeness.Result rel) (perform answer behaviour).run
      (perform reply other).run := by
  induction h with
  | finish hstore hresult => exact (pairs_setStore hstore).bind fun _ _ _ => .pure hresult
  | @native store other realm callee arguments others resume resumeOther hstore harguments hresume
      ih =>
      refine (pairs_setStore hstore).bind fun _ _ _ => ?_
      refine (hanswer offset realm callee harguments).bind fun given givenOther hgiven => ?_
      exact .look fun session twin hcoupled => ih hcoupled.store hgiven
  | enqueue hstore hjob hresume ih =>
      refine (pairs_setStore hstore).bind fun _ _ _ => (pairs_queueJob hjob).bind fun _ _ _ => ?_
      exact ih hstore
  | gaveUp behaviour => exact .gaveUp _
  | otherGaveUp behaviour hfaithful => exact .otherGaveUp _ hfaithful

theorem pairs_act {rel : α → β → Prop} {operation : Realm → one.Store → one.Acts α}
    {other : Realm → two.Store → two.Acts β}
    (h : ∀ realm ⦃store storeOther⦄, likeness.Store store storeOther →
      likeness.InStep rel (operation realm store) (other realm storeOther)) :
    likeness.Pairs offset (likeness.Result rel) (act answer operation).run
      (act reply other).run := by
  refine .look fun session twin hcoupled => ?_
  rw [hcoupled.realm_eq]
  exact pairs_perform hanswer (h session.realm hcoupled.store)

end Following

include hsound hanswer

/-! ### Values as text -/

theorem pairs_toText {value : one.Value} {other : two.Value} (hvalue : likeness.Value value other) :
    likeness.Pairs offset (likeness.Result Eq) (toText answer value).run
      (toText reply other).run :=
  pairs_act hanswer fun realm _ _ hstore => hsound.toText realm hvalue hstore

theorem pairs_stringify {value : one.Value} {other : two.Value}
    (hvalue : likeness.Value value other) :
    likeness.Pairs offset Eq (stringify answer value) (stringify reply other) := by
  refine (pairs_toText hsound hanswer hvalue).bind fun result given hresult => ?_
  cases hresult with
  | ok htext => exact .pure htext
  | error hfault =>
      refine .look fun session twin hcoupled => .pure ?_
      rw [hsound.display_eq hvalue hcoupled.store]

theorem pairs_stackText {value : one.Value} {other : two.Value}
    (hvalue : likeness.Value value other) :
    likeness.Pairs offset Eq (stackText answer value) (stackText reply other) := by
  unfold stackText
  rw [hsound.isObject_eq hvalue]
  split
  · refine (pairs_act hanswer fun realm _ _ hstore => hsound.stack realm hvalue hstore).bind
      fun result given hresult => ?_
    cases hresult with
    | @ok stack stackOther hstack =>
        show likeness.Pairs offset Eq (if one.isNullish stack then _ else _)
          (if two.isNullish stackOther then _ else _)
        rw [hsound.isNullish_eq hstack]
        split
        · exact .pure rfl
        · refine (pairs_stringify hsound hanswer hstack).bind fun text textOther htext => .pure ?_
          rw [htext]
    | error hfault => exact .pure rfl
  · exact .pure rfl

omit hanswer in
theorem pairs_thrownValue {fault : one.Fault} {other : two.Fault}
    (hfault : likeness.Fault fault other) :
    likeness.Pairs offset likeness.Value (thrownValue fault) (thrownValue other) := by
  intro session twin hcoupled
  obtain ⟨hvalue, hstore⟩ := hsound.thrown session.realm hfault hcoupled.store
  rw [← hcoupled.realm_eq] at hvalue hstore
  exact .of_ends _ _ (ends_thrownValue.mpr ⟨rfl, rfl⟩) (ends_thrownValue.mpr ⟨rfl, rfl⟩)
    (hcoupled.realm_eq ▸ hvalue) (hcoupled.withStore (hcoupled.realm_eq ▸ hstore))
    (.none rfl rfl rfl rfl rfl rfl)

theorem pairs_exceptionInfo {fault : one.Fault} {other : two.Fault}
    (hfault : likeness.Fault fault other) :
    likeness.Pairs offset Eq (exceptionInfo answer fault) (exceptionInfo reply other) := by
  unfold exceptionInfo
  rw [hsound.limitText_eq hfault]
  cases one.limitText? fault with
  | some text => exact .pure rfl
  | none =>
      refine (pairs_thrownValue hsound hfault).bind fun value given hvalue => ?_
      refine (pairs_stringify hsound hanswer hvalue).bind fun message messageOther hmessage => ?_
      subst hmessage
      refine (pairs_stackText hsound hanswer hvalue).bind fun stack stackOther hstack => ?_
      subst hstack
      cases stack with
      | none => exact .pure rfl
      | some stack => exact .pure rfl

theorem pairs_evaluated {result : Except one.Fault one.Value} {given : Except two.Fault two.Value}
    (hresult : likeness.Result likeness.Value result given) :
    likeness.Pairs offset likeness.Outcome (evaluated answer result) (evaluated reply given) := by
  cases hresult with
  | ok hvalue => exact .pure (.completed hvalue)
  | error hfault =>
      refine (pairs_exceptionInfo hsound hanswer hfault).bind fun info infoOther hinfo => ?_
      subst hinfo
      exact .pure (.threw hfault info)

/-! ### Jobs -/

omit hsound hanswer in
theorem ends_drain_nil {engine : Engine} {answer : ScriptShell.Answer engine} (bound : Nat)
    {session : Session engine} (hjobs : session.jobs = []) :
    Ends (drain answer bound) session () session := by
  cases bound with
  | zero =>
      refine ends_get_bind.mpr ?_
      rw [hjobs]
      exact ends_pure.mpr ⟨rfl, rfl⟩
  | succ bound =>
      refine ends_bind.mpr ⟨none, session, ends_takeJob.mpr ⟨by rw [hjobs, List.head?_nil], ?_⟩,
        ends_pure.mpr ⟨rfl, rfl⟩⟩
      rw [hjobs, List.tail_nil, ← hjobs]

omit hsound hanswer in
theorem halts_drain_zero {engine : Engine} {answer : ScriptShell.Answer engine}
    {session : Session engine} (hjobs : session.jobs ≠ []) :
    Halts (drain answer 0) session .exhausted session := by
  unfold drain
  rw [halts_bind_of_ends (ends_get.mpr ⟨rfl, rfl⟩), if_neg (by simpa using hjobs)]
  rfl

theorem pairs_drain {bound limit : Nat} (hbound : likeness.faithful → bound ≤ limit) :
    likeness.Pairs offset Eq (drain answer bound) (drain reply limit) := by
  induction bound generalizing limit with
  | zero =>
      intro session twin hcoupled
      by_cases hjobs : session.jobs = []
      · have hothers : twin.jobs = [] := by
          have hwaiting := hcoupled.jobs
          rwa [hjobs, List.forall₂_nil_left_iff] at hwaiting
        exact .of_ends () () (ends_drain_nil 0 hjobs) (ends_drain_nil limit hothers) rfl hcoupled
          (.refl _ _)
      · rw [show (drain answer 0).outcome session = _ from halts_drain_zero hjobs]
        exact .gaveUp _ _
  | succ bound ih =>
      cases limit with
      | zero =>
          intro session twin hcoupled
          by_cases hjobs : twin.jobs = []
          · have hothers : session.jobs = [] := by
              have hwaiting := hcoupled.jobs
              rwa [hjobs, List.forall₂_nil_right_iff] at hwaiting
            exact .of_ends () () (ends_drain_nil _ hothers) (ends_drain_nil 0 hjobs) rfl hcoupled
              (.refl _ _)
          · rw [show (drain reply 0).outcome twin = _ from halts_drain_zero hjobs]
            exact .otherGaveUp _ _ fun hfaithful =>
              absurd (hbound hfaithful) (Nat.not_succ_le_zero _)
      | succ limit =>
          refine pairs_takeJob.bind fun taken takenOther htaken => ?_
          cases htaken with
          | none => exact .pure rfl
          | @some first other hwaiting =>
              obtain ⟨number, job⟩ := first
              obtain ⟨numberOther, jobOther⟩ := other
              obtain ⟨rfl, hjob⟩ := hwaiting
              refine (pairs_note _).bind fun _ _ _ => ?_
              refine (pairs_act hanswer fun realm _ _ hstore =>
                hsound.runJob realm hjob hstore).bind fun result given hresult => ?_
              cases hresult with
              | ok hdone =>
                  refine (pairs_note _).bind fun _ _ _ => ih fun hfaithful => ?_
                  exact Nat.le_of_succ_le_succ (hbound hfaithful)
              | error hfault =>
                  exact (pairs_note _).bind fun _ _ _ => pairs_dropJobs

theorem pairs_drainOutermost {bound limit : Nat} (hbound : likeness.faithful → bound ≤ limit)
    (hlength : offset.frames.length = 1 ↔ offset.others.length = 1) :
    likeness.Pairs offset Eq (drainOutermost answer bound) (drainOutermost reply limit) := by
  refine .look fun session twin hcoupled => ?_
  rw [hcoupled.frames_eq, hcoupled.others_eq]
  by_cases honly : offset.frames.length = 1
  · rw [if_pos honly, if_pos (hlength.mp honly)]
    exact pairs_drain hsound hanswer hbound
  · rw [if_neg honly, if_neg (mt hlength.mpr honly)]
    exact .pure rfl

/-! ### Source text -/

theorem pairs_runSource (source : String) :
    likeness.Pairs offset (likeness.Result likeness.Value) (runSource answer source).run
      (runSource reply source).run := by
  rw [runSource_eq, runSource_eq]
  refine .look fun session twin hcoupled => ?_
  rw [hcoupled.options_eq]
  have hparsed := hsound.parse session.options source
  generalize one.parse session.options source = parsed at hparsed ⊢
  generalize two.parse session.options source = parsedOther at hparsed ⊢
  cases hparsed with
  | ok hruns => exact pairs_act hanswer hruns
  | error hfault => exact .pure (.error hfault)

omit hsound hanswer in
/-- Inside a frame both sessions have one frame open, or neither has. -/
theorem Coupled.length_inside {session : Session one} {twin : Session two}
    (h : likeness.Coupled offset session twin) (name : String) :
    (offset.inside name).frames.length = 1 ↔ (offset.inside name).others.length = 1 := by
  simpa [Offset.inside] using h.outermost

/-- The same is recorded and reported of what corresponds. -/
theorem pairs_recorded (name : String) (kind : EvaluationKind) {began later : Nat}
    (hbegan : Look.evaluation = .call ∨ likeness.faithful → later = began)
    {result : Except one.Fault one.Value} {given : Except two.Fault two.Value}
    (hresult : likeness.Result likeness.Value result given) :
    likeness.Pairs offset likeness.Outcome
      (do
        let elapsed ← elapsedSince .evaluation began
        record ⟨name, kind, elapsed, !result.isOk⟩
        evaluated answer result)
      (do
        let elapsed ← elapsedSince .evaluation later
        record ⟨name, kind, elapsed, !given.isOk⟩
        evaluated reply given) := by
  have hok : given.isOk = result.isOk := by cases hresult <;> rfl
  refine (pairs_elapsedSince hbegan).bind fun elapsed elapsedOther helapsed => ?_
  have hrecord : ProfileRecord.Mirrors likeness.faithful ⟨name, kind, elapsed, !result.isOk⟩
      ⟨name, kind, elapsedOther, !given.isOk⟩ :=
    ⟨rfl, rfl, congrArg not hok, fun hfaithful => helapsed (.inr hfaithful)⟩
  exact (pairs_record hrecord).bind fun _ _ _ => pairs_evaluated hsound hanswer hresult

theorem pairs_evaluate {bound limit : Nat} (hbound : likeness.faithful → bound ≤ limit)
    (source name : String) :
    likeness.Pairs offset likeness.Outcome (evaluate answer bound source name)
      (evaluate reply limit source name) := by
  intro session twin hcoupled
  refine pairs_withFrame name ((pairs_now .evaluation).bind fun began later hbegan => ?_) hcoupled
  refine (pairs_runSource hsound hanswer source).bind fun result given hresult => ?_
  refine (pairs_drainOutermost hsound hanswer hbound (hcoupled.length_inside name)).bind
    fun _ _ _ => ?_
  exact pairs_recorded hsound hanswer name _ hbegan hresult

theorem pairs_checkSyntax (source name : String) :
    likeness.Pairs offset likeness.Outcome (checkSyntax answer source name)
      (checkSyntax reply source name) := by
  refine pairs_withFrame name ((pairs_now .evaluation).bind fun began later hbegan => ?_)
  refine .look fun session twin hcoupled => ?_
  rw [hcoupled.options_eq]
  have hresult : likeness.Result likeness.Value
      ((one.parse session.options source).map fun _ => one.undefined)
      ((two.parse session.options source).map fun _ => two.undefined) := by
    have hparsed := hsound.parse session.options source
    generalize one.parse session.options source = parsed at hparsed ⊢
    generalize two.parse session.options source = parsedOther at hparsed ⊢
    cases hparsed with
    | ok hruns => exact .ok hsound.undefined
    | error hfault => exact .error hfault
  generalize (one.parse session.options source).map (fun _ => one.undefined) = result at hresult ⊢
  generalize (two.parse session.options source).map (fun _ => two.undefined) = given at hresult ⊢
  exact pairs_recorded hsound hanswer name _ hbegan hresult

/-! ### Arguments of natives -/

theorem pairs_texts {arguments : List one.Value} {others : List two.Value}
    (harguments : List.Forall₂ likeness.Value arguments others) :
    likeness.Pairs offset (likeness.Result Eq) (texts answer arguments).run
      (texts reply others).run := by
  induction harguments with
  | nil => exact .run_pure rfl
  | cons hvalue _ ih =>
      refine (pairs_toText hsound hanswer hvalue).run_bind fun text textOther htext => ?_
      refine ih.run_bind fun rest restOther hrest => .run_pure ?_
      rw [htext, hrest]

theorem pairs_changeFlagsAll (change : SamplingFlags → UInt32 → SamplingFlags)
    {arguments : List one.Value} {others : List two.Value}
    (harguments : List.Forall₂ likeness.Value arguments others) :
    likeness.Pairs offset (likeness.Result likeness.Value)
      (changeFlags answer change arguments).run (changeFlags reply change others).run := by
  induction harguments with
  | nil => exact .run_pure hsound.null
  | cons hvalue _ ih =>
      refine (pairs_act hanswer fun realm _ _ hstore =>
        hsound.toNumber realm hvalue hstore).run_bind fun number numberOther hnumber => ?_
      subst hnumber
      cases flagOf number with
      | none => exact ih
      | some flag =>
          exact (Pairs.run_lift (pairs_changeFlags fun flags => change flags flag)).run_bind
            fun _ _ _ => ih

omit hanswer in
theorem firstArgument {arguments : List one.Value} {others : List two.Value}
    (harguments : List.Forall₂ likeness.Value arguments others) :
    likeness.Value (Host.firstArgument arguments) (Host.firstArgument others) := by
  cases harguments with
  | nil => exact hsound.undefined
  | cons hvalue _ => exact hvalue

/-! ### Natives that are given a file -/

omit hanswer in
theorem pairs_loadSource (path : String) :
    likeness.Pairs offset (likeness.Result Eq) (loadSource path : Attempt one String).run
      (loadSource path : Attempt two String).run := by
  refine (Pairs.run_lift (pairs_readFile path)).run_bind fun content contentOther hcontent => ?_
  subst hcontent
  cases content with
  | ok content => exact .run_pure rfl
  | error error => exact .pure (.error (hsound.errorOf _))

theorem pairs_withSource {rel : α → β → Prop} {argument : one.Value} {other : two.Value}
    (hargument : likeness.Value argument other) {next : String → String → Attempt one α}
    {nextOther : String → String → Attempt two β}
    (hnext : ∀ path source, likeness.Pairs offset (likeness.Result rel) (next path source).run
      (nextOther path source).run) :
    likeness.Pairs offset (likeness.Result rel) (withSource answer argument next).run
      (withSource reply other nextOther).run := by
  refine (pairs_toText hsound hanswer hargument).run_bind fun path pathOther hpath => ?_
  subst hpath
  refine (pairs_loadSource hsound path).run_bind fun source sourceOther hsource => ?_
  subst hsource
  exact hnext path source

omit hanswer in
theorem pairs_install (arguments : List String) (realm : Realm) :
    likeness.Pairs offset (likeness.Result Eq)
      (modifyGet fun session =>
        let (store, installed) :=
          one.install realm (Native.available session.options) arguments session.store
        (installed, { session with store := store }) : Host one (Except one.Fault Unit))
      (modifyGet fun session =>
        let (store, installed) :=
          two.install realm (Native.available session.options) arguments session.store
        (installed, { session with store := store }) : Host two (Except two.Fault Unit)) := by
  intro session twin hcoupled
  obtain ⟨hstore, hresult⟩ := hsound.install realm (Native.available session.options) arguments
    hcoupled.store
  rw [← hcoupled.options_eq] at hstore hresult
  refine .of_ends _ _ (ends_modifyGet.mpr rfl) (ends_modifyGet.mpr rfl) ?_
    (hcoupled.withStore ?_) (.none rfl rfl rfl rfl rfl rfl)
  · rw [← hcoupled.options_eq]
    exact hresult
  · rw [← hcoupled.options_eq]
    exact hstore

omit hanswer in
theorem pairs_furnish (arguments : List String) (realm : Realm) :
    likeness.Pairs offset (likeness.Result Eq)
      (furnish arguments realm : Host one (Except one.Fault Realm))
      (furnish arguments realm : Host two (Except two.Fault Realm)) := by
  refine (pairs_withRealm realm (pairs_install hsound arguments realm)).bind
    fun installed installedOther hinstalled => ?_
  cases hinstalled with
  | ok hdone => exact (pairs_log _).bind fun _ _ _ => .pure (.ok rfl)
  | error hfault => exact .pure (.error hfault)

omit hanswer in
theorem pairs_createEnvironment (arguments : List String) :
    likeness.Pairs offset (likeness.Result Eq)
      (createEnvironment arguments : Attempt one Realm).run
      (createEnvironment arguments : Attempt two Realm).run := by
  intro session twin hcoupled
  rw [outcome_createEnvironment, outcome_createEnvironment, hcoupled.realms_eq]
  have hmade := hsound.createRealm session.realms hcoupled.store
  generalize one.createRealm session.realms session.store = made at hmade ⊢
  generalize two.createRealm session.realms twin.store = madeOther at hmade ⊢
  cases hmade with
  | @ok store other hstore =>
      have hgains : Gains likeness.faithful offset session (session.withNewRealm store) twin
          (twin.withNewRealm other) := by
        refine .of_history rfl rfl rfl rfl ⟨[_], [_], rfl, rfl, ?_⟩
        rw [hcoupled.realms_eq]
        exact .refl _
      exact .after hgains (pairs_furnish hsound arguments _ (hcoupled.withNewRealm hstore))
  | error hfault => exact .ends (.error hfault) hcoupled (.refl _ _)

omit hanswer in
theorem pairs_elapsedNumber {instant other : Nat} (hinstant : other = instant) :
    likeness.Pairs offset likeness.Value (elapsedNumber instant : Host one one.Value)
      (elapsedNumber other : Host two two.Value) := by
  refine (pairs_elapsedSince fun _ => hinstant).bind fun elapsed later helapsed => .pure ?_
  rw [helapsed (.inl rfl)]
  exact hsound.ofNumber _

omit hanswer in
theorem pairs_timed {began later : Nat} (hbegan : later = began) {outcome : Evaluated one}
    {other : Evaluated two} (houtcome : likeness.Outcome outcome other) :
    likeness.Pairs offset (likeness.Result likeness.Value) (timed began outcome).run
      (timed later other).run := by
  cases houtcome with
  | completed hvalue => exact Pairs.run_lift (pairs_elapsedNumber hsound hbegan)
  | threw hfault info => exact .pure (.error hfault)

omit hanswer in
theorem pairs_timing {action : Host one (Evaluated one)} {other : Host two (Evaluated two)}
    (haction : likeness.Pairs offset likeness.Outcome action other) :
    likeness.Pairs offset (likeness.Result likeness.Value)
      (do
        let began ← lift (now .call)
        let outcome ← lift action
        timed began outcome : Attempt one one.Value).run
      (do
        let began ← lift (now .call)
        let outcome ← lift other
        timed began outcome : Attempt two two.Value).run := by
  refine (Pairs.run_lift (pairs_now .call)).run_bind fun began later hbegan => ?_
  refine (Pairs.run_lift haction).run_bind fun outcome outcomeOther houtcome => ?_
  exact pairs_timed hsound (hbegan (.inl rfl)) houtcome

omit hanswer in
theorem pairs_preciseTime :
    likeness.Pairs offset (likeness.Result likeness.Value)
      (preciseTime : Attempt one one.Value).run (preciseTime : Attempt two two.Value).run := by
  refine (Pairs.run_lift pairs_timeOfDay).run_bind fun time timeOther htime => ?_
  subst htime
  cases time with
  | some time => exact .run_pure (hsound.ofNumber _)
  | none => exact .pure (.error (hsound.errorOf _))

omit hanswer in
theorem pairs_say (channel : Channel) (text : String) :
    likeness.Pairs offset (likeness.Result likeness.Value)
      (do lift (write channel text); return one.undefined : Attempt one one.Value).run
      (do lift (write channel text); return two.undefined : Attempt two two.Value).run :=
  (Pairs.run_lift (pairs_write channel text)).run_bind fun _ _ _ => .run_pure hsound.undefined

omit hanswer in
theorem pairs_describe {value : one.Value} {other : two.Value}
    (hvalue : likeness.Value value other) :
    likeness.Pairs offset (likeness.Result likeness.Value)
      (get >>= fun session => (do
        lift (write .stderr ("--> " ++ one.display value session.store ++ "\n"))
        return one.undefined : Attempt one one.Value).run)
      (get >>= fun session => (do
        lift (write .stderr ("--> " ++ two.display other session.store ++ "\n"))
        return two.undefined : Attempt two two.Value).run) := by
  refine .look fun session twin hcoupled => ?_
  rw [hsound.display_eq hvalue hcoupled.store]
  exact pairs_say hsound .stderr _

theorem pairs_respond {budget limit : Nat} (hbudget : likeness.faithful → budget ≤ limit)
    {native : Native} (hstack : native ≠ .stackTrace) (hframe : native ≠ .dumpCallFrame)
    {arguments : List one.Value} {others : List two.Value}
    (harguments : List.Forall₂ likeness.Value arguments others) :
    likeness.Pairs offset (likeness.Result likeness.Value)
      (respond answer budget native arguments).run (respond reply limit native others).run := by
  have hfirst := firstArgument hsound harguments
  have hevaluate (source path : String) : likeness.Pairs offset likeness.Outcome
      (evaluate answer budget source path) (evaluate reply limit source path) :=
    pairs_evaluate hsound hanswer hbudget source path
  cases native with
  | print =>
      refine (pairs_texts hsound hanswer harguments).run_bind fun line lineOther hline => ?_
      subst hline
      exact pairs_say hsound .stdout _
  | debug =>
      refine (pairs_toText hsound hanswer hfirst).run_bind fun text textOther htext => ?_
      subst htext
      exact pairs_say hsound .stderr _
  | describe => exact pairs_describe hsound hfirst
  | quit => exact .quit
  | gc | releaseExecutableMemory | version => exact .run_pure hsound.undefined
  | dumpCallFrame => exact absurd rfl hframe
  | run =>
      refine pairs_withSource hsound hanswer hfirst fun path source => ?_
      refine (pairs_createEnvironment hsound []).run_bind fun realm realmOther hrealm => ?_
      subst hrealm
      exact pairs_timing hsound (pairs_withRealm realm (hevaluate source path))
  | load =>
      refine pairs_withSource hsound hanswer hfirst fun path source => ?_
      exact (Pairs.run_lift (hevaluate source path)).run_bind fun outcome outcomeOther houtcome =>
        .pure houtcome.toExcept
  | checkSyntax =>
      exact pairs_withSource hsound hanswer hfirst fun path source =>
        pairs_timing hsound (pairs_checkSyntax hsound hanswer source path)
  | stackTrace => exact absurd rfl hstack
  | readline =>
      refine (Pairs.run_lift pairs_readLine).run_bind fun line lineOther hline => .run_pure ?_
      subst hline
      exact hsound.ofText _
  | preciseTime => exact pairs_preciseTime hsound
  | setSamplingFlags => exact pairs_changeFlagsAll hsound hanswer _ harguments
  | clearSamplingFlags => exact pairs_changeFlagsAll hsound hanswer _ harguments

omit hanswer in
/-- What a native shows of the frames stands right behind its call. -/
theorem pairs_calledShowing {budget limit : Nat} (realm : Realm) {native : Native}
    (hshows : native = .stackTrace ∨ native = .dumpCallFrame) (arguments : List one.Value)
    (others : List two.Value) :
    likeness.Pairs offset (likeness.Result likeness.Value)
      (called realm native (respond answer budget native arguments).run)
      (called realm native (respond reply limit native others).run) := by
  intro session twin hcoupled
  have hends {engine : Engine} {answer : ScriptShell.Answer engine} {bound : Nat}
      {arguments : List engine.Value} (session : Session engine) :
      Ends (called realm native (respond answer bound native arguments).run) session
        (.ok engine.undefined) (session.calling native) := by
    rcases hshows with rfl | rfl
    · exact ends_called.mpr ⟨_, ends_respond_stackTrace.mpr ⟨rfl, rfl⟩, rfl⟩
    · refine ends_called.mpr ⟨_, ends_respond_dumpCallFrame.mpr ⟨rfl, rfl⟩, ?_⟩
      simp [Session.calling, Session.noteAll, Session.note]
  refine .of_ends _ _ (hends session) (hends twin) (.ok hsound.undefined)
    { hcoupled with } (.noteAll ?_)
  rw [hcoupled.frames_eq, hcoupled.others_eq]
  simpa using Entry.Mirrors.called native [] .nil

end Answered

/-! ## Natives at every depth -/

theorem pairs_called {rel : α → β → Prop} {action : Host one α} {other : Host two β}
    (realm : Realm) {native : Native} (hstack : native ≠ .stackTrace)
    (hframe : native ≠ .dumpCallFrame) (haction : likeness.Pairs offset rel action other) :
    likeness.Pairs offset rel (called realm native action) (called realm native other) := by
  have hnote : likeness.Pairs offset Eq (note (.called native offset.frames) : Host one Unit)
      (note (.called native offset.others) : Host two Unit) := by
    refine fun _ _ hcoupled => .of_ends () () (ends_note.mpr rfl) (ends_note.mpr rfl) rfl
      (hcoupled.note _ _) (.of_history rfl rfl rfl rfl ⟨[_], [_], rfl, rfl, ?_⟩)
    simpa [Native.shows_eq_nil hstack hframe] using Entry.Mirrors.called native [] .nil
  refine .look fun session twin hcoupled => ?_
  rw [hcoupled.frames_eq, hcoupled.others_eq]
  exact hnote.bind fun _ _ _ => pairs_withRealm realm haction

/-- Natives are answered alike, whatever the budgets are. -/
theorem pairs_answer (hsound : likeness.Sound) {budget limit : Nat}
    (hbudget : likeness.faithful → budget ≤ limit) (offset : Offset) (realm : Realm)
    (native : Native) ⦃arguments : List one.Value⦄ ⦃others : List two.Value⦄
    (harguments : List.Forall₂ likeness.Value arguments others) :
    likeness.Pairs offset (likeness.Result likeness.Value)
      (answer budget realm native arguments).run (answer limit realm native others).run := by
  -- on the budget, since the files that a native evaluates call natives with one less
  induction budget generalizing limit offset realm native arguments others with
  | zero => exact .gaveUp _
  | succ budget ih =>
      cases limit with
      | zero =>
          exact .otherGaveUp _ fun hfaithful => absurd (hbudget hfaithful) (Nat.not_succ_le_zero _)
      | succ limit =>
          have hless : likeness.faithful → budget ≤ limit := fun hfaithful =>
            Nat.le_of_succ_le_succ (hbudget hfaithful)
          by_cases hshows : native = .stackTrace ∨ native = .dumpCallFrame
          · exact pairs_calledShowing hsound realm hshows arguments others
          · obtain ⟨hstack, hframe⟩ := not_or.mp hshows
            exact pairs_called realm hstack hframe
              (pairs_respond hsound (ih hless) hless hstack hframe harguments)

/-! ## Environments in use -/

theorem pairs_evaluateIn (hsound : likeness.Sound) {budget limit : Nat}
    (hbudget : likeness.faithful → budget ≤ limit) (environment : Realm) (source name : String) :
    likeness.Pairs offset likeness.Outcome (evaluateIn budget environment source name)
      (evaluateIn limit environment source name) :=
  pairs_withRealm environment
    (pairs_evaluate hsound (pairs_answer hsound hbudget) hbudget source name)

theorem pairs_stringifyIn (hsound : likeness.Sound) {budget limit : Nat}
    (hbudget : likeness.faithful → budget ≤ limit) (environment : Realm) {value : one.Value}
    {other : two.Value} (hvalue : likeness.Value value other) :
    likeness.Pairs offset Eq (stringifyIn budget environment value)
      (stringifyIn limit environment other) :=
  pairs_withRealm environment (pairs_stringify hsound (pairs_answer hsound hbudget) hvalue)

end Likeness

end ScriptShell
