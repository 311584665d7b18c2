import ScriptShell.Proofs.Isolation.Evaluations

/-!
# Natives keep to the territory of their caller

Whatever the natives do that script code calls is confined to a territory that the code runs in. A
new environment is a realm that joins the territory, so that a file that is given to `run` is
evaluated within it (`Host.answersWithin_answer`).
-/

namespace ScriptShell

variable {engine : Engine} {division : engine.Division}

namespace Host

variable {α β : Type} {depth : Nat} {extent : division.Reach} {realm : Realm}
  {session twin : Session engine}

/-! ## Environments -/

section Environments

variable (isolates : Engine.Isolates division)

include isolates

/-- A new realm joins the territory, and what was there is left as it is. -/
theorem advanced_withNewRealm (hshared : Shared division depth extent session twin)
    {naming greater : division.Naming} {made madeTwin bound boundTwin : engine.Store}
    (hmade : division.Return ⟨extent.naming, {session.realms}⟩ naming session.store twin.store made
      madeTwin)
    (hbound : division.Return ⟨naming, {session.realms}⟩ greater made madeTwin bound boundTwin) :
    Advanced division depth extent greater session twin
      { session.withNewRealm made with store := bound }
      { twin.withNewRealm madeTwin with store := boundTwin } := by
  have hapart (realm : Nat) (hrealm : realm < session.realms) :
      realm ∉ ({session.realms} : Set Realm) :=
    fun hmem => hrealm.ne hmem
  have hsame : ∀ realm < session.realms,
      division.part bound realm = division.part session.store realm := fun realm hrealm =>
    (hbound.untouched realm (hapart realm hrealm)).trans
      (hmade.untouched realm (hapart realm hrealm))
  have hsameTwin : ∀ realm < session.realms,
      division.part boundTwin realm = division.part twin.store realm := fun realm hrealm =>
    (hbound.untouched_other realm (hapart realm hrealm)).trans
      (hmade.untouched_other realm (hapart realm hrealm))
  have hcalls : division.calls bound = division.calls session.store :=
    hbound.calls_eq.trans hmade.calls_eq
  have hcallsTwin : division.calls boundTwin = division.calls twin.store := by
    rw [isolates.calls_eq hbound.alike, hcalls, isolates.calls_eq hshared.alike]
  have hnaming : extent.naming ≤ greater := hmade.le.trans hbound.le
  have hthere : division.Alike (extent.under greater) bound boundTwin :=
    isolates.alike_under hnaming (isolates.alike_congr hshared.alike
      (fun realm hrealm => hsame realm (hshared.below realm hrealm))
      (fun realm hrealm => hsameTwin realm (hshared.below realm hrealm)) hcalls hcallsTwin)
  have halike := isolates.alike_union hthere hbound.alike
  rw [← grown_succ] at halike
  obtain ⟨store, jobs, sampler, profile, clock, history, rfl⟩ := hshared.same
  exact {
    le := hnaming
    shared := {
      same := ⟨boundTwin, jobs, sampler, profile, clock, _, rfl⟩
      alike := halike
      below := fun realm hrealm => hrealm.elim
        (fun hmem => Nat.lt_succ_of_lt (hshared.below realm hmem)) fun hbetween => hbetween.2
      ready := fun hdepth => (hshared.ready hdepth).imp fun _ _ hwaiting =>
        ⟨hwaiting.1, isolates.job_mono (Extent.le_grownTo hnaming) hwaiting.2⟩
      enabled_eq := hshared.enabled_eq
      profiling_eq := hshared.profiling_eq
      clock := hshared.clock }
    realms_le := Nat.le_succ _
    realm_eq := rfl
    frames_eq := rfl
    options_eq := rfl
    enabled_eq := rfl
    profiling_eq := rfl
    untouched := fun realm hrealm _ => hsame realm hrealm
    untouched_twin := fun realm hrealm _ => hsameTwin realm hrealm }

/-- The realm that was made is the same in both sessions, and it belongs to the territory. -/
def Joins {Naming : Type} (extent : Extent Naming) (place other : Realm) : Prop :=
  other = place ∧ place ∈ extent.territory

theorem confined_createEnvironment (arguments : List String) :
    Confined division depth extent realm (division.Result Joins)
      (createEnvironment arguments : Attempt engine Realm).run := by
  intro session twin hshared _
  have houtcome := @outcome_createEnvironment engine arguments
  have hfresh : session.realms ∉ extent.territory := fun hmem =>
    (hshared.below _ hmem).ne rfl
  obtain ⟨store, jobs, sampler, profile, clock, history, rfl⟩ := hshared.same
  have hfirst := houtcome session
  have hsecond := houtcome { session with store, jobs, sampler, profile, clock, history }
  rcases isolates.createRealm hshared.alike hfresh with
    ⟨fault, faultOther, hmake, hmakeTwin, hfault⟩ |
      ⟨naming, made, madeTwin, hmake, hmakeTwin, hmade⟩
  · -- no realm is made in either session
    simp only [hmake] at hfirst
    simp only [hmakeTwin] at hsecond
    exact .of_still_ends [] hfirst hsecond rfl rfl (.refl hshared) rfl rfl (.error hfault)
  · -- a realm is made in both, and it is furnished before anything else can get hold of it
    obtain ⟨greater, hbound, hresult⟩ := isolates.install hmade.alike
      (Native.available session.options) arguments
    have hadvanced := advanced_withNewRealm isolates hshared hmade hbound
    have hcalls := hbound.calls_eq.trans hmade.calls_eq
    have hjoins : session.realms ∈
        (extent.grownTo greater session.realms (session.realms + 1)).territory :=
      .inr ⟨Nat.le_refl _, Nat.lt_succ_self _⟩
    have hle : (⟨greater, {session.realms}⟩ : division.Reach) ≤
        extent.grownTo greater session.realms (session.realms + 1) :=
      ⟨le_rfl, Set.singleton_subset_iff.mpr hjoins⟩
    rcases hinstall : engine.install session.realms (Native.available session.options) arguments
      made with ⟨bound, installed⟩
    rcases hinstallTwin : engine.install session.realms (Native.available session.options)
      arguments madeTwin with ⟨boundTwin, installedTwin⟩
    rw [hinstall, hinstallTwin] at hadvanced hresult
    rw [hinstall] at hcalls
    simp only [hmake, outcome_furnish, Session.withNewRealm, hinstall] at hfirst
    simp only [hmakeTwin, outcome_furnish, Session.withNewRealm, hinstallTwin] at hsecond
    cases hresult with
    | error hfault =>
        exact .ends [.realmCreated session.realms] hfirst hsecond rfl rfl hadvanced hcalls
          (.error (isolates.fault_mono hle hfault))
    | ok _ =>
        exact .ends [.realmCreated session.realms,
          .logged (.environmentCreated arguments.length)] hfirst hsecond rfl rfl (hadvanced.note _)
          hcalls (.ok ⟨rfl, hjoins⟩)

end Environments

/-! ## Natives -/

section Natives

variable {answer : Answer engine}
  (hanswer : ∀ {depth}, 0 < depth → AnswersWithin division depth answer)
  (isolates : Engine.Isolates division)

include hanswer isolates

theorem confines_texts {arguments others : List engine.Value} (hdepth : 0 < depth)
    (hrealm : realm ∈ extent.territory)
    (harguments : List.Forall₂ (division.Value extent) arguments others) :
    Confines division depth extent realm (division.Result plain)
      (texts answer arguments).run (texts answer others).run := by
  induction arguments generalizing extent others with
  | nil =>
      cases harguments
      exact .run_pure rfl
  | cons value rest ih =>
      obtain ⟨other, othersRest, hvalue, hrest, rfl⟩ := List.forall₂_cons_left_iff.mp harguments
      refine (confines_toText (hanswer hdepth) isolates hrealm hvalue).run_bind
        fun greater text textOther hgreater htext => ?_
      obtain rfl : textOther = text := htext
      refine (ih (Extent.mem_of_le hgreater hrealm) (isolates.values_mono hgreater hrest)).run_bind
        fun _ texts textsOther _ htexts => ?_
      obtain rfl : textsOther = texts := htexts
      exact .run_pure rfl

theorem confines_changeFlags (change : SamplingFlags → UInt32 → SamplingFlags)
    {arguments others : List engine.Value} (hdepth : 0 < depth) (hrealm : realm ∈ extent.territory)
    (harguments : List.Forall₂ (division.Value extent) arguments others) :
    Confines division depth extent realm (division.Result division.Value)
      (changeFlags answer change arguments).run (changeFlags answer change others).run := by
  induction arguments generalizing extent others with
  | nil =>
      cases harguments
      exact .run_pure (isolates.value_null _)
  | cons value rest ih =>
      obtain ⟨other, othersRest, hvalue, hrest, rfl⟩ := List.forall₂_cons_left_iff.mp harguments
      refine (confines_act (hanswer hdepth) isolates hrealm (isolates.toNumber hvalue)).run_bind
        fun greater number numberOther hgreater hnumber => ?_
      obtain rfl : numberOther = number := hnumber
      have hothers (most : division.Reach) (hmost : greater ≤ most) :
          Confines division depth most realm (division.Result division.Value)
            (changeFlags answer change rest).run (changeFlags answer change othersRest).run :=
        -- the territory is the one behind the conversion, which may have made realms
        ih (Extent.mem_of_le (hgreater.trans hmost) hrealm)
          (isolates.values_mono (hgreater.trans hmost) hrest)
      cases flagOf numberOther with
      | none => exact hothers greater le_rfl
      | some flag =>
          exact (Confines.run_lift (confined_changeFlags fun flags => change flags flag)).run_bind
            fun most _ _ hmost _ => hothers most hmost

omit hanswer in
theorem confined_loadSource (path : String) : Confined division depth extent realm
    (division.Result plain) (loadSource path : Attempt engine String).run := by
  refine (Confines.run_lift (confined_readFile path)).run_bind
    fun greater content contentOther _ hcontent => ?_
  obtain rfl : contentOther = content := hcontent
  cases contentOther with
  | ok content => exact .run_pure rfl
  | error error => exact .run_throw (isolates.fault_errorOf greater _)

omit hanswer in
theorem confined_elapsedNumber (began : Nat) : Confined division depth extent realm
    division.Value (elapsedNumber began : Host engine engine.Value) := by
  refine (confined_elapsedSince (by decide) began).bind fun greater elapsed elapsedOther _ h => ?_
  obtain rfl : elapsedOther = elapsed := h
  exact .pure (isolates.value_ofNumber greater _)

omit hanswer isolates in
theorem confines_settle {outcome other : Evaluated engine}
    (houtcome : division.Evaluated extent outcome other) :
    Confines division depth extent realm (division.Result division.Value)
      (settle outcome.toExcept).run (settle other.toExcept).run := by
  cases houtcome with
  | completed hvalue => exact .pure (.ok hvalue)
  | threw hfault info => exact .pure (.error hfault)

omit hanswer in
theorem confines_timed (began : Nat) {outcome other : Evaluated engine}
    (houtcome : division.Evaluated extent outcome other) :
    Confines division depth extent realm (division.Result division.Value)
      (timed began outcome).run (timed began other).run := by
  unfold timed
  cases houtcome with
  | completed hvalue => exact .run_lift (confined_elapsedNumber isolates began)
  | threw hfault info => exact .pure (.error hfault)

theorem confines_loadFile (bound : Nat) {argument other : engine.Value} (hdepth : 0 < depth)
    (hrealm : realm ∈ extent.territory) (hargument : division.Value extent argument other) :
    Confines division depth extent realm (division.Result division.Value)
      (loadFile answer bound argument).run (loadFile answer bound other).run := by
  refine (confines_toText (hanswer hdepth) isolates hrealm hargument).run_bind
    fun converted path pathOther hconverted hpath => ?_
  obtain rfl : pathOther = path := hpath
  refine (confined_loadSource isolates pathOther).run_bind
    fun read source sourceOther hread hsource => ?_
  obtain rfl : sourceOther = source := hsource
  refine (Confines.run_lift (confined_evaluate (hanswer (Nat.succ_pos _)) isolates bound sourceOther
    pathOther hdepth (Extent.mem_of_le (hconverted.trans hread) hrealm))).run_bind
      fun _ outcome outcomeOther _ houtcome => ?_
  exact confines_settle houtcome

theorem confines_checkFile {argument other : engine.Value} (hdepth : 0 < depth)
    (hrealm : realm ∈ extent.territory) (hargument : division.Value extent argument other) :
    Confines division depth extent realm (division.Result division.Value)
      (checkFile answer argument).run (checkFile answer other).run := by
  refine (confines_toText (hanswer hdepth) isolates hrealm hargument).run_bind
    fun converted path pathOther hconverted hpath => ?_
  obtain rfl : pathOther = path := hpath
  refine (confined_loadSource isolates pathOther).run_bind
    fun read source sourceOther hread hsource => ?_
  obtain rfl : sourceOther = source := hsource
  refine (Confines.run_lift (confined_now (by decide))).run_bind
    fun begun began beganOther hbegun hbegan => ?_
  obtain rfl : beganOther = began := hbegan
  refine (Confines.run_lift (confined_checkSyntax (hanswer (Nat.succ_pos _)) isolates sourceOther
    pathOther (Extent.mem_of_le ((hconverted.trans hread).trans hbegun) hrealm))).run_bind
      fun _ outcome outcomeOther _ houtcome => ?_
  exact confines_timed isolates beganOther houtcome

/-- The file is evaluated in a realm that joins the territory. -/
theorem confines_runFile (bound : Nat) {argument other : engine.Value} (hdepth : 0 < depth)
    (hrealm : realm ∈ extent.territory) (hargument : division.Value extent argument other) :
    Confines division depth extent realm (division.Result division.Value)
      (runFile answer bound argument).run (runFile answer bound other).run := by
  refine (confines_toText (hanswer hdepth) isolates hrealm hargument).run_bind
    fun converted path pathOther hconverted hpath => ?_
  obtain rfl : pathOther = path := hpath
  refine (confined_loadSource isolates pathOther).run_bind
    fun read source sourceOther hread hsource => ?_
  obtain rfl : sourceOther = source := hsource
  refine (confined_createEnvironment isolates []).run_bind
    fun made place placeOther hmade hplace => ?_
  obtain ⟨rfl, hjoins⟩ := hplace
  refine (Confines.run_lift (confined_now (by decide))).run_bind
    fun begun began beganOther hbegun hbegan => ?_
  obtain rfl : beganOther = began := hbegan
  refine (Confines.run_lift (Confines.withRealm (confined_evaluate (hanswer (Nat.succ_pos _))
    isolates bound sourceOther pathOther hdepth (Extent.mem_of_le hbegun hjoins)))).run_bind
      fun _ outcome outcomeOther _ houtcome => ?_
  exact confines_timed isolates beganOther houtcome

/-- Each native keeps to the territory that it is called in. -/
theorem confines_respond (bound : Nat) (native : Native) {arguments others : List engine.Value}
    (hdepth : 0 < depth) (hrealm : realm ∈ extent.territory)
    (harguments : List.Forall₂ (division.Value extent) arguments others) :
    Confines division depth extent realm (division.Result division.Value)
      (respond answer bound native arguments).run (respond answer bound native others).run := by
  have hfirst : division.Value extent (firstArgument arguments) (firstArgument others) := by
    cases harguments with
    | nil => exact isolates.value_undefined extent
    | cons hvalue _ => exact hvalue
  have hwrite (greater : division.Reach) (channel : Channel) (text : String) :
      Confined division depth greater realm (division.Result division.Value)
        (do lift (write channel text); return engine.undefined : Attempt engine engine.Value).run :=
    (Confines.run_lift (confined_note _)).run_bind
      fun most _ _ _ _ => .run_pure (isolates.value_undefined most)
  cases native with
  | print =>
      refine (confines_texts hanswer isolates hdepth hrealm harguments).run_bind
        fun greater line lineOther _ hline => ?_
      obtain rfl : lineOther = line := hline
      exact hwrite greater _ _
  | debug =>
      refine (confines_toText (hanswer hdepth) isolates hrealm hfirst).run_bind
        fun greater text textOther _ htext => ?_
      obtain rfl : textOther = text := htext
      exact hwrite greater _ _
  | describe =>
      exact confines_display isolates hfirst fun text =>
        hwrite extent .stderr ("--> " ++ text ++ "\n")
  | quit => exact .throw .quit
  | gc | releaseExecutableMemory | version =>
      exact .run_pure (isolates.value_undefined extent)
  | dumpCallFrame =>
      show Confined division depth extent realm (division.Result division.Value)
        (respond answer bound .dumpCallFrame arguments).run
      exact .of_change (fun _ => .ok engine.undefined)
        (fun session => session.noteAll (Native.shows .dumpCallFrame session.frames))
        (fun session => Native.shows .dumpCallFrame session.frames)
        (fun _ => ends_respond_dumpCallFrame.mpr ⟨rfl, rfl⟩) (fun _ _ _ _ _ _ _ => ⟨rfl, rfl⟩)
        (fun _ => ⟨rfl, rfl, rfl, rfl⟩) fun _ => .ok (isolates.value_undefined extent)
  | run => exact confines_runFile hanswer isolates bound hdepth hrealm hfirst
  | load => exact confines_loadFile hanswer isolates bound hdepth hrealm hfirst
  | checkSyntax => exact confines_checkFile hanswer isolates hdepth hrealm hfirst
  | stackTrace =>
      show Confined division depth extent realm (division.Result division.Value)
        (respond answer bound .stackTrace arguments).run
      exact .of_change (fun _ => .ok engine.undefined)
        (fun session => session.note (.wrote .stderr (stackTrace session.frames)))
        (fun session => [.wrote .stderr (stackTrace session.frames)])
        (fun _ => ends_respond_stackTrace.mpr ⟨rfl, rfl⟩) (fun _ _ _ _ _ _ _ => ⟨rfl, rfl⟩)
        (fun _ => ⟨rfl, rfl, rfl, rfl⟩) fun _ => .ok (isolates.value_undefined extent)
  | readline =>
      refine (Confines.run_lift confined_readLine).run_bind fun greater line lineOther _ hline => ?_
      obtain rfl : lineOther = line := hline
      exact .run_pure (isolates.value_ofText greater _)
  | preciseTime =>
      refine (Confines.run_lift confined_timeOfDay).run_bind
        fun greater time timeOther _ htime => ?_
      obtain rfl : timeOther = time := htime
      cases timeOther with
      | some time => exact .run_pure (isolates.value_ofNumber greater _)
      | none => exact .run_throw (isolates.fault_errorOf greater _)
  | setSamplingFlags =>
      exact confines_changeFlags hanswer isolates _ hdepth hrealm harguments
  | clearSamplingFlags =>
      exact confines_changeFlags hanswer isolates _ hdepth hrealm harguments

end Natives

section Budgeted

variable (isolates : Engine.Isolates division)

include isolates

/-- Calls of natives are answered within the territory of the code that makes them, at any depth at
which they are made. -/
theorem answersWithin_answer (budget : Nat) {depth : Nat} (hdepth : 0 < depth) :
    AnswersWithin division depth (answer budget : Answer engine) := by
  -- on the budget, since the files that a native evaluates call natives with one less
  induction budget generalizing depth with
  | zero => exact fun _ _ _ _ _ _ _ _ => .throw .exhausted
  | succ budget ih =>
      intro extent owner native arguments others realm howner harguments
      have hcalled (frames : List String) : Confines division depth extent realm
          (division.Result division.Value)
          (note (.called native frames) >>= fun _ =>
            withRealm owner (respond (answer budget) budget native arguments).run)
          (note (.called native frames) >>= fun _ =>
            withRealm owner (respond (answer budget) budget native others).run) := by
        refine (confined_note _).bind fun greater _ _ hgreater _ => ?_
        exact .withRealm (confines_respond ih isolates budget native hdepth
          (Extent.mem_of_le hgreater howner) (isolates.values_mono hgreater harguments))
      exact .get_bind (·.frames) (fun _ _ hshared => hshared.frames_eq) hcalled

/-! ## Environments in use -/

variable {environment : Realm}

theorem confined_evaluateIn (budget : Nat) (source name : String) (hdepth : 0 < depth)
    (henvironment : environment ∈ extent.territory) :
    Confined division depth extent realm division.Evaluated
      (evaluateIn budget environment source name) :=
  .withRealm (confined_evaluate (answersWithin_answer isolates budget (Nat.succ_pos _))
    isolates budget source name hdepth henvironment)

theorem confined_checkSyntaxIn (budget : Nat) (source name : String)
    (henvironment : environment ∈ extent.territory) :
    Confined division depth extent realm division.Evaluated
      (checkSyntaxIn budget environment source name) :=
  .withRealm (confined_checkSyntax (answersWithin_answer isolates budget (Nat.succ_pos _))
    isolates source name henvironment)

theorem confines_stringifyIn (budget : Nat) {value other : engine.Value} (hdepth : 0 < depth)
    (henvironment : environment ∈ extent.territory) (hvalue : division.Value extent value other) :
    Confines division depth extent realm plain (stringifyIn budget environment value)
      (stringifyIn budget environment other) :=
  .withRealm (confines_stringify (answersWithin_answer isolates budget hdepth) isolates
    henvironment hvalue)

end Budgeted

end Host

end ScriptShell
