import ScriptShell.Proofs.Isolation.Natives
import ScriptShell.Proofs.Session.Replies

/-!
# Steps keep to their territory

What the driver and the shell do around script code in an environment is confined to the territory
of the environment, and so is what a step of a user does. Windows of the sampler may differ in two
sessions that share a territory, and with them what the clock shows next for a window; nothing that
a step tells depends on either.
-/

namespace ScriptShell

variable {engine : Engine} {division : engine.Division}

namespace Host

variable {α β : Type} {depth budget : Nat} {extent : division.Reach} {realm environment : Realm}
  {out : Channel} {dump : Bool} {session twin : Session engine}

/-! ## Reports and the shell -/

section Reports

variable (isolates : Engine.Isolates division)

include isolates

theorem confined_report (hdepth : 0 < depth) (henvironment : environment ∈ extent.territory)
    (source name : String) : Confined division depth extent realm plain
      (report budget environment out dump source name) := by
  refine (confined_evaluateIn isolates budget source name hdepth henvironment).bind
    fun greater outcome other hgreater houtcome => ?_
  cases houtcome with
  | threw hfault info => exact (confined_note _).bind fun _ _ _ _ _ => .pure rfl
  | completed hvalue =>
      cases dump with
      | false => exact .pure rfl
      | true =>
          refine (confines_stringifyIn isolates budget hdepth
            (Extent.mem_of_le hgreater henvironment) hvalue).bind fun _ text textOther _ htext => ?_
          obtain rfl : textOther = text := htext
          exact (confined_note _).bind fun _ _ _ _ _ => .pure rfl

theorem confined_evaluateLine (hdepth : 0 < depth) (henvironment : environment ∈ extent.territory)
    (line : String) : Confined division depth extent realm plain
      (evaluateLine budget environment out line) := by
  refine (confined_evaluateIn isolates budget line interpreterSource hdepth henvironment).bind
    fun greater outcome other hgreater houtcome => ?_
  cases houtcome with
  | threw hfault info => exact confined_note _
  | completed hvalue =>
      refine (confines_stringifyIn isolates budget hdepth
        (Extent.mem_of_le hgreater henvironment) hvalue).bind fun _ text textOther _ htext => ?_
      obtain rfl : textOther = text := htext
      exact confined_note _

theorem confined_shellLines (hdepth : 0 < depth) (henvironment : environment ∈ extent.territory)
    (lines : Nat) : Confined division depth extent realm plain
      (shellLines budget environment out lines) := by
  induction lines generalizing extent with
  | zero => exact .throw .exhausted
  | succ lines ih =>
      refine (confined_note _).bind fun prompted _ _ hprompted _ =>
        confined_readLine.bind fun read line lineOther hread hline => ?_
      obtain rfl : lineOther = line := hline
      have hhere := Extent.mem_of_le (hprompted.trans hread) henvironment
      show Confined division depth read realm plain (if _ then _ else _)
      split
      · exact confined_note _
      · exact (confined_evaluateLine isolates hdepth hhere _).bind
          fun _ _ _ hevaluated _ => ih (Extent.mem_of_le hevaluated hhere)

theorem confined_shell (hdepth : 0 < depth) (henvironment : environment ∈ extent.territory) :
    Confined division depth extent realm plain (shell budget environment out) := by
  have hinput : ∀ ⦃session twin : Session engine⦄, Shared division depth extent session twin →
      twin.input.length = session.input.length := by
    intro session twin hshared
    obtain ⟨_, _, _, _, _, _, rfl⟩ := hshared.same
    rfl
  exact .get_bind (·.input.length) hinput fun length =>
    confined_shellLines isolates hdepth henvironment (length + 1)

theorem confined_shellOnLines (hdepth : 0 < depth) (henvironment : environment ∈ extent.territory)
    (lines : Nat) (input : Bytes) : Confined division depth extent realm plain
      (shellOnLines budget environment out lines input) := by
  induction lines generalizing extent input with
  | zero => exact .throw .exhausted
  | succ lines ih =>
      refine (confined_note _).bind fun prompted _ _ hprompted _ => ?_
      have hhere := Extent.mem_of_le hprompted henvironment
      rcases input.takeChunk with ⟨chunk, rest⟩
      show Confined division depth prompted realm plain (if _ then _ else _)
      split
      · exact (confined_note _).bind fun _ _ _ _ _ => .pure rfl
      · exact (confined_evaluateLine isolates hdepth hhere _).bind
          fun _ _ _ hevaluated _ => ih (Extent.mem_of_le hevaluated hhere) rest

end Reports

/-! ## The driver -/

section Windows

variable {sampler samplerTwin : Sampler} {clock clockTwin : Clock}

/-- Two sessions change their samplers, which stay enabled or not, and look at the clock for
that. -/
theorem shared_sampled (hshared : Shared division depth extent session twin)
    (henabled : sampler.enabled = session.sampler.enabled)
    (henabledTwin : samplerTwin.enabled = twin.sampler.enabled)
    (hclock : Clock.SameBesides .window session.clock clock)
    (hclockTwin : Clock.SameBesides .window twin.clock clockTwin) :
    Shared division depth extent { session with sampler := sampler, clock := clock }
      { twin with sampler := samplerTwin, clock := clockTwin } := by
  have hclocks := (hclock.symm.trans hshared.clock).trans hclockTwin
  obtain ⟨store, jobs, _, profile, _, history, rfl⟩ := hshared.same
  exact { hshared with
    same := ⟨store, jobs, samplerTwin, profile, clockTwin, history, rfl⟩
    enabled_eq := (henabledTwin.trans hshared.enabled_eq).trans henabled.symm
    clock := hclocks }

theorem advanced_sampled (hshared : Shared division depth extent session twin)
    (henabled : sampler.enabled = session.sampler.enabled)
    (henabledTwin : samplerTwin.enabled = twin.sampler.enabled)
    (hclock : Clock.SameBesides .window session.clock clock)
    (hclockTwin : Clock.SameBesides .window twin.clock clockTwin) :
    Advanced division depth extent extent.naming session twin
      { session with sampler := sampler, clock := clock }
      { twin with sampler := samplerTwin, clock := clockTwin } :=
  .of_shared (shared_sampled hshared henabled henabledTwin hclock hclockTwin) rfl rfl rfl rfl rfl
    rfl
    henabled rfl

end Windows

theorem confined_changeSampler (change : Sampler → Sampler)
    (hchange : ∀ sampler, (change sampler).enabled = sampler.enabled) :
    Confined division depth extent realm plain
      (modify fun session => { session with sampler := change session.sampler } :
        Host engine PUnit) :=
  fun _ _ hshared _ => .of_still_ends [] (ends_modify.mpr rfl) (ends_modify.mpr rfl) rfl rfl
    (advanced_sampled hshared (hchange _) (hchange _) (.refl _ _) (.refl _ _)) rfl rfl
    (Eq.refl PUnit.unit)

/-- A look at the clock for a window, if there is one. -/
private theorem sameBesides_ite_looked (looks : Bool) (clock : Clock) :
    Clock.SameBesides .window clock (if looks then clock.looked .window else clock) := by
  cases looks with
  | true => exact .looked_besides _ clock
  | false => exact .refl _ clock

/-- The windows that open in two sessions may differ. -/
theorem confinedAt_openWindow_bind {calls : division.Calls} {rel : division.Reach → α → α → Prop}
    (script : String) {next nextOther : Window → Host engine α}
    (hshared : Shared division depth extent session twin)
    (hnext : ∀ window other middle middleTwin, Shared division depth extent middle middleTwin →
      division.calls middle.store = division.calls session.store → middle.realm = session.realm →
      ConfinedAt division depth calls extent rel (next window) (nextOther other) middle
        middleTwin) :
    ConfinedAt division depth calls extent rel (openWindow script >>= next)
      (openWindow script >>= nextOther) session twin := by
  have hopens (session : Session engine) :
      Ends (openWindow script) session _ _ := ends_openWindow.mpr ⟨rfl, rfl⟩
  have hopened := shared_sampled hshared
    (session.sampler.enabled_openWindow script (session.clock.instant .window))
    (twin.sampler.enabled_openWindow script (twin.clock.instant .window))
    (sameBesides_ite_looked session.sampler.records session.clock)
    (sameBesides_ite_looked twin.sampler.records twin.clock)
  exact .of_still [] (outcome_bind_of_ends (hopens session)) (outcome_bind_of_ends (hopens twin))
    rfl rfl (.of_shared hopened rfl rfl rfl rfl rfl rfl (Sampler.enabled_openWindow ..) rfl) rfl
    (hnext _ _ _ _ hopened rfl rfl)

theorem confinedAt_closeWindow (window other : Window)
    (hshared : Shared division depth extent session twin) :
    ConfinedAt division depth (division.calls session.store) extent plain
      (closeWindow window : Host engine Unit) (closeWindow other) session twin :=
  .of_still_ends [] (ends_closeWindow.mpr rfl) (ends_closeWindow.mpr rfl) rfl rfl
    (advanced_sampled hshared (Sampler.enabled_closeWindow ..) (Sampler.enabled_closeWindow ..)
      (sameBesides_ite_looked window.isRecording session.clock)
      (sameBesides_ite_looked other.isRecording twin.clock)) rfl rfl (Eq.refl ())

theorem confined_elapsedMillis (wanted : Bool) (began : Nat) : Confined division depth extent realm
    plain (elapsedMillis wanted began : Host engine (Option Nat)) := by
  cases wanted with
  | false => exact .pure rfl
  | true =>
      exact (confined_now (by decide)).bind fun _ _ _ _ hended => .pure (by rw [plain, hended])

theorem confined_openScript (script : Script) : Confined division depth extent realm plain
    (openScript script : Host engine (Except Failure (String × String))) := by
  cases script with
  | inline code => exact .pure rfl
  | file path =>
      refine (confined_readFile path).bind fun greater content contentOther _ hcontent => ?_
      obtain rfl : contentOther = content := hcontent
      cases contentOther with
      | ok content => exact .pure rfl
      | error error => exact .pure rfl

section Driver

variable (isolates : Engine.Isolates division)

include isolates

/-- What the driver tells of a script does not depend on the window around it. -/
theorem confined_execute (hdepth : 0 < depth) (henvironment : environment ∈ extent.territory)
    (script : Script) : Confined division depth extent realm plain
      (execute budget environment out dump script) := by
  refine (confined_openScript script).bind fun opened result resultOther hopened hresult => ?_
  obtain rfl : resultOther = result := hresult
  rcases resultOther with failure | ⟨name, source⟩
  · exact .pure rfl
  refine (confined_note _).bind fun noted _ _ hnoted _ => ?_
  intro session twin hshared hrealm
  refine .get_bind ?_
  rw [hshared.enabled_eq, hshared.profiling_eq]
  refine (confined_now (by decide) hshared hrealm).bind
    fun _ began beganOther begun begunTwin hbegun hcallsBegun hbegan => ?_
  obtain rfl : beganOther = began := hbegan
  -- the sessions go on from windows that may differ
  refine confinedAt_openWindow_bind name hbegun.shared
    fun window other middle middleTwin hmiddle hcallsMiddle _ => ?_
  rw [← hcallsBegun, ← hcallsMiddle]
  have hhere := Extent.mem_of_le hbegun.le_grownTo
    (Extent.mem_of_le (hopened.trans hnoted) henvironment)
  refine (confined_report isolates hdepth hhere source name hmiddle rfl).bind
    fun _ exception exceptionOther reported _ hreported hcallsReported hexception => ?_
  obtain rfl : exceptionOther = exception := hexception
  refine (confinedAt_closeWindow window other hreported.shared).bind
    fun _ _ _ closed _ hclosed hcallsClosed _ => ?_
  refine (confined_elapsedMillis _ beganOther hclosed.shared rfl).bind
    fun _ millis millisOther timed _ htimed hcallsTimed hmillis => ?_
  obtain rfl : millisOther = millis := hmillis
  refine (confined_note _ htimed.shared rfl).bind fun _ _ _ told _ htold hcallsTold _ => ?_
  rw [← hcallsReported, ← hcallsClosed, ← hcallsTimed, ← hcallsTold]
  exact .pure htold.shared rfl

theorem confined_executeAll (hdepth : 0 < depth) (henvironment : environment ∈ extent.territory)
    (scripts : List Script) : Confined division depth extent realm plain
      (executeAll budget environment out dump scripts) := by
  induction scripts generalizing extent with
  | nil => exact .pure rfl
  | cons script rest ih =>
      refine (confined_execute isolates hdepth henvironment script).bind
        fun greater result resultOther hgreater hresult => ?_
      obtain rfl : resultOther = result := hresult
      cases resultOther with
      | error failure =>
          exact (confined_note _).bind fun _ _ _ _ _ =>
            (confined_note _).bind fun _ _ _ _ _ => .pure rfl
      | ok execution =>
          exact (ih (Extent.mem_of_le hgreater henvironment)).bind
            fun _ others othersTwin _ hothers => .pure (by rw [plain, hothers])

theorem confined_runScripts (hdepth : 0 < depth) (henvironment : environment ∈ extent.territory)
    (scripts : List Script) : Confined division depth extent realm plain
      (runScripts budget environment out dump scripts) := by
  refine (confined_changeSampler Sampler.start fun _ => rfl).bind fun started _ _ hstarted _ => ?_
  refine (confined_executeAll isolates hdepth (Extent.mem_of_le hstarted henvironment)
    scripts).bind fun _ success successOther _ hsuccess => ?_
  obtain rfl : successOther = success := hsuccess
  exact (confined_changeSampler Sampler.stop fun _ => rfl).bind fun _ _ _ _ _ => .pure rfl

end Driver

end Host

/-! ## Steps -/

/-- Two steps told the same, but for the names of objects. -/
inductive Engine.Division.Replied (division : engine.Division) (extent : division.Reach) :
    Reply engine → Reply engine → Prop
  | done : division.Replied extent .done .done
  | evaluated {outcome other : ScriptShell.Evaluated engine}
      (houtcome : division.Evaluated extent outcome other) :
      division.Replied extent (.evaluated outcome) (.evaluated other)
  | rendered (text : String) : division.Replied extent (.rendered text) (.rendered text)
  | environment {made other : Except engine.Fault Realm}
      (hmade : division.Result plain extent made other) :
      division.Replied extent (.environment made) (.environment other)
  | executed (result : Except Failure Execution) :
      division.Replied extent (.executed result) (.executed result)
  | ran (success : Bool) : division.Replied extent (.ran success) (.ran success)

namespace SessionStep

/-- The environment that a step has script code run or read in. -/
def environment? : SessionStep engine → Option Realm
  | .operate (.evaluate environment ..) | .operate (.checkSyntax environment ..)
  | .operate (.stringify environment _) | .operate (.execute environment ..)
  | .operate (.runScripts environment ..) | .operate (.shell environment _)
  | .operate (.shellOn environment ..) => some environment
  | _ => none

/-- A step that changes the sampler leaves it enabled or not. -/
def KeepsEnabled : SessionStep engine → Prop
  | .operate (.changeSampler change) => ∀ sampler, (change sampler).enabled = sampler.enabled
  | _ => True

/-- Whether a step enters or leaves a frame. -/
def frames : SessionStep engine → Bool
  | .enter _ | .leave => true
  | _ => false

/-- Two steps are the same but for the name of an object that they render. -/
inductive Alike (division : engine.Division) (extent : division.Reach) :
    SessionStep engine → SessionStep engine → Prop
  | same {step : SessionStep engine}
      (hvalue : ∀ environment value, step ≠ .operate (.stringify environment value)) :
      Alike division extent step step
  | stringify (environment : Realm) {value other : engine.Value}
      (hvalue : division.Value extent value other) :
      Alike division extent (.operate (.stringify environment value))
        (.operate (.stringify environment other))

end SessionStep

namespace Host

variable {depth budget : Nat} {extent : division.Reach} {realm : Realm}
  {step other : SessionStep engine}

/-- A step keeps to a territory that its environment is in. -/
theorem confines_reply (isolates : Engine.Isolates division) (hdepth : 0 < depth)
    (hframes : step.frames = false) (hsaves : step.saves = false) (hsampler : step.KeepsEnabled)
    (henvironment : ∀ environment ∈ step.environment?, environment ∈ extent.territory)
    (halike : SessionStep.Alike division extent step other) :
    Confines division depth extent realm division.Replied (step.reply budget)
      (other.reply budget) := by
  have hdone {α : Type} {rel : division.Reach → α → α → Prop} {action : Host engine α}
      (haction : Confined division depth extent realm rel action) :
      Confined division depth extent realm division.Replied
        (action >>= fun _ => pure (Reply.done : Reply engine)) :=
    haction.bind fun _ _ _ _ _ => .pure .done
  have hdiscards {α : Type} {rel : division.Reach → α → α → Prop} {action : Host engine α}
      (haction : Confined division depth extent realm rel action) :
      Confined division depth extent realm plain (discard action) :=
    haction.map fun _ _ _ _ => rfl
  cases halike with
  | stringify environment hvalue =>
      refine (confines_stringifyIn isolates budget hdepth (henvironment _ rfl) hvalue).map
        fun greater text textOther htext => ?_
      obtain rfl : textOther = text := htext
      exact .rendered textOther
  | same hvalue =>
      cases step with
      | start => exact hdone (confined_changeSampler Sampler.start fun _ => rfl)
      | stop => exact hdone (confined_changeSampler Sampler.stop fun _ => rfl)
      | enter frame => cases hframes
      | leave => cases hframes
      | operate operation =>
          cases operation with
          | evaluate environment source name =>
              exact (confined_evaluateIn isolates budget source name hdepth
                (henvironment _ rfl)).map fun _ _ _ houtcome => .evaluated houtcome
          | checkSyntax environment source name =>
              exact (confined_checkSyntaxIn isolates budget source name
                (henvironment _ rfl)).map fun _ _ _ houtcome => .evaluated houtcome
          | stringify environment value => exact absurd rfl (hvalue environment value)
          | createEnvironment arguments =>
              refine (confined_createEnvironment isolates arguments).map
                fun greater made madeOther hmade => .environment ?_
              cases hmade with
              | ok hplace => exact .ok hplace.1
              | error hfault => exact .error hfault
          | execute environment out dump script =>
              have huntimed : Confined division depth extent realm plain
                  (Except.map Execution.untimed <$> execute budget environment out dump script) :=
                (confined_execute isolates hdepth (henvironment _ rfl) script).map
                  fun _ _ _ hresult => congrArg (Except.map Execution.untimed) hresult
              refine huntimed.map fun greater result resultOther hresult => ?_
              obtain rfl : resultOther = result := hresult
              exact .executed resultOther
          | runScripts environment out dump scripts =>
              refine (confined_runScripts isolates hdepth (henvironment _ rfl) scripts).map
                fun greater success successOther hsuccess => ?_
              obtain rfl : successOther = success := hsuccess
              exact .ran successOther
          | shell environment out =>
              exact hdone (confined_shell isolates hdepth (henvironment _ rfl))
          | shellOn environment out input =>
              exact hdone (hdiscards (confined_shellOnLines isolates hdepth (henvironment _ rfl)
                (input.length + 1) input))
          | changeFlags change => exact hdone (confined_changeFlags change)
          | changeSampler change => exact hdone (confined_changeSampler change hsampler)
          | saveProfile path => cases hsaves

end Host

end ScriptShell
