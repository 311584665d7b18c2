import ScriptShell.Proofs.Isolation.Steps

/-!
# Turns

A user asks for steps, and to have the value rendered that an earlier step came to. The turns of a
session are what was asked for with the sessions in which it was done. The turns that are not in an
environment can be taken again in a session in which the others did not take place (`Turn.replay`).
There the values may be other objects, and what was said of a value is asked of the one that
corresponds.

Where the turns in one environment are left out, the realms divide into those inside, which are its
own and all that script code in it had made, and the realms outside. `Beside` is what then holds
between the session and the other one. The turns that are left out keep to the realms inside
(`Beside.leaveOut`).
-/

namespace ScriptShell

variable {engine : Engine}

/-! ## Asking -/

/-- What a user asks of a session. -/
inductive Ask (engine : Engine) where
  | take (step : SessionStep engine)
  /-- Renders in an environment the value that the turn with a number came to. -/
  | render (environment : Realm) (turn : Nat)

namespace Ask

/-- The environment in which script code is run or read. -/
def environment? : Ask engine → Option Realm
  | .take step => step.environment?
  | .render environment _ => some environment

/-- A value that a user hands to a step without a turn that it comes from. -/
def handed? : Ask engine → Option engine.Value
  | .take (.operate (.stringify _ value)) => some value
  | _ => none

/-- The turn whose value is rendered. -/
def shown? : Ask engine → Option Nat
  | .take _ => none
  | .render _ turn => some turn

end Ask

/-- The value that a step came to, which is `undefined` where there is none. -/
def Reply.value : Reply engine → engine.Value
  | .evaluated (.completed value) => value
  | _ => engine.undefined

/-! ## Turns -/

/-- What is asked for, with the session in which it is done and what the turns before told. -/
structure Turn (engine : Engine) where
  session : Session engine
  told : List (Reply engine)
  ask : Ask engine

namespace Turn

variable (budget : Nat) (turn : Turn engine)

/-- The step that is asked for. -/
def step : SessionStep engine :=
  match turn.ask with
  | .take step => step
  | .render environment number =>
    .operate (.stringify environment (turn.told.getD number .done).value)

def outcome : Except Halt (Reply engine) × Session engine :=
  (turn.step.reply budget).outcome turn.session

/-- What the step tells, or why it was cut off. -/
def result : Except Halt (Reply engine) :=
  (turn.outcome budget).1

/-- What the step tells, if anything. -/
def tells : Reply engine :=
  (turn.result budget).toOption.getD .done

/-- The session behind the step. -/
def after : Session engine :=
  (turn.outcome budget).2

/-- What the step leaves in the journal, the output of script code included. -/
def entries : List Entry :=
  turn.session.gained (turn.after budget)

/-- What there is to notice of a turn. -/
def effect : Except Halt (Reply engine) × List Entry :=
  (turn.result budget, turn.entries budget)

/-- The environment that was made. -/
def made? : Option Realm :=
  match turn.result budget with
  | .ok (.environment (.ok place)) => some place
  | _ => none

/-- Whether the step has script code run or read in an environment. -/
def isIn (environment : Realm) : Bool :=
  turn.ask.environment? == some environment

/-- The same is asked for in another session, in which the turns before told something else. -/
def retaken (session : Session engine) (told : List (Reply engine)) : Turn engine :=
  ⟨session, told, turn.ask⟩

end Turn

/-- The turns of what is asked for one after another, up to the first that is cut off. -/
def Ask.turns (budget : Nat) :
    List (Ask engine) → List (Reply engine) → Session engine → List (Turn engine)
  | [], _, _ => []
  | ask :: rest, told, session =>
    let turn : Turn engine := ⟨session, told, ask⟩
    turn :: match turn.result budget with
      | .ok reply => turns budget rest (told ++ [reply]) (turn.after budget)
      | .error _ => []

/-- The turns that are not in an environment. -/
def Turn.elsewhere (environment : Realm) (turns : List (Turn engine)) : List (Turn engine) :=
  turns.filter fun turn => !turn.isIn environment

/-- Behind a step that was cut off there are no turns. -/
theorem Ask.turns_cons (budget : Nat) (ask : Ask engine) (rest : List (Ask engine))
    (told : List (Reply engine)) (session : Session engine) :
    let turn : Turn engine := ⟨session, told, ask⟩
    ∃ others, turns budget (ask :: rest) told session = turn :: others ∧
      (∀ halt, turn.result budget = .error halt → others = []) ∧
      ∀ reply, turn.result budget = .ok reply →
        others = turns budget rest (told ++ [reply]) (turn.after budget) := by
  intro turn
  refine ⟨_, rfl, fun halt hresult => ?_, fun reply hresult => ?_⟩
  · rw [hresult]
  · rw [hresult]

theorem Ask.ask_mem_of_mem_turns {budget : Nat} {asks : List (Ask engine)}
    {told : List (Reply engine)} {session : Session engine} {turn : Turn engine}
    (hturn : turn ∈ turns budget asks told session) : turn.ask ∈ asks := by
  induction asks generalizing told session with
  | nil => cases hturn
  | cons ask rest ih =>
      obtain ⟨others, hturns, herror, hok⟩ := turns_cons budget ask rest told session
      rw [hturns] at hturn
      rcases List.mem_cons.mp hturn with rfl | hrest
      · exact List.mem_cons_self
      · cases hresult : Turn.result budget ⟨session, told, ask⟩ with
        | error halt =>
            rw [herror halt hresult] at hrest
            cases hrest
        | ok reply =>
            rw [hok reply hresult] at hrest
            exact List.mem_cons_of_mem _ (ih hrest)

/-- The session, where there is found around it what another one found: the time and the files, and
the numbers that the next realm and the next job get, which are but names. -/
def Session.finding (session found : Session engine) : Session engine :=
  { session with
    clock := found.clock
    files := found.files
    realms := found.realms
    jobCount := found.jobCount }

/-- Takes the turns again that are not in an environment, one after another from a session on, and
tells what there is to notice. The turns that are left out tell nothing. -/
def Turn.replay (budget : Nat) (environment : Realm) :
    List (Turn engine) → List (Reply engine) → Session engine →
      List (Except Halt (Reply engine) × List Entry)
  | [], _, _ => []
  | turn :: rest, told, session =>
    if turn.isIn environment then replay budget environment rest (told ++ [.done]) session
    else
      let again := turn.retaken (session.finding turn.session) told
      again.effect budget ::
        replay budget environment rest (told ++ [again.tells budget]) (again.after budget)

/-- The turns in an environment can be told from the others, and they have to do with these by what
the engine holds alone. -/
structure Separate (division : engine.Division) (budget : Nat) (environment : Realm)
    (turns : List (Turn engine)) : Prop where
  /-- No frame is held open, and no step leaves a job waiting. -/
  settled : ∀ turn ∈ turns, turn.session.frames = [] ∧ turn.session.jobs = []
  /-- The sampler is not made another one. -/
  sampling : ∀ turn ∈ turns, turn.step.KeepsEnabled
  /-- Every environment that a step names was made by an earlier one. -/
  made : ∀ before turn behind, turns = before ++ turn :: behind →
    ∀ place ∈ turn.ask.environment?, ∃ earlier ∈ before, earlier.made? budget = some place
  /-- A value that comes from no turn is none of the objects that there are. -/
  handed : ∀ turn ∈ turns, ∀ value ∈ turn.ask.handed?, ∀ extent, division.Value extent value value
  /-- A value is rendered on the side that it comes from. -/
  shown : ∀ before turn behind, turns = before ++ turn :: behind →
    ∀ number ∈ turn.ask.shown?, ∀ earlier ∈ before[number]?,
      earlier.isIn environment = turn.isIn environment
  /-- In the environment no standard input is read and no sampling flag is changed. -/
  quiet : ∀ turn ∈ turns, turn.isIn environment = true →
    (turn.after budget).input = turn.session.input ∧
      (turn.after budget).flags = turn.session.flags

/-- Two turns came to the same, but for the names of objects, and left the same entries. -/
inductive Engine.Division.Noticed (division : engine.Division) (extent : division.Reach) :
    Except Halt (Reply engine) × List Entry → Except Halt (Reply engine) × List Entry → Prop
  | ok {reply other : Reply engine} (hreply : division.Replied extent reply other)
      (entries : List Entry) : division.Noticed extent (.ok reply, entries) (.ok other, entries)
  | halted (halt : Halt) (entries : List Entry) :
      division.Noticed extent (.error halt, entries) (.error halt, entries)

/-! ## The realms outside -/

/-- The realms that there are besides some. -/
def besides (own : Set Realm) (realms : Nat) : Set Realm :=
  {realm : Nat | realm < realms ∧ realm ∉ own}

section Besides

variable {own : Set Realm} {first last : Nat}

theorem besides_grown (hle : first ≤ last) :
    besides (grown own first last) last = besides own first := by
  refine Set.ext fun (realm : Nat) => ?_
  show realm < last ∧ ¬(realm ∈ own ∨ first ≤ realm ∧ realm < last) ↔ realm < first ∧ realm ∉ own
  constructor
  · rintro ⟨hlast, hout⟩
    exact ⟨by omega, fun hown => hout (.inl hown)⟩
  · rintro ⟨hfirst, hout⟩
    exact ⟨by omega, fun hin => hin.elim hout fun hbetween => by omega⟩

theorem grown_besides (hbelow : ∀ realm ∈ own, realm < first) (hle : first ≤ last) :
    grown (besides own first) first last = besides own last := by
  refine Set.ext fun (realm : Nat) => ?_
  show (realm < first ∧ realm ∉ own) ∨ first ≤ realm ∧ realm < last ↔ realm < last ∧ realm ∉ own
  constructor
  · rintro (⟨hfirst, hout⟩ | ⟨hfirst, hlast⟩)
    · exact ⟨by omega, hout⟩
    · exact ⟨hlast, fun hown => Nat.not_le_of_lt (hbelow realm hown) hfirst⟩
  · rintro ⟨hlast, hout⟩
    by_cases hfirst : realm < first
    · exact .inl ⟨hfirst, hout⟩
    · exact .inr ⟨by omega, hlast⟩

end Besides

/-! ## What turns tell of environments -/

section Turns

variable {division : engine.Division} {budget : Nat} {environment : Realm}
  {past rest : List (Turn engine)} {again : List (Reply engine)} {turn : Turn engine}
  {inside outside : division.Reach} {session twin after behind other : Session engine}

namespace SessionStep

variable {step : SessionStep engine}

end SessionStep

namespace Host

/-- Only a step that makes an environment tells of one. -/
theorem of_made {step : SessionStep engine} {made : Except engine.Fault Realm}
    (hends : Ends (step.reply budget) session (.environment made) after) :
    ∃ arguments, step = .operate (.createEnvironment arguments) := by
  have hmapped : ∀ {α : Type} {action : Host engine α} {tell : α → Reply engine},
      Ends (tell <$> action) session (.environment made) after →
        ∃ value, .environment made = tell value := by
    intro α action tell htold
    rw [map_eq_pure_bind] at htold
    obtain ⟨value, _, _, hlast⟩ := ends_bind.mp htold
    exact ⟨value, (ends_pure.mp hlast).1⟩
  have hdone : ∀ {α : Type} {action : Host engine α},
      ¬Ends (action >>= fun _ => pure Reply.done) session (.environment made) after := by
    intro α action htold
    obtain ⟨_, _, _, hlast⟩ := ends_bind.mp htold
    cases (ends_pure.mp hlast).1
  cases step with
  | operate operation =>
      cases operation with
      | createEnvironment arguments => exact ⟨arguments, rfl⟩
      | evaluate | checkSyntax | stringify | execute | runScripts =>
          obtain ⟨_, htold⟩ := hmapped hends
          cases htold
      | shell | shellOn | changeFlags | changeSampler | saveProfile => exact absurd hends hdone
  | _ => exact absurd hends hdone

theorem ends_reply_createEnvironment {arguments : List String} {reply : Reply engine}
    (hends : Ends (SessionStep.reply budget (.operate (.createEnvironment arguments))) session reply
      after) :
    ∃ made, reply = .environment made ∧
      ∀ place, made = .ok place → place = session.realms ∧ after.realms = place + 1 := by
  have hmapped : Ends (Reply.environment <$> (createEnvironment arguments).run) session reply
      after := hends
  rw [map_eq_pure_bind] at hmapped
  obtain ⟨made, _, hmade, hlast⟩ := ends_bind.mp hmapped
  obtain ⟨rfl, rfl⟩ := ends_pure.mp hlast
  refine ⟨made, rfl, fun place hplace => ?_⟩
  rcases createEnvironment_cases hmade with ⟨_, hfault, -⟩ | ⟨store, bound, ⟨_, hfault, -⟩ |
    ⟨hrealm, rfl⟩⟩
  · cases hfault.symm.trans hplace
  · cases hfault.symm.trans hplace
  · obtain rfl : session.realms = place := Except.ok.inj (hrealm.symm.trans hplace)
    exact ⟨rfl, rfl⟩

end Host

namespace Turn

theorem ends_reply {reply : Reply engine} (hresult : turn.result budget = .ok reply) :
    Host.Ends (turn.step.reply budget) turn.session reply (turn.after budget) :=
  Prod.ext hresult rfl

theorem tells_of_result {reply : Reply engine} (hresult : turn.result budget = .ok reply) :
    turn.tells budget = reply := by
  rw [tells, hresult]
  rfl

theorem made?_eq_some {place : Realm} :
    turn.made? budget = some place ↔ turn.result budget = .ok (.environment (.ok place)) := by
  unfold made?
  split
  · simp_all
  · rename_i hother
    exact iff_of_false nofun (hother place)

/-- A new environment has the number of realms that there were. -/
theorem place_of_made {place : Realm} (hmade : turn.made? budget = some place) :
    place = turn.session.realms ∧ (turn.after budget).realms = place + 1 := by
  have hends := ends_reply (made?_eq_some.mp hmade)
  obtain ⟨arguments, hstep⟩ := Host.of_made hends
  rw [hstep] at hends
  obtain ⟨made, htold, hplace⟩ := Host.ends_reply_createEnvironment hends
  cases htold
  exact hplace place rfl

theorem effect_of_outcome {told : Except Halt (Reply engine)} (gained : List Entry)
    (houtcome : (turn.step.reply budget).outcome turn.session = (told, after))
    (hhistory : after.history = gained.reverse ++ turn.session.history) :
    turn.effect budget = (told, gained) := by
  have hhere : turn.outcome budget = (told, after) := houtcome
  unfold effect entries result Turn.after
  rw [hhere, Session.gained_eq hhistory]

/-- Two turns are taken alike: to replies that correspond and on to what a territory has become, or
to the same cut. -/
inductive Parallel (division : engine.Division) (budget depth : Nat) (extent : division.Reach)
    (turn again : Turn engine) : Prop
  | ends {reply other : Reply engine} {naming : division.Naming} (entries : List Entry)
      (heffect : turn.effect budget = (.ok reply, entries))
      (hagain : again.effect budget = (.ok other, entries))
      (hadvanced : Advanced division depth extent naming turn.session again.session
        (turn.after budget) (again.after budget))
      (hcalls : division.calls (turn.after budget).store = division.calls turn.session.store)
      (hreply : division.Replied
        (extent.grownTo naming turn.session.realms (turn.after budget).realms) reply other)
  | halts (halt : Halt) (entries : List Entry)
      (heffect : turn.effect budget = (.error halt, entries))
      (hagain : again.effect budget = (.error halt, entries))

/-- A turn that is confined is taken alike in another session. -/
theorem parallel_of_confines {depth : Nat} {extent : division.Reach} {again : Turn engine}
    (hconfines : Host.Confines division depth extent turn.session.realm division.Replied
      (turn.step.reply budget) (again.step.reply budget))
    (hshared : Shared division depth extent turn.session again.session) :
    turn.Parallel division budget depth extent again := by
  cases hconfines hshared rfl with
  | @ends reply other after behind naming gained hfirst hsecond hhistory hhistoryTwin hadvanced
      hcalls hreply =>
      obtain rfl : turn.after budget = after := congrArg Prod.snd hfirst
      obtain rfl : again.after budget = behind := congrArg Prod.snd hsecond
      exact .ends gained (effect_of_outcome gained hfirst hhistory)
        (effect_of_outcome gained hsecond hhistoryTwin) hadvanced hcalls hreply
  | @halts halt after behind gained hfirst hsecond hhistory hhistoryTwin =>
      exact .halts halt gained (effect_of_outcome gained hfirst hhistory)
        (effect_of_outcome gained hsecond hhistoryTwin)

end Turn

namespace Engine.Isolates

variable (isolates : Engine.Isolates division) {extent greater : division.Reach}

include isolates

theorem replied_mono (hgreater : extent ≤ greater) {reply other : Reply engine}
    (hreply : division.Replied extent reply other) : division.Replied greater reply other := by
  cases hreply with
  | done => exact .done
  | rendered text => exact .rendered text
  | executed result => exact .executed result
  | ran success => exact .ran success
  | environment hmade =>
      cases hmade with
      | ok hplace => exact .environment (.ok hplace)
      | error hfault => exact .environment (.error (isolates.fault_mono hgreater hfault))
  | evaluated houtcome =>
      cases houtcome with
      | completed hvalue => exact .evaluated (.completed (isolates.value_mono hgreater hvalue))
      | threw hfault info => exact .evaluated (.threw (isolates.fault_mono hgreater hfault) info)

end Engine.Isolates

/-! ## Behind the same turns -/

/-- What a turn told is known inside, where it is left out; else it corresponds outside to what is
told again. -/
def Engine.Division.Told (division : engine.Division) (budget : Nat) (environment : Realm)
    (inside outside : division.Reach) (turn : Turn engine) (other : Reply engine) : Prop :=
  if turn.isIn environment then
    other = .done ∧ division.Replied inside (turn.tells budget) (turn.tells budget)
  else division.Replied outside (turn.tells budget) other

/-- Behind some turns of a session, another session in which those in an environment were left out
is the same outside of the realms that belong to the environment. -/
structure Beside (division : engine.Division) (budget : Nat) (environment : Realm)
    (past : List (Turn engine)) (again : List (Reply engine)) (inside outside : division.Reach)
    (session twin : Session engine) : Prop where
  outside_eq : outside.territory = besides inside.territory session.realms
  below : ∀ realm ∈ inside.territory, realm < session.realms
  shared : Shared division 1 outside session twin
  /-- What is inside can be reached from nowhere else. -/
  alike : division.Alike inside session.store session.store
  places : ∀ turn ∈ past, ∀ place, turn.made? budget = some place →
    place < session.realms ∧ (place ∈ inside.territory ↔ place = environment)
  told : List.Forall₂ (division.Told budget environment inside outside) past again

namespace Session

end Session

namespace Shared

variable {extent : division.Reach}

/-- Finding what there is found in the session changes nothing but the clock. -/
theorem finding {depth : Nat} (h : Shared division depth extent session twin) :
    Shared division depth extent session (twin.finding session) := by
  obtain ⟨store, jobs, sampler, profile, clock, history, rfl⟩ := h.same
  exact { h with
    same := ⟨store, jobs, sampler, profile, session.clock, history, rfl⟩
    clock := .refl _ _ }

/-- A session shares with itself what cannot be reached from elsewhere. -/
theorem self {depth : Nat} (halike : division.Alike extent session.store session.store)
    (hbelow : ∀ realm ∈ extent.territory, realm < session.realms) (hjobs : session.jobs = []) :
    Shared division depth extent session session where
  same := ⟨_, _, _, _, _, _, rfl⟩
  alike := halike
  below := hbelow
  ready _ := by simp [hjobs]
  enabled_eq := rfl
  profiling_eq := rfl
  clock := .refl _ _

end Shared

namespace Beside

variable (isolates : Engine.Isolates division)

theorem apart (h : Beside division budget environment past again inside outside session twin)
    {realm : Realm} (hrealm : realm ∈ outside.territory) : realm ∉ inside.territory := by
  rw [h.outside_eq] at hrealm
  exact hrealm.2

theorem mem_outside (h : Beside division budget environment past again inside outside session twin)
    {realm : Realm} (hbelow : realm < session.realms) (hrealm : realm ∉ inside.territory) :
    realm ∈ outside.territory := by
  rw [h.outside_eq]
  exact ⟨hbelow, hrealm⟩

include isolates

theorem advance (h : Beside division budget environment past again inside outside session twin)
    {within beyond : division.Reach} {other : Reply engine} (hwithin : inside ≤ within)
    (hbeyond : outside ≤ beyond)
    (hbesides : beyond.territory = besides within.territory after.realms)
    (hbelow : ∀ realm ∈ within.territory, realm < after.realms)
    (hshared : Shared division 1 beyond after behind)
    (halike : division.Alike within after.store after.store)
    (hrealms : session.realms ≤ after.realms)
    (hplace : ∀ place, turn.made? budget = some place →
      place < after.realms ∧ (place ∈ within.territory ↔ place = environment))
    (htold : division.Told budget environment within beyond turn other) :
    Beside division budget environment (past ++ [turn]) (again ++ [other]) within beyond after
      behind where
  outside_eq := hbesides
  below := hbelow
  shared := hshared
  alike := halike
  places := by
    refine List.forall_mem_append.mpr ⟨fun turn hturn place hmade => ?_, by simpa using hplace⟩
    obtain ⟨hthere, hown⟩ := h.places turn hturn place hmade
    refine ⟨hthere.trans_le hrealms, Iff.trans ⟨fun hmem => ?_, fun hmem => hwithin.2 hmem⟩ hown⟩
    -- a realm of the session is on the side on which it was
    by_contra hout
    have hbeside : place ∈ beyond.territory := hbeyond.2 (h.mem_outside hthere hout)
    rw [hbesides] at hbeside
    exact hbeside.2 hmem
  told := by
    refine List.rel_append (h.told.imp fun turn other hearlier => ?_) (.cons htold .nil)
    unfold Engine.Division.Told at hearlier ⊢
    by_cases hin : turn.isIn environment = true
    · rw [if_pos hin] at hearlier ⊢
      exact ⟨hearlier.1, isolates.replied_mono hwithin hearlier.2⟩
    · rw [if_neg hin] at hearlier ⊢
      exact isolates.replied_mono hbeyond hearlier

end Beside

end Turns

end ScriptShell
