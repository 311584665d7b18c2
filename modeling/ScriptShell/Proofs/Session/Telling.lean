import ScriptShell.Proofs.Session.Parallel

/-!
# What actions tell

The history of a session is only ever added to. Whatever it holds, an action comes to the same
ending, leaves the same behind and adds the same entries, so that nothing that was announced or
written decides about anything that comes (`Host.Tells`).

What script code adds has a grammar. A call of a native that asks for a file is followed by what the
conversion of its argument adds and by the entry for the file, and a call of `run` that could read
its file then makes an environment, announces it and enters the file's frame, before anything else
the file does. `Told` says so, together with the paths of those files in the order of the calls.
Only an engine that refuses to make a realm or to furnish it (`Engine.Refuses`) keeps the
announcement back.

## Main results

* `Host.tells_evaluateIn`, `Host.tells_stringifyIn`: script code, whether it comes to its end or is
  cut off.
-/

namespace ScriptShell

variable {engine : Engine}

/-! ## The grammar -/

/-- The engine does not make every realm, or does not bind the natives in every realm. -/
def Engine.Refuses (engine : Engine) : Prop :=
  (∃ realm store fault, engine.createRealm realm store = .error fault) ∨
    ∃ realm natives arguments store fault,
      (engine.install realm natives arguments store).2 = .error fault

/-- A native asks for a file. -/
def Native.AsksForFile (native : Native) : Prop :=
  native = .run ∨ native = .load ∨ native = .checkSyntax

instance (native : Native) : Decidable native.AsksForFile :=
  inferInstanceAs (Decidable (_ ∨ _))

/-- An entry of script code that belongs to no environment and to no file. -/
def Entry.Aside : Entry → Prop
  | .logged _ | .fileRead _ _ | .realmCreated _ => False
  | .called native _ => ¬ native.AsksForFile
  | _ => True

/-- What script code adds to the journal, with the paths of the files that calls of `run` could
read. -/
inductive Told (engine : Engine) : List Entry → List String → Prop
  | nil : Told engine [] []
  | append {first second : List Entry} {paths others : List String}
      (hfirst : Told engine first paths) (hsecond : Told engine second others) :
      Told engine (first ++ second) (paths ++ others)
  | aside {entry : Entry} (haside : entry.Aside) : Told engine [entry] []
  /-- The conversion of the argument threw, or was cut off. -/
  | unconverted {native : Native} {frames : List String} {conversion : List Entry}
      {paths : List String} (hnative : native.AsksForFile)
      (hconversion : Told engine conversion paths) :
      Told engine (.called native frames :: conversion) paths
  /-- The file was read where `load` or `checkSyntax` was called, or could not be read. -/
  | read {native : Native} {frames : List String} {conversion : List Entry} {paths : List String}
      {path : String} {found : Bool} (hnative : native.AsksForFile)
      (hfound : native = .run → found = false) (hconversion : Told engine conversion paths) :
      Told engine (.called native frames :: (conversion ++ [.fileRead path found])) paths
  /-- The file was read where `run` was called, and the engine made no environment. -/
  | refused {frames : List String} {conversion made : List Entry} {paths : List String}
      {path : String} (hrefuses : engine.Refuses)
      (hmade : made = [] ∨ ∃ realm, made = [.realmCreated realm])
      (hconversion : Told engine conversion paths) :
      Told engine (.called .run frames :: (conversion ++ .fileRead path true :: made)) paths
  /-- The file was read where `run` was called, and entered in an environment of its own. -/
  | ran {frames : List String} {conversion body : List Entry} {paths inside : List String}
      {path : String} {realm : Realm} (hconversion : Told engine conversion paths)
      (hbody : Told engine body inside) :
      Told engine (.called .run frames :: (conversion ++ .fileRead path true ::
        .realmCreated realm :: .logged (.environmentCreated 0) :: .entered path :: body))
        (paths ++ path :: inside)

/-- Entries that script code may add. -/
def Tale (engine : Engine) (entries : List Entry) : Prop :=
  ∃ paths, Told engine entries paths

namespace Tale

variable {first second : List Entry}

theorem nil : Tale engine [] :=
  ⟨[], .nil⟩

theorem append (hfirst : Tale engine first) (hsecond : Tale engine second) :
    Tale engine (first ++ second) :=
  ⟨_, .append hfirst.choose_spec hsecond.choose_spec⟩

theorem aside {entry : Entry} (haside : entry.Aside) : Tale engine [entry] :=
  ⟨[], .aside haside⟩

theorem cons {entry : Entry} {entries : List Entry} (haside : entry.Aside)
    (hentries : Tale engine entries) : Tale engine (entry :: entries) :=
  append (aside haside) hentries

/-- Where `load` and `checkSyntax` go on behind the entry for the file. -/
theorem read {native : Native} (hnative : native = .load ∨ native = .checkSyntax)
    {frames : List String} {conversion more : List Entry} {path : String}
    (hconversion : Tale engine conversion) (hmore : Tale engine more) :
    Tale engine (.called native frames :: (conversion ++ .fileRead path true :: more)) := by
  have hasks : native.AsksForFile ∧ native ≠ .run := by
    rcases hnative with rfl | rfl <;> exact ⟨by decide, by decide⟩
  have hread : Tale engine (.called native frames :: (conversion ++ [.fileRead path true])) :=
    ⟨_, .read hasks.1 (fun hrun => absurd hrun hasks.2) hconversion.choose_spec⟩
  simpa using hread.append hmore

end Tale

namespace Host

variable {α β : Type}

/-! ## Actions that tell something -/

/-- Whatever happened before, the action comes to the same ending and adds the same entries, of
which something holds. -/
def Tells (action : Host engine α) (holds : Except Halt α → List Entry → Prop) : Prop :=
  ∀ session : Session engine, ∃ entries, holds (action.outcome session).1 entries ∧
    ∀ history, action.outcome { session with history } =
      ((action.outcome session).1,
        { (action.outcome session).2 with history := entries.reverse ++ history })

namespace Tells

variable {holds : Except Halt α → List Entry → Prop}

/-- The session behind the action has the entries in front of what was there. -/
theorem history_eq {action : Host engine α} (h : Tells action holds) (session : Session engine) :
    ∃ entries, holds (action.outcome session).1 entries ∧
      (action.outcome session).2.history = entries.reverse ++ session.history := by
  obtain ⟨entries, hholds, hsame⟩ := h session
  exact ⟨entries, hholds, congrArg (fun outcome => outcome.2.history) (hsame session.history)⟩

theorem mono {action : Host engine α} {more : Except Halt α → List Entry → Prop}
    (h : Tells action holds)
    (hmore : ∀ ending entries, holds ending entries → more ending entries) : Tells action more := by
  intro session
  obtain ⟨entries, hholds, hsame⟩ := h session
  exact ⟨entries, hmore _ _ hholds, hsame⟩

/-- An action that always comes to its end. -/
theorem of_ends {action : Host engine α} (result : Session engine → α)
    (change : Session engine → Session engine) (entries : Session engine → List Entry)
    (hends : ∀ session, Ends action session (result session) (change session))
    (hholds : ∀ session, holds (.ok (result session)) (entries session))
    (hresult : ∀ session history, result { session with history } = result session)
    (hchange : ∀ session history, change { session with history } =
      { change session with history := (entries session).reverse ++ history }) :
    Tells action holds := by
  intro session
  have houtcome : ∀ session, action.outcome session = (.ok (result session), change session) :=
    hends
  refine ⟨entries session, ?_, fun history => ?_⟩
  · rw [houtcome]
    exact hholds session
  · rw [houtcome, houtcome, hresult, hchange]

theorem pure {value : α} (hholds : holds (.ok value) []) :
    Tells (pure value : Host engine α) holds :=
  .of_ends (fun _ => value) id (fun _ => []) (fun _ => rfl) (fun _ => hholds) (fun _ _ => rfl)
    fun _ _ => rfl

theorem throw {halt : Halt} (hholds : holds (.error halt) []) :
    Tells (throw halt : Host engine α) holds :=
  fun _ => ⟨[], hholds, fun _ => rfl⟩

theorem modify {change : Session engine → Session engine}
    {holds : Except Halt PUnit → List Entry → Prop} (hholds : holds (.ok ()) [])
    (hchange : ∀ session history, change { session with history } =
      { change session with history }) :
    Tells (modify change : Host engine PUnit) holds :=
  .of_ends (fun _ => ()) change (fun _ => []) (fun _ => ends_modify.mpr rfl) (fun _ => hholds)
    (fun _ _ => rfl) hchange

theorem note {entry : Entry} {holds : Except Halt Unit → List Entry → Prop}
    (hholds : holds (.ok ()) [entry]) : Tells (note entry : Host engine Unit) holds :=
  .of_ends (fun _ => ()) (·.note entry) (fun _ => [entry]) (fun _ => ends_note.mpr rfl)
    (fun _ => hholds) (fun _ _ => rfl) fun _ _ => rfl

/-- What follows tells the rest. -/
theorem bind {first : Except Halt α → List Entry → Prop} {holds : Except Halt β → List Entry → Prop}
    {action : Host engine α} {next : α → Host engine β} (haction : Tells action first)
    (hcut : ∀ halt entries, first (.error halt) entries → holds (.error halt) entries)
    (hnext : ∀ value entries, first (.ok value) entries →
      Tells (next value) fun ending more => holds ending (entries ++ more)) :
    Tells (action >>= next) holds := by
  intro session
  obtain ⟨entries, hfirst, hsame⟩ := haction session
  rcases houtcome : action.outcome session with ⟨halt | value, middle⟩ <;>
    rw [houtcome] at hfirst hsame
  · refine ⟨entries, ?_, fun history => ?_⟩
    · rw [outcome_bind, houtcome]
      exact hcut halt entries hfirst
    · rw [outcome_bind, outcome_bind, hsame, houtcome]
  · obtain ⟨more, hholds, hsameNext⟩ := hnext value entries hfirst middle
    refine ⟨entries ++ more, ?_, fun history => ?_⟩
    · rw [outcome_bind, houtcome]
      exact hholds
    · rw [outcome_bind, outcome_bind, hsame, houtcome, List.reverse_append, List.append_assoc]
      exact hsameNext _

/-- What follows a look at the session does not depend on what happened. -/
theorem get_bind {next : Session engine → Host engine α}
    (hnext : ∀ session, Tells (next session) holds)
    (hblind : ∀ session history, next { session with history } = next session) :
    Tells (get >>= next) holds := by
  intro session
  have houtcome : ∀ other, (get >>= next).outcome other = (next other).outcome other :=
    fun _ => outcome_bind_of_ends (ends_get.mpr ⟨rfl, rfl⟩)
  obtain ⟨entries, hholds, hsame⟩ := hnext session session
  refine ⟨entries, ?_, fun history => ?_⟩
  · rw [houtcome]
    exact hholds
  · rw [houtcome, houtcome, hblind]
    exact hsame history

/-- What comes behind something thrown is left out. -/
theorem run_bind {first : Except Halt (Except engine.Fault α) → List Entry → Prop}
    {holds : Except Halt (Except engine.Fault β) → List Entry → Prop} {action : Attempt engine α}
    {next : α → Attempt engine β} (haction : Tells action.run first)
    (hcut : ∀ halt entries, first (.error halt) entries → holds (.error halt) entries)
    (hthrow : ∀ fault entries, first (.ok (.error fault)) entries →
      holds (.ok (.error fault)) entries)
    (hnext : ∀ value entries, first (.ok (.ok value)) entries →
      Tells (next value).run fun ending more => holds ending (entries ++ more)) :
    Tells (action >>= next).run holds := by
  rw [ExceptT.run_bind]
  refine haction.bind hcut fun result entries hfirst => ?_
  cases result with
  | ok value => exact hnext value entries hfirst
  | error fault =>
      refine .pure ?_
      rw [List.append_nil]
      exact hthrow fault entries hfirst

theorem run_lift {action : Host engine α}
    {holds : Except Halt (Except engine.Fault α) → List Entry → Prop}
    (haction : Tells action fun ending entries => holds (ending.map .ok) entries) :
    Tells (lift action).run holds := by
  show Tells (Except.ok <$> action) holds
  rw [map_eq_pure_bind]
  refine haction.bind (fun _ _ hholds => hholds) fun value entries hholds => .pure ?_
  rw [List.append_nil]
  exact hholds

end Tells

theorem outcome_withRealm (realm : Realm) (action : Host engine α) (session : Session engine) :
    (withRealm realm action).outcome session =
      match action.outcome { session with realm := realm } with
      | (.ok value, inside) => (.ok value, { inside with realm := session.realm })
      | (.error halt, inside) => (.error halt, inside) := by
  unfold withRealm
  have henter : Ends (modify fun session => { session with realm := realm } : Host engine PUnit)
      session ⟨⟩ { session with realm := realm } := ends_modify.mpr rfl
  rw [outcome_bind_of_ends (ends_get.mpr ⟨rfl, rfl⟩), outcome_bind_of_ends henter, outcome_bind]
  rcases action.outcome { session with realm := realm } with ⟨halt | value, inside⟩
  · rfl
  · rfl

theorem tells_withRealm {action : Host engine α} {holds : Except Halt α → List Entry → Prop}
    (realm : Realm) (haction : Tells action holds) : Tells (withRealm realm action) holds := by
  intro session
  obtain ⟨entries, hholds, hsame⟩ := haction { session with realm := realm }
  refine ⟨entries, ?_, fun history => ?_⟩ <;>
    rcases houtcome : action.outcome { session with realm := realm } with ⟨halt | value, inside⟩ <;>
      rw [houtcome] at hholds hsame
  · rw [outcome_withRealm, houtcome]
    exact hholds
  · rw [outcome_withRealm, houtcome]
    exact hholds
  · rw [outcome_withRealm, outcome_withRealm, houtcome, hsame history]
  · rw [outcome_withRealm, outcome_withRealm, houtcome, hsame history]

/-! ## What script code tells -/

/-- Whatever becomes of the action, it adds what script code may add. -/
abbrev TellsTale (action : Host engine α) : Prop :=
  Tells action fun _ entries => Tale engine entries

namespace TellsTale

theorem pure (value : α) : TellsTale (pure value : Host engine α) :=
  Tells.pure .nil

theorem bind {action : Host engine α} {next : α → Host engine β} (haction : TellsTale action)
    (hnext : ∀ value, TellsTale (next value)) : TellsTale (action >>= next) :=
  Tells.bind haction (fun _ _ htale => htale) fun value _ htale =>
    (hnext value).mono fun _ _ hmore => htale.append hmore

theorem note {entry : Entry} (haside : entry.Aside) : TellsTale (note entry : Host engine Unit) :=
  Tells.note (.aside haside)

theorem modify {change : Session engine → Session engine}
    (hchange : ∀ session history, change { session with history } =
      { change session with history }) : TellsTale (modify change : Host engine PUnit) :=
  Tells.modify .nil hchange

end TellsTale

theorem tells_now (look : Look) : Tells (now look : Host engine Nat) fun ending entries =>
    (∃ instant, ending = .ok instant) ∧ entries = [] :=
  .of_ends (·.clock.instant look) (·.looked look) (fun _ => []) (fun _ => ends_now.mpr ⟨rfl, rfl⟩)
    (fun _ => ⟨⟨_, rfl⟩, rfl⟩) (fun _ _ => rfl) fun _ _ => rfl

theorem tale_now (look : Look) : TellsTale (now look : Host engine Nat) :=
  (tells_now look).mono fun _ _ hnow => hnow.2 ▸ .nil

theorem tale_timeOfDay : TellsTale (timeOfDay : Host engine (Option Nat)) :=
  .of_ends (·.clock.day) (·.dayRead) (fun _ => []) (fun _ => ends_timeOfDay.mpr ⟨rfl, rfl⟩)
    (fun _ => .nil) (fun _ _ => rfl) fun _ _ => rfl

theorem tale_thrownValue (fault : engine.Fault) : TellsTale (thrownValue fault) :=
  .of_ends (fun session => (engine.thrown session.realm fault session.store).1)
    (fun session =>
      { session with store := (engine.thrown session.realm fault session.store).2 })
    (fun _ => []) (fun _ => ends_thrownValue.mpr ⟨rfl, rfl⟩) (fun _ => .nil) (fun _ _ => rfl)
    fun _ _ => rfl

theorem tale_readLine : TellsTale (readLine : Host engine Bytes) :=
  .of_ends (·.input.takeChunk.1.chomp) (·.reading)
    (fun session => [.lineRead session.input.takeChunk.1])
    (fun _ => ends_readLine.mpr ⟨rfl, rfl⟩) (fun _ => .aside trivial) (fun _ _ => rfl)
    fun _ _ => rfl

theorem tale_composes : @Composes engine fun _ action => TellsTale action where
  pure := .pure
  bind := .bind
  look _ hnext := .get_bind (fun _ => hnext _ _ _) fun _ _ => rfl

theorem tale_engine : @EngineClosed engine fun _ action => TellsTale action where
  toComposes := tale_composes
  exhausted := .throw .nil
  setStore _ := .modify fun _ _ => rfl
  queueJob job := .of_ends (fun _ => ()) (·.queueing job)
    (fun session => [.queued session.jobCount]) (fun _ => ends_queueJob.mpr rfl)
    (fun _ => .aside trivial) (fun _ _ => rfl) fun _ _ => rfl
  thrownValue := tale_thrownValue

/-- The jobs at the end of an evaluation. -/
theorem tale_jobs : @JobClosed engine fun _ action => TellsTale action where
  pure := .pure
  bind := .bind
  lookJobs _ hnext := .get_bind (fun _ => hnext _) fun _ _ => rfl
  lookFrames _ hnext := .get_bind (fun _ => hnext _) fun _ _ => rfl
  exhausted := .throw .nil
  takeJob := .of_ends (·.jobs.head?) (fun session => { session with jobs := session.jobs.tail })
    (fun _ => []) (fun _ => ends_takeJob.mpr ⟨rfl, rfl⟩) (fun _ => .nil) (fun _ _ => rfl)
    fun _ _ => rfl
  started _ := .note trivial
  settled _ := .note trivial
  interrupted _ := .note trivial
  dropJobs := .modify fun _ _ => rfl

theorem tale_elapsedSince (look : Look) (instant : Nat) :
    TellsTale (elapsedSince look instant : Host engine Duration) :=
  TellsTale.bind (tale_now look) fun _ => .pure _

theorem tale_record (record : ProfileRecord) :
    TellsTale (Host.record record : Host engine Unit) := by
  refine .of_ends (fun _ => ()) (·.recording record)
    (fun session => ((session.kept record).map Entry.recorded).toList)
    (fun _ => ends_record.mpr rfl) (fun session => ?_) (fun _ _ => rfl) fun session history => ?_
  · cases session.kept record with
    | none => exact .nil
    | some record => exact .aside trivial
  · cases hprofile : session.profile <;> simp [Session.recording, Session.kept, hprofile]

theorem tale_leave : TellsTale (leave : Host engine Unit) := by
  refine Tells.get_bind (fun session => ?_) fun _ _ => rfl
  cases session.frames with
  | nil => exact TellsTale.pure ()
  | cons frame rest =>
      exact TellsTale.bind (.modify fun _ _ => rfl) fun _ => .note trivial

/-- A frame is entered before anything else is done in it. -/
def Enters (engine : Engine) (frame : String) (entries : List Entry) : Prop :=
  ∃ body, entries = .entered frame :: body ∧ Tale engine body

theorem Enters.tale {frame : String} {entries : List Entry}
    (h : Enters engine frame entries) : Tale engine entries := by
  obtain ⟨body, rfl, hbody⟩ := h
  exact .cons trivial hbody

theorem tells_withFrame {action : Host engine α} (frame : String) (haction : TellsTale action) :
    Tells (withFrame frame action) fun _ entries => Enters engine frame entries := by
  have henter : Tells (enter frame : Host engine Unit) fun ending entries =>
      ending = .ok () ∧ entries = [.entered frame] :=
    .of_ends (fun _ => ()) (·.entering frame) (fun _ => [.entered frame])
      (fun _ => ends_enter.mpr rfl) (fun _ => ⟨rfl, rfl⟩) (fun _ _ => rfl) fun _ _ => rfl
  refine henter.bind (fun _ _ hcut => nomatch hcut.1) fun _ entries hentered => ?_
  obtain ⟨-, rfl⟩ := hentered
  have hinside : TellsTale (action >>= fun result => leave >>= fun _ => pure result) :=
    .bind haction fun result => .bind tale_leave fun _ => .pure result
  exact hinside.mono fun _ body hbody => ⟨body, rfl, hbody⟩

/-- Whether the engine makes the realm and furnishes it. -/
def Makes (arguments : List String) :
    Except Halt (Except engine.Fault Realm) → List Entry → Prop
  | .ok (.ok realm), entries =>
    entries = [.realmCreated realm, .logged (.environmentCreated arguments.length)]
  | .ok (.error _), entries =>
    engine.Refuses ∧ (entries = [] ∨ ∃ realm, entries = [.realmCreated realm])
  | .error _, _ => False

theorem outcome_modifyGet (change : Session engine → α × Session engine)
    (session : Session engine) :
    (modifyGet change : Host engine α).outcome session =
      (.ok (change session).1, (change session).2) :=
  rfl

theorem outcome_furnish (arguments : List String) (realm : Realm) (session : Session engine) :
    (furnish arguments realm).outcome session =
      match engine.install realm (Native.available session.options) arguments session.store with
      | (store, .error fault) => (.ok (.error fault), { session with store := store })
      | (store, .ok ()) => (.ok (.ok realm), Session.note { session with store := store }
          (.logged (.environmentCreated arguments.length))) := by
  unfold furnish
  rw [outcome_bind, outcome_withRealm]
  rcases hinstall : engine.install realm (Native.available session.options) arguments session.store
    with ⟨store, fault | ⟨⟩⟩
  · simp only [outcome_modifyGet, hinstall]
    rfl
  · simp only [outcome_modifyGet, hinstall]
    rfl

theorem tells_createEnvironment (arguments : List String) :
    Tells (createEnvironment arguments : Attempt engine Realm).run (Makes arguments) := by
  intro session
  have houtcome := @outcome_createEnvironment engine arguments
  cases hmake : engine.createRealm session.realms session.store with
  | error fault =>
      refine ⟨[], ?_, fun history => ?_⟩
      · rw [houtcome, hmake]
        exact ⟨.inl ⟨_, _, _, hmake⟩, .inl rfl⟩
      · rw [houtcome, houtcome, hmake]
        rfl
  | ok store =>
      rcases hinstall : engine.install session.realms (Native.available session.options) arguments
        store with ⟨bound, fault | ⟨⟩⟩
      · refine ⟨[.realmCreated session.realms], ?_, fun history => ?_⟩
        · simp only [houtcome, hmake, outcome_furnish, Session.withNewRealm, hinstall]
          exact ⟨.inr ⟨_, _, _, _, _, congrArg Prod.snd hinstall⟩, .inr ⟨_, rfl⟩⟩
        · simp only [houtcome, hmake, outcome_furnish, Session.withNewRealm, hinstall]
          rfl
      · refine ⟨[.realmCreated session.realms, .logged (.environmentCreated arguments.length)], ?_,
          fun history => ?_⟩
        · simp only [houtcome, hmake, outcome_furnish, Session.withNewRealm, hinstall]
          rfl
        · simp only [houtcome, hmake, outcome_furnish, Session.withNewRealm, hinstall]
          rfl

theorem tells_readFile (path : String) :
    Tells (readFile path : Host engine (Except IoError Bytes)) fun ending entries =>
      ∃ content, ending = .ok content ∧ entries = [.fileRead path content.isOk] :=
  .of_ends (fun session => session.files.read path)
    (fun session => session.note (.fileRead path (session.files.read path).isOk))
    (fun session => [.fileRead path (session.files.read path).isOk])
    (fun _ => ends_readFile.mpr ⟨rfl, rfl⟩) (fun _ => ⟨_, rfl, rfl⟩) (fun _ _ => rfl)
    fun _ _ => rfl

theorem tells_loadSource (path : String) :
    Tells (loadSource path : Attempt engine String).run fun ending entries =>
      ∃ result : Except engine.Fault String, ending = .ok result ∧
        entries = [.fileRead path result.isOk] := by
  have hread : Tells (lift (readFile path) : Attempt engine (Except IoError Bytes)).run
      fun ending entries =>
        ∃ content, ending = .ok (.ok content) ∧ entries = [.fileRead path content.isOk] := by
    refine .run_lift ((tells_readFile path).mono fun ending entries hread => ?_)
    obtain ⟨content, rfl, hentries⟩ := hread
    exact ⟨content, rfl, hentries⟩
  refine hread.run_bind (fun _ _ hcut => nomatch hcut.choose_spec.1)
    (fun _ _ hthrow => nomatch hthrow.choose_spec.1) fun content entries hread => ?_
  obtain ⟨_, heq, rfl⟩ := hread
  cases heq
  cases content with
  | ok content => exact .pure ⟨_, rfl, rfl⟩
  | error failure => exact .pure ⟨.error _, rfl, rfl⟩

/-! ### Evaluations -/

section Answered

variable {answer : Answer engine}
  (hanswer : ∀ realm native arguments, TellsTale (answer realm native arguments).run)

include hanswer

theorem tells_evaluate (bound : Nat) (source name : String) :
    Tells (evaluate answer bound source name) fun _ entries =>
      Enters engine name entries := by
  refine tells_withFrame name <| .bind (tale_now .evaluation) fun began => ?_
  refine .bind (tale_engine.runSource hanswer source) fun result => ?_
  refine .bind (tale_jobs.drainOutermost (fun job => tale_engine.act hanswer _) bound) fun _ => ?_
  refine .bind (tale_elapsedSince .evaluation began) fun elapsed =>
    .bind (tale_record _) fun _ => ?_
  exact tale_engine.evaluated hanswer result

theorem tells_checkSyntax (source name : String) :
    Tells (checkSyntax answer source name) fun _ entries =>
      Enters engine name entries := by
  refine tells_withFrame name <| .bind (tale_now .evaluation) fun began => ?_
  refine Tells.get_bind (fun session => ?_) fun _ _ => rfl
  refine TellsTale.bind (tale_elapsedSince .evaluation began) fun elapsed =>
    .bind (tale_record _) fun _ => ?_
  exact tale_engine.evaluated hanswer _

/-! ### Natives that ask for a file -/

/-- A native that asks for a file does something with the text, behind the entry for the file. -/
theorem tells_asking {native : Native} (hnative : native.AsksForFile) (argument : engine.Value)
    {next : String → String → Attempt engine α}
    (hnext : ∀ path source, Tells (next path source).run fun _ more =>
      ∀ frames conversion, Tale engine conversion →
        Tale engine (.called native frames :: (conversion ++ .fileRead path true :: more))) :
    Tells (do
      let path ← toText answer argument
      let source ← loadSource path
      next path source : Attempt engine α).run fun _ entries =>
        ∀ frames, Tale engine (.called native frames :: entries) := by
  have hunread : ∀ conversion frames, Tale engine conversion →
      Tale engine (.called native frames :: conversion) := fun conversion frames htale =>
    ⟨_, .unconverted hnative htale.choose_spec⟩
  refine (tale_engine.toText hanswer argument).run_bind (fun _ _ htale _ => hunread _ _ htale)
    (fun _ _ htale _ => hunread _ _ htale) fun path conversion htale => ?_
  refine (tells_loadSource path).run_bind (fun _ _ hcut => nomatch hcut.choose_spec.1)
    (fun _ _ hmissing frames => ?_) fun source entries hread => ?_
  · obtain ⟨_, heq, rfl⟩ := hmissing
    cases heq
    exact ⟨_, .read hnative (fun _ => rfl) htale.choose_spec⟩
  · obtain ⟨_, heq, rfl⟩ := hread
    cases heq
    exact (hnext path source).mono fun _ more hmore frames => hmore frames conversion htale

theorem tells_loadFile (bound : Nat) (argument : engine.Value) :
    Tells (loadFile answer bound argument).run fun _ entries =>
      ∀ frames, Tale engine (.called .load frames :: entries) := by
  refine tells_asking hanswer (by decide) argument fun path source => ?_
  have htale : TellsTale (do
      let outcome ← lift (evaluate answer bound source path)
      settle outcome.toExcept : Attempt engine engine.Value).run :=
    tale_composes.run_bind (tale_composes.run_lift ((tells_evaluate hanswer bound source path).mono
      fun _ _ henters => henters.tale)) fun _ => .pure _
  exact htale.mono fun _ _ hmore _ _ htale => .read (.inl rfl) htale hmore

theorem tells_checkFile (argument : engine.Value) :
    Tells (checkFile answer argument).run fun _ entries =>
      ∀ frames, Tale engine (.called .checkSyntax frames :: entries) := by
  refine tells_asking hanswer (by decide) argument fun path source => ?_
  have htale : TellsTale (do
      let began ← lift (now .call)
      let outcome ← lift (checkSyntax answer source path)
      discard (settle outcome.toExcept)
      lift (elapsedNumber began) : Attempt engine engine.Value).run := by
    refine tale_composes.run_bind (tale_composes.run_lift (tale_now .call)) fun began => ?_
    refine tale_composes.run_bind (tale_composes.run_lift
      ((tells_checkSyntax hanswer source path).mono fun _ _ henters => henters.tale))
      fun outcome => ?_
    refine tale_composes.run_bind (tale_composes.discard_settle _) fun _ => ?_
    exact tale_composes.run_lift (.bind (tale_elapsedSince .call began) fun _ => .pure _)
  exact htale.mono fun _ _ hmore _ _ htale => .read (.inr rfl) htale hmore

/-- What `run` does in the environment that it made. -/
theorem tells_ran (bound : Nat) (realm : Realm) (path source : String) :
    Tells (do
      let began ← lift (now .call)
      let outcome ← lift (withRealm realm (evaluate answer bound source path))
      discard (settle outcome.toExcept)
      lift (elapsedNumber began) : Attempt engine engine.Value).run fun _ entries =>
        Enters engine path entries := by
  have hnow : Tells (lift (now .call) : Attempt engine Nat).run fun ending entries =>
      (∃ instant, ending = .ok (.ok instant)) ∧ entries = [] :=
    .run_lift <| (tells_now .call).mono fun ending _ hnow => by
      obtain ⟨⟨instant, rfl⟩, hentries⟩ := hnow
      exact ⟨⟨instant, rfl⟩, hentries⟩
  refine hnow.run_bind (fun _ _ hcut => nomatch hcut.1.choose_spec)
    (fun _ _ hthrow => nomatch hthrow.1.choose_spec) fun began entries hnow => ?_
  obtain ⟨-, rfl⟩ := hnow
  have hevaluate : Tells (lift (withRealm realm (evaluate answer bound source path)) :
      Attempt engine (Evaluated engine)).run fun _ entries => Enters engine path entries :=
    .run_lift (tells_withRealm realm (tells_evaluate hanswer bound source path))
  refine hevaluate.run_bind (fun _ _ henters => henters) (fun _ _ henters => henters)
    fun outcome entries henters => ?_
  obtain ⟨body, rfl, hbody⟩ := henters
  have hrest : TellsTale (do
      discard (settle outcome.toExcept)
      lift (elapsedNumber began) : Attempt engine engine.Value).run :=
    tale_composes.run_bind (tale_composes.discard_settle _) fun _ =>
      tale_composes.run_lift (.bind (tale_elapsedSince .call began) fun _ => .pure _)
  exact hrest.mono fun _ more hmore => ⟨body ++ more, rfl, hbody.append hmore⟩

theorem tells_runFile (bound : Nat) (argument : engine.Value) :
    Tells (runFile answer bound argument).run fun _ entries =>
      ∀ frames, Tale engine (.called .run frames :: entries) := by
  refine tells_asking hanswer (by decide) argument fun path source => ?_
  refine (tells_createEnvironment []).run_bind (fun _ _ hcut => hcut.elim)
    (fun _ made hmakes frames conversion htale => ?_) fun realm made hmakes => ?_
  · exact ⟨_, .refused hmakes.1 hmakes.2 htale.choose_spec⟩
  · obtain rfl : made = [.realmCreated realm, .logged (.environmentCreated 0)] := hmakes
    refine (tells_ran hanswer bound realm path source).mono fun _ more henters => ?_
    obtain ⟨body, rfl, paths, hbody⟩ := henters
    exact fun frames conversion htale => ⟨_, .ran htale.choose_spec hbody⟩

/-! ### All natives -/

theorem tale_respond (bound : Nat) {native : Native} (hnative : ¬ native.AsksForFile)
    (arguments : List engine.Value) : TellsTale (respond answer bound native arguments).run := by
  have hwrite : ∀ channel text, TellsTale (lift (write channel text) : Attempt engine Unit).run :=
    fun channel text => tale_composes.run_lift (.note trivial)
  cases native with
  | print =>
      refine tale_composes.run_bind ((tale_engine.work hanswer).texts arguments) fun line => ?_
      exact tale_composes.run_bind (hwrite _ _) fun _ => .pure _
  | debug =>
      refine tale_composes.run_bind (tale_engine.toText hanswer _) fun text => ?_
      exact tale_composes.run_bind (hwrite _ _) fun _ => .pure _
  | describe =>
      refine tale_composes.look (fun store _ _ => (do
        lift (write .stderr ("--> " ++ engine.display (firstArgument arguments) store ++ "\n"))
        return engine.undefined : Attempt engine engine.Value).run) fun store _ _ => ?_
      exact tale_composes.run_bind (hwrite _ _) fun _ => .pure _
  | quit => exact .throw .nil
  | gc | releaseExecutableMemory | version => exact tale_composes.run_pure _
  | stackTrace =>
      exact .of_ends (fun _ => .ok engine.undefined)
        (fun session => session.note (.wrote .stderr (stackTrace session.frames)))
        (fun session => [.wrote .stderr (stackTrace session.frames)])
        (fun _ => ends_respond_stackTrace.mpr ⟨rfl, rfl⟩) (fun _ => .aside trivial)
        (fun _ _ => rfl) fun _ _ => rfl
  | dumpCallFrame =>
      refine .of_ends (fun _ => .ok engine.undefined)
        (fun session => session.noteAll (Native.shows .dumpCallFrame session.frames))
        (fun session => Native.shows .dumpCallFrame session.frames)
        (fun _ => ends_respond_dumpCallFrame.mpr ⟨rfl, rfl⟩) (fun session => ?_)
        (fun _ _ => rfl) fun _ _ => rfl
      cases session.frames with
      | nil => exact .nil
      | cons frame rest => exact .aside trivial
  | readline =>
      exact tale_composes.run_bind (tale_composes.run_lift tale_readLine) fun _ => .pure _
  | preciseTime =>
      refine tale_composes.run_bind (tale_composes.run_lift tale_timeOfDay) fun time => ?_
      cases time with
      | some time => exact .pure _
      | none => exact .pure _
  | setSamplingFlags =>
      exact (tale_engine.work hanswer).changeFlagsAll (fun _ => .modify fun _ _ => rfl) _ _
  | clearSamplingFlags =>
      exact (tale_engine.work hanswer).changeFlagsAll (fun _ => .modify fun _ _ => rfl) _ _
  | run | load | checkSyntax => exact absurd (by decide) hnative

/-- Whatever a native adds stands behind the entry of its call. -/
theorem tells_respond (bound : Nat) (native : Native) (arguments : List engine.Value) :
    Tells (respond answer bound native arguments).run fun _ entries =>
      ∀ frames, Tale engine (.called native frames :: entries) := by
  by_cases hnative : native.AsksForFile
  · rcases hnative with rfl | rfl | rfl
    · exact tells_runFile hanswer bound _
    · exact tells_loadFile hanswer bound _
    · exact tells_checkFile hanswer _
  · exact (tale_respond hanswer bound hnative arguments).mono fun _ _ htale _ => .cons hnative htale

end Answered

/-- Script code may call natives at any depth. -/
theorem tale_answer (budget : Nat) (realm : Realm) (native : Native)
    (arguments : List engine.Value) : TellsTale (answer budget realm native arguments).run := by
  -- on the budget, since the files that a native evaluates call natives with one less
  induction budget generalizing realm native arguments with
  | zero => exact .throw .nil
  | succ budget ih =>
      show TellsTale (called realm native (respond (answer budget) budget native arguments).run)
      refine Tells.get_bind (fun session => ?_) fun _ _ => rfl
      have hcall : Tells (note (.called native session.frames) : Host engine Unit)
          fun ending entries => ending = .ok () ∧ entries = [.called native session.frames] :=
        .note ⟨rfl, rfl⟩
      refine hcall.bind (fun _ _ hcut => nomatch hcut.1) fun _ entries hcall => ?_
      obtain ⟨-, rfl⟩ := hcall
      exact tells_withRealm realm ((tells_respond ih budget native arguments).mono
        fun _ _ hrespond => hrespond session.frames)

/-! ## Environments in use -/

theorem tells_evaluateIn (budget : Nat) (environment : Realm) (source name : String) :
    TellsTale (evaluateIn budget environment source name : Host engine (Evaluated engine)) :=
  tells_withRealm environment ((tells_evaluate (tale_answer budget) budget source name).mono
    fun _ _ henters => henters.tale)

theorem tells_stringifyIn (budget : Nat) (environment : Realm) (value : engine.Value) :
    TellsTale (stringifyIn budget environment value) :=
  tells_withRealm environment ((tale_engine.work (tale_answer budget)).stringify value)

end Host

end ScriptShell
