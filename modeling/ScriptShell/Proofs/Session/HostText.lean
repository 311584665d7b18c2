import ScriptShell.Proofs.Language.Heap
import ScriptShell.Proofs.Session.Growth
import ScriptShell.Proofs.Session.Input
import ScriptShell.Proofs.Session.NewRealms
import ScriptShell.Proofs.Session.Printing

/-!
# Text between the host and scripts

The host hands text to scripts as the elements of the array `arguments` and as the lines that
`readline` gives. Each is a string of the engine (`Host.Shows`): wherever it is converted or
printed, what comes out is the text that went in, since text comes back from its 16-bit units
(`WideText.escaped_ofString`).

Every environment has an array of its own (`Session.Environments`), so that what is written to one
array does not touch the array or the global object of another environment.

## Main result

* `Host.host_text_comes_back`.
-/

namespace ScriptShell

variable {engine : Engine}

namespace Host

open Session

variable {budget : Nat} {heap : engine.Heap} (lawful : heap.Lawful)

/-! ## Values that show a text -/

/-- Wherever a value is converted to a text or printed, it is one text. Its conversion runs no
script code, and the line with it is all that is written. -/
structure Shows (budget : Nat) (value : engine.Value) (text : String) : Prop where
  converted (realm : Realm) (store : engine.Store) :
    engine.toText realm value store = .finish store (.ok text)
  printed (realm : Realm) (session : Session engine) :
    Ends (answer (budget + 1) realm .print [value]).run session (.ok engine.undefined)
      ((session.note (.called .print session.frames)).note (.wrote .stdout (text ++ "\n")))

theorem ends_toText_of_finish {answer : Answer engine} {value : engine.Value} {text : String}
    {session : Session engine} (hfinish : engine.toText session.realm value session.store =
      .finish session.store (.ok text)) :
    Ends (toText answer value).run session (.ok text) session := by
  show (perform answer (engine.toText session.realm value session.store)).run.outcome session = _
  rw [hfinish]
  rfl

/-- A value that is always converted to a text without script code is printed as this text. -/
theorem shows_of_finish {value : engine.Value} {text : String}
    (hfinish : ∀ realm store, engine.toText realm value store = .finish store (.ok text)) :
    Shows budget value text where
  converted := hfinish
  printed realm session := by
    let call : Call engine := ⟨realm, .print, [value]⟩
    let inside := call.within session
    let conversion : Conversion engine String := ⟨value, inside, text, inside⟩
    have hconverts : ConvertsTexts (answer budget) inside [conversion] inside :=
      .cons (ends_toText_of_finish (hfinish _ _)) .nil
    have hends : Ends (call.answered (budget + 1)) session _ _ :=
      ends_answered (ends_print hconverts)
    exact hends

include lawful in
/-- The string of a text is shown as the text, since its units stand for the text again. -/
theorem shows_ofWide (text : String) : Shows budget (heap.ofWide (.ofString text)) text := by
  refine shows_of_finish fun realm store => ?_
  rw [lawful.toText_ofWide, WideText.escaped_ofString]

/-! ## There and back -/

/-- Script code finds the arguments of an environment under the name `arguments` of its global
object: an array with their number as its length, each of which is shown as it was handed over. -/
structure FindsArguments (budget : Nat) (heap : engine.Heap) (session : Session engine)
    (realm : Realm) (array : heap.Object) (texts : List String) : Prop where
  named (place : Realm) :
    heap.get place (heap.global realm session.store) (heap.named "arguments") session.store =
      .finish session.store (.ok (heap.ofObject array))
  isArray : heap.IsArray array session.store
  length (place : Realm) : heap.get place array (heap.named "length") session.store =
    .finish session.store (.ok (engine.ofNumber (Float.ofNat texts.length)))
  element {index : Nat} (hindex : index < texts.length) : ∃ value,
    (∀ place, heap.get place array (heap.index index) session.store =
      .finish session.store (.ok value)) ∧
    Shows budget value texts[index]

/-- What becomes of text that the host hands to scripts. -/
structure PassesText (budget : Nat) (heap : engine.Heap) : Prop where
  /-- An environment that is made with some texts holds them in an array that is new, and all other
  objects are left as they were. -/
  created {texts : List String} {session after : Session engine} {realm : Realm}
    (hends : Ends (createEnvironment texts).run session (.ok realm) after) :
    ∃ array, Furnishes heap texts array session (.ok realm) after ∧
      heap.Holds realm array texts after.store ∧ session.Extends heap after ∧
      ∀ {object}, heap.Made object session.store → heap.Same object session.store after.store
  /-- What an environment holds is what its scripts find. -/
  found {session : Session engine} {realm : Realm} {array : heap.Object} {texts : List String}
    (hholds : heap.Holds realm array texts session.store) :
    FindsArguments budget heap session realm array texts
  /-- An environment holds its arguments until its global object or its array is changed. -/
  kept {session after : Session engine} {realm : Realm} {array : heap.Object}
    {texts : List String} (hextends : session.Extends heap after) (hrealm : realm < session.realms)
    (hholds : heap.Holds realm array texts session.store)
    (hglobal : heap.Same (heap.global realm session.store) session.store after.store)
    (harray : heap.Same array session.store after.store) :
    heap.Holds realm array texts after.store
  /-- Whatever the user of a session has it do, and whatever natives scripts call, the environments
  that are made have objects of their own. -/
  evolved {first session : Session engine} (hevolves : Evolves first session) :
    ∃ arrays, Environments heap arrays first session
  answered (call : Call engine) (session : Session engine) :
    ∃ arrays, Environments heap arrays session ((call.answered budget).outcome session).2
  /-- Whatever is written to the array of one environment, another environment sees nothing of
  it. -/
  separate {arrays : Realm → heap.Object} {first session : Session engine} {realm other : Realm}
    (henvironments : Environments heap arrays first session)
    (hrealm : first.MadeSince session realm) (hother : first.MadeSince session other)
    (hne : realm ≠ other) {store : engine.Store}
    (harray : heap.IsArray (arrays realm) session.store)
    (hwritten : heap.Written (arrays realm) session.store store) :
    heap.Same (arrays other) session.store store ∧
      heap.Same (heap.global other session.store) session.store store ∧
      ∀ texts, heap.Holds other (arrays other) texts session.store →
        heap.Holds other (arrays other) texts store
  /-- A line that `readline` gives is shown as the text that its octets stand for. -/
  readline (realm : Realm) (arguments : List engine.Value) (session : Session engine) :
    ∃ line after value,
      (session.note (.called .readline session.frames)).Hands line after ∧
      Ends (answer (budget + 1) realm .readline arguments).run session (.ok value) after ∧
      Shows budget value (decode line)
  /-- `run` has a file evaluated in a new environment, whose array is empty. -/
  run {session found made : Session engine} {call : Call engine} {path source : String}
    {realm : Realm} (hnative : call.native = .run)
    (hfinds : call.Finds budget session path source found)
    (hends : Ends (createEnvironment []).run found (.ok realm) made) :
    (call.answered (budget + 1)).outcome session =
        timedSince (made.clock.instant .call) session.realm
          ((evaluate (answer budget) budget source path).outcome (made.inside realm)) ∧
      session.Extends heap (made.inside realm) ∧ session.MadeSince (made.inside realm) realm ∧
      ∃ array, heap.Makes array session.store (made.inside realm).store ∧
        FindsArguments budget heap (made.inside realm) realm array []

section Parts

include lawful

theorem exists_array_of_created {texts : List String} {session after : Session engine}
    {realm : Realm} (hends : Ends (createEnvironment texts).run session (.ok realm) after) :
    ∃ array, Furnishes heap texts array session (.ok realm) after ∧
      heap.Holds realm array texts after.store ∧ session.Extends heap after ∧
      ∀ {object}, heap.Made object session.store → heap.Same object session.store after.store := by
  rcases furnishes_createEnvironment lawful hends with ⟨fault, hfault, -⟩ |
    ⟨⟨array, hfurnishes⟩, hextends, hsame⟩
  · cases hfault
  · exact ⟨array, hfurnishes, (hfurnishes.holds rfl).2, hextends, hsame⟩

theorem findsArguments_of_holds {session : Session engine} {realm : Realm} {array : heap.Object}
    {texts : List String} (h : heap.Holds realm array texts session.store) :
    FindsArguments budget heap session realm array texts where
  named := lawful.get_own? h.named
  isArray := h.isArray
  length := lawful.get_own? h.length_eq
  element {index} hindex := by
    refine ⟨heap.ofWide (.ofString texts[index]), fun place => ?_, shows_ofWide lawful _⟩
    have helement := h.element_eq index
    rw [List.getElem?_eq_getElem hindex] at helement
    exact lawful.get_own? helement place

/-- The array of an environment is neither the array of another one nor its global object. -/
theorem same_of_written {arrays : Realm → heap.Object} {first session : Session engine}
    {realm other : Realm} (henvironments : Environments heap arrays first session)
    (hrealm : first.MadeSince session realm) (hother : first.MadeSince session other)
    (hne : realm ≠ other) {store : engine.Store}
    (harray : heap.IsArray (arrays realm) session.store)
    (hwritten : heap.Written (arrays realm) session.store store) :
    heap.Same (arrays other) session.store store ∧
      heap.Same (heap.global other session.store) session.store store ∧
      ∀ texts, heap.Holds other (arrays other) texts session.store →
        heap.Holds other (arrays other) texts store := by
  have hchanges := hwritten.changesOnly lawful harray
  -- each environment was given a global object and an array that no other one has
  obtain ⟨hapart, hglobal⟩ := henvironments.apart hrealm hother hne
  obtain ⟨hmadeArray, hmadeGlobal⟩ := henvironments.makes hother
  have hsameArray := hchanges.same hmadeArray.made hapart.symm
  have hsameGlobal := hchanges.same hmadeGlobal.made hglobal.symm
  exact ⟨hsameArray, hsameGlobal, fun texts hholds =>
    hholds.of_same (hchanges.global_eq other) hsameGlobal hsameArray⟩

/-- On the way to the text of a file the session is extended. -/
theorem extends_of_finds {call : Call engine} {session found : Session engine}
    {path source : String} (hfinds : call.Finds budget session path source found) :
    session.Extends heap found := by
  obtain ⟨converted, content, hpath, -, -, rfl⟩ := hfinds
  have hconverts : Leads (Furnishing heap) (call.path budget) :=
    ((furnishing_acts lawful).work (furnishing_answer lawful budget)).toText
      (firstArgument call.arguments)
  obtain ⟨_, arrays, hconverted⟩ := hconverts.exists_of_ends hpath
  have hwithin : session.Extends heap (call.within session) := .of_store (.refl _) rfl
  exact (hwithin.trans hconverted.grown).trans (.of_store (.refl _) rfl)

end Parts

/-- Whatever characters a text is made of, scripts that the host hands it to, as an argument of an
environment or as a line, hand the same text back, and no environment sees what is written to the
arguments of another one. -/
theorem host_text_comes_back {engine : Engine} {heap : engine.Heap} (lawful : heap.Lawful)
    (budget : Nat) : PassesText budget heap where
  created := exists_array_of_created lawful
  found := findsArguments_of_holds lawful
  kept hextends hrealm hholds hglobal harray :=
    hholds.of_same (hextends.global_eq hrealm) hglobal harray
  evolved := Evolves.exists_environments lawful
  answered call session := by
    obtain ⟨_, harrays⟩ :=
      furnishing_answer lawful budget call.realm call.native call.arguments session
    exact harrays
  separate := same_of_written lawful
  readline realm arguments session := by
    obtain ⟨line, after, hhands, hends⟩ := ends_answer_readline realm arguments session
    rw [lawful.ofText_eq] at hends
    exact ⟨line, after, _, hhands, hends, shows_ofWide lawful (decode line)⟩
  run {session found made call path source realm} hnative hfinds hends := by
    obtain ⟨array, hfurnishes, hholds, hextends, -⟩ := exists_array_of_created lawful hends
    obtain ⟨rfl, -⟩ := hfurnishes.holds rfl
    have hgrown := extends_of_finds lawful hfinds
    have hinside : made.Extends heap (made.inside found.realms) := .of_store (.refl _) rfl
    have hlt : found.realms < made.realms := by
      rw [hfurnishes.realms_eq]
      exact Nat.lt_succ_self _
    refine ⟨outcome_run hnative hfinds hends, (hgrown.trans hextends).trans hinside,
      ⟨hgrown.realms_le, hlt⟩, array, ⟨fun hold => ?_, hfurnishes.makesArray.made⟩,
      findsArguments_of_holds lawful hholds⟩
    exact hfurnishes.makesArray.fresh (hgrown.made hold)

/-! Texts with a character that takes two units, with a zero and with ends of lines. -/

def clefTexts : List String := ["𝄞\x00\n", ""]

def clefSession : Session Language.engine :=
  Session.start Language.engine {} false (Bytes.ofString "é\n") Files.empty (.ticking 0)

def clefEnvironment : Session Language.engine :=
  ((Operation.createEnvironment clefTexts).run 4 |>.outcome clefSession).2

/-- A script writes what it was handed. -/
def clefWritten : Session Language.engine :=
  ((Operation.evaluate 1 "print(arguments['0'] + readline())" "clef.js").run 4 |>.outcome
    clefEnvironment).2

/-- A second environment is made. -/
def clefNeighbour : Session Language.engine :=
  ((Operation.createEnvironment ["𝄢"]).run 4 |>.outcome clefWritten).2

theorem host_text_comes_back_clef :
    Language.heap.Lawful ∧
    (∃ after array, Ends (createEnvironment clefTexts).run clefSession (.ok 1) after ∧
      FindsArguments 3 Language.heap after 1 array clefTexts) ∧
    Entry.written .stdout clefWritten.journal = "𝄞\x00\né\n" ∧
    ∃ arrays, Environments Language.heap arrays clefSession clefNeighbour ∧
      ∀ store, Language.heap.IsArray (arrays 2) clefNeighbour.store →
        Language.heap.Written (arrays 2) clefNeighbour.store store →
          Language.heap.Same (arrays 1) clefNeighbour.store store := by
  have hpasses := host_text_comes_back Language.lawful_heap 3
  have hevolves : Evolves clefSession clefNeighbour :=
    ((Evolves.refl.operate 4 (.createEnvironment clefTexts)).operate 4
      (.evaluate 1 "print(arguments['0'] + readline())" "clef.js")).operate 4
        (.createEnvironment ["𝄢"])
  obtain ⟨realm, hends, hrealm⟩ : ∃ realm,
      Ends (createEnvironment clefTexts).run clefSession realm _ ∧
        (realm.toOption == some 1) = true :=
    exists_ends (by decide +kernel)
  obtain ⟨arrays, harrays⟩ := hpasses.evolved hevolves
  have hmade (realm : Realm) (hrealm : 1 ≤ realm ∧ realm < 3) :
      clefSession.MadeSince clefNeighbour realm := by
    have hrealms : clefNeighbour.realms = 3 := by decide +kernel
    exact ⟨hrealm.1, hrealms ▸ hrealm.2⟩
  refine ⟨Language.lawful_heap, ?_, by decide +kernel, arrays, harrays,
    fun store harray hwritten => ?_⟩
  · cases realm with
    | error fault => cases hrealm
    | ok realm =>
        obtain rfl : realm = 1 := by simpa [Except.toOption] using hrealm
        obtain ⟨array, -, hholds, -⟩ := hpasses.created hends
        exact ⟨_, array, hends, hpasses.found hholds⟩
  · exact (hpasses.separate harrays (hmade 2 ⟨by decide, by decide⟩)
      (hmade 1 ⟨by decide, by decide⟩) (by decide) harray hwritten).1

end Host

end ScriptShell
