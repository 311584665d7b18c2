import ScriptShell.Language.Interpreter
import ScriptShell.Proofs.Files.ReadBack
import ScriptShell.Proofs.Profile.Numbers
import ScriptShell.Proofs.Profile.Spacing
import ScriptShell.Proofs.Session.Passage
import ScriptShell.Proofs.Text.WellFormed

/-!
# Reading a saved profile

The text of a profile is one JSON document and a newline, and a reader finds in it the version and
every record in its place: the source text, the kind, the number token of the elapsed time and
whether something was thrown (`profile_read_back`). The reader knows nothing of how the document was
laid out, so the records on one line each are read by it as well. All that is asked of the number
tokens is that they are JSON numbers, and those of finite times are.
-/

namespace ScriptShell

/-! ## What a reader finds -/

/-- What a reader finds of a record. -/
structure ProfileEntry where
  source : String
  kind : EvaluationKind
  elapsed : String
  threw : Bool
  deriving DecidableEq

/-- The entry of a record, with the number token of the elapsed time as given. -/
def ProfileRecord.entry (elapsed : String) (record : ProfileRecord) : ProfileEntry :=
  ⟨record.source, record.kind, elapsed, record.threw⟩

/-- The kind with a spelling. -/
def EvaluationKind.ofSpelling? (spelling : String) : Option EvaluationKind :=
  [evaluate, checkSyntax].find? (·.spelling = spelling)

theorem EvaluationKind.ofSpelling?_spelling (kind : EvaluationKind) :
    ofSpelling? kind.spelling = some kind := by
  cases kind <;> decide

/-- The value of a field. -/
def Json.field? (name : String) : Json → Option Json
  | .object fields => fields.lookup name
  | _ => none

/-- The entry of a document. -/
def ProfileEntry.ofDocument? (document : Json) : Option ProfileEntry := do
  let .text source ← document.field? "source" | none
  let .text spelling ← document.field? "kind" | none
  let .number elapsed ← document.field? "elapsedMs" | none
  let .boolean threw ← document.field? "threw" | none
  return ⟨source, ← EvaluationKind.ofSpelling? spelling, elapsed, threw⟩

/-- Reads the text of a record. -/
def ProfileEntry.read? (text : String) : Option ProfileEntry := do
  ofDocument? (← Json.read? text.toList)

namespace Profile

/-- The version and the entries of a document. -/
def ofDocument? (document : Json) : Option (String × List ProfileEntry) := do
  let .number version ← document.field? "version" | none
  let .array items ← document.field? "records" | none
  return (version, ← items.mapM ProfileEntry.ofDocument?)

/-- Reads the text of a profile. -/
def read? (text : String) : Option (String × List ProfileEntry) := do
  ofDocument? (← Json.read? text.toList)

end Profile

theorem ProfileEntry.ofDocument?_document (elapsed : String) (record : ProfileRecord) :
    ofDocument? (record.document elapsed) = some (record.entry elapsed) := by
  have hsource : (record.document elapsed).field? "source" = some (.text record.source) := rfl
  have hkind : (record.document elapsed).field? "kind" = some (.text record.kind.spelling) := rfl
  have helapsed : (record.document elapsed).field? "elapsedMs" = some (.number elapsed) := rfl
  have hthrew : (record.document elapsed).field? "threw" = some (.boolean record.threw) := rfl
  simp [ofDocument?, hsource, hkind, helapsed, hthrew, EvaluationKind.ofSpelling?_spelling,
    ProfileRecord.entry]

theorem Profile.ofDocument?_document (elapsed : ProfileRecord → String)
    (records : List ProfileRecord) :
    ofDocument? (document elapsed records) =
      some ("1", records.map fun record => record.entry (elapsed record)) := by
  have hversion : (document elapsed records).field? "version" = some (.number "1") := rfl
  have hrecords : (document elapsed records).field? "records" =
      some (.array (records.map fun record => record.document (elapsed record))) := rfl
  have hentries : (records.map fun record => record.document (elapsed record)).mapM
      ProfileEntry.ofDocument? =
        some (records.map fun record => record.entry (elapsed record)) := by
    induction records with
    | nil => rfl
    | cons record records ih =>
        rw [List.map_cons, List.mapM_cons, ProfileEntry.ofDocument?_document, ih rfl rfl]
        rfl
  simp [ofDocument?, hversion, hrecords, hentries]

/-! ## What is written -/

/-- The items of a compact form have a comma between each two. -/
theorem Json.ofList_compactItems (items : List Json) :
    String.ofList (compactItems items) =
      ",".intercalate (items.map fun item => String.ofList item.compact) := by
  induction items with
  | nil => rfl
  | cons item items ih =>
      cases items with
      | nil => simp [compactItems]
      | cons next items =>
          rw [List.map_cons] at ih
          rw [compactItems, List.map_cons, List.map_cons, String.intercalate_cons_cons, ← ih]
          simp [← String.toList_inj]

theorem Json.getLast?_pretty_object (level : Nat) (fields : List (String × Json)) :
    ((Json.object fields).pretty level).getLast? = some '}' := by
  cases fields with
  | nil => rfl
  | cons field fields =>
      rw [pretty, ← List.append_assoc, ← List.cons_append, List.getLast?_concat]

theorem ProfileRecord.sound_document {elapsed : String}
    (hnumber : Json.isNumber elapsed.toList = true) (record : ProfileRecord) :
    (record.document elapsed).Sound :=
  .object (by simp [Json.Sound.text, Json.Sound.boolean, Json.Sound.number hnumber])

theorem Profile.sound_document {elapsed : ProfileRecord → String} {records : List ProfileRecord}
    (hnumbers : ∀ record ∈ records, Json.isNumber (elapsed record).toList = true) :
    (document elapsed records).Sound := by
  have hitems : ∀ item ∈ records.map fun record => record.document (elapsed record), item.Sound :=
    List.forall_mem_map.mpr fun record hrecord => record.sound_document (hnumbers record hrecord)
  have hversion : (Json.number "1").Sound := .number rfl
  exact .object (by simp [hversion, Json.Sound.array hitems])

/-- The compact form of a profile has the compact forms of its records with commas between them. -/
theorem Profile.compact_document (elapsed : ProfileRecord → String)
    (records : List ProfileRecord) :
    String.ofList (document elapsed records).compact =
      "\x7b\"version\":1,\"records\":[" ++
        ",".intercalate (records.map fun record =>
          String.ofList (record.document (elapsed record)).compact) ++ "]\x7d" := by
  have hversion : Json.quote "version" = "\"version\"".toList := by decide
  have hrecords : Json.quote "records" = "\"records\"".toList := by decide
  have hitems := Json.ofList_compactItems
    (records.map fun record => record.document (elapsed record))
  rw [List.map_map, Function.comp_def] at hitems
  rw [← hitems, ← String.toList_inj]
  simp [document, Json.compact, Json.compactFields, hversion, hrecords]

/-- The text of a profile, its final newline included, is a text of its document. -/
theorem Profile.writes_renderWith {elapsed : ProfileRecord → String} {records : List ProfileRecord}
    (hnumbers : ∀ record ∈ records, Json.isNumber (elapsed record).toList = true) :
    Json.Writes (document elapsed records) (renderWith elapsed records).toList := by
  have hnewline : Json.Spaced [] ['\n'] := .blank rfl .nil
  have hends : Json.Apart ['\n'] := Json.apart_lineBreak 0 []
  have hspaced := Json.spaced_pretty 0 (document elapsed records) hnewline hends
  rw [List.append_nil] at hspaced
  rw [renderWith, String.toList_ofList]
  exact hspaced.spells (sound_document hnumbers)

theorem Profile.read?_renderWith {elapsed : ProfileRecord → String} {records : List ProfileRecord}
    (hnumbers : ∀ record ∈ records, Json.isNumber (elapsed record).toList = true) :
    read? (renderWith elapsed records) =
      some ("1", records.map fun record => record.entry (elapsed record)) := by
  rw [read?, Json.read?_eq_some_iff.mpr (writes_renderWith hnumbers)]
  exact ofDocument?_document elapsed records

/-- What was saved is read under the same path. -/
theorem Host.read_of_saveProfile {engine : Engine} {session after : Session engine} {path : String}
    {kept : List ProfileRecord} (hkept : session.profile = some kept)
    (hends : Ends (Program.saveProfile path) session (.ok ()) after) :
    after.files.read path = .ok (Profile.render kept).toUTF8.data.toList := by
  have hsaved := ends_saveProfile.mp hends
  simp only [hkept] at hsaved
  cases hwrite : session.files.write path (Bytes.ofString (Profile.render kept)) with
  | error error =>
      simp only [hwrite] at hsaved
      cases hsaved.1
  | ok files =>
      simp only [hwrite] at hsaved
      rw [hsaved.2, ← Bytes.ofString_eq]
      exact Files.read_of_write hwrite

/-- The text of a profile is one JSON document and a newline behind it. A reader finds version 1 and
the entries of the records in their order; it finds the entry of a record in the record on one line
as well, and those lines are what is left of the text without the blanks outside quotes. So the text
tells lists of entries apart. A file that a profile was saved in holds its text, and all of it is
read back if the elapsed times are finite. -/
theorem profile_read_back (engine : Engine) (elapsed : ProfileRecord → String)
    (records : List ProfileRecord)
    (hnumbers : ∀ record ∈ records, Json.isNumber (elapsed record).toList = true) :
    let saved := Profile.renderWith elapsed records
    let entries := records.map fun record => record.entry (elapsed record)
    let line := fun record => String.ofList (record.document (elapsed record)).compact
    (∃ text, saved = text ++ "\n" ∧ text.toList.getLast? = some '}' ∧
      ∀ document, Json.Writes document text.toList ↔
        document = Profile.document elapsed records) ∧
    Profile.read? saved = some ("1", entries) ∧
    (∀ record ∈ records, ProfileEntry.read? (line record) = some (record.entry (elapsed record)) ∧
      ∀ document, Json.Writes document (line record).toList ↔
        document = record.document (elapsed record)) ∧
    String.ofList (Json.squeeze saved.toList) =
      "\x7b\"version\":1,\"records\":[" ++ ",".intercalate (records.map line) ++ "]\x7d" ∧
    (∀ (other : ProfileRecord → String) (others : List ProfileRecord),
      (∀ record ∈ others, Json.isNumber (other record).toList = true) →
      Profile.renderWith other others = saved →
      others.map (fun record => record.entry (other record)) = entries) ∧
    ∀ (session after : Session engine) path kept, session.profile = some kept →
      Host.Ends (Program.saveProfile path) session (.ok ()) after →
      after.files.read path = .ok (Profile.render kept).toUTF8.data.toList ∧
      ((∀ record ∈ kept, Decimal.Finite record.elapsed.inMilliseconds) →
        Profile.read? (Profile.render kept) =
          some ("1", kept.map fun record => record.entry record.elapsedToken)) := by
  dsimp only
  have hsound := Profile.sound_document hnumbers
  have hread := Profile.read?_renderWith hnumbers
  refine ⟨?_, hread, fun record hrecord => ?_, ?_, fun other others hothers hsame => ?_,
    fun session after path kept hkept hends => ⟨Host.read_of_saveProfile hkept hends, ?_⟩⟩
  · refine ⟨String.ofList ((Profile.document elapsed records).pretty 0), ?_, ?_, fun document => ?_⟩
    · simp [Profile.renderWith]
    · rw [String.toList_ofList, Profile.document, Json.getLast?_pretty_object]
    · rw [String.toList_ofList]
      have hwrites := Json.writes_pretty hsound 0
      exact ⟨fun h => h.unique hwrites, fun h => h ▸ hwrites⟩
  · have hwrites := Json.writes_compact (record.sound_document (hnumbers record hrecord))
    rw [ProfileEntry.read?, String.toList_ofList, Json.read?_eq_some_iff.mpr hwrites]
    exact ⟨ProfileEntry.ofDocument?_document _ record,
      fun document => ⟨fun h => h.unique hwrites, fun h => h ▸ hwrites⟩⟩
  · rw [← Profile.compact_document, Profile.renderWith, String.toList_ofList]
    exact congrArg String.ofList (Json.squeeze_pretty hsound 0 (.blank rfl .nil)
      (Json.apart_lineBreak 0 []))
  · have hother := Profile.read?_renderWith hothers
    rw [hsame, hread] at hother
    exact (Prod.mk.inj (Option.some.inj hother)).2.symm
  · intro hfinite
    exact Profile.read?_renderWith fun record hrecord =>
      Decimal.isNumber_float (hfinite record hrecord)

/-- A record whose source text needs escapes. -/
def quotingRecord : ProfileRecord :=
  ⟨"a\"b\\", .evaluate, ⟨0, 0⟩, true⟩

/-- Records whose source texts are hard to quote. -/
def hardRecords : List ProfileRecord :=
  [quotingRecord, ⟨"", .checkSyntax, ⟨1, 0⟩, false⟩, ⟨"\n\x01 é😀", .evaluate, ⟨0, 1⟩, false⟩]

/-- Quotes, backslashes, controls and characters outside the first plane are read back, from the
whole profile and from the line of a record. -/
theorem profile_read_back_hard :
    let elapsed := fun record : ProfileRecord => if record.threw then "1e-7" else "20.5"
    let line := "\x7b\"source\":\"a\\\"b\\\\\",\"kind\":\"evaluate\"," ++
      "\"elapsedMs\":1e-7,\"threw\":true\x7d"
    Profile.read? (Profile.renderWith elapsed hardRecords) =
        some ("1", [⟨"a\"b\\", .evaluate, "1e-7", true⟩, ⟨"", .checkSyntax, "20.5", false⟩,
          ⟨"\n\x01 é😀", .evaluate, "20.5", false⟩]) ∧
      ProfileEntry.read? line = some ⟨"a\"b\\", .evaluate, "1e-7", true⟩ ∧
      Profile.renderWith elapsed [] = "\x7b\n  \"version\": 1,\n  \"records\": []\n\x7d\n" := by
  intro elapsed line
  obtain ⟨-, hread, hlines, -⟩ := profile_read_back Language.engine elapsed hardRecords (by decide)
  have hfirst := (hlines quotingRecord List.mem_cons_self).1
  have hline : String.ofList (quotingRecord.document "1e-7").compact = line := by decide
  exact ⟨hread, hline ▸ hfirst, by decide⟩

end ScriptShell
