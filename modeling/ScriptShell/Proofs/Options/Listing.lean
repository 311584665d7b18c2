import Mathlib.Algebra.Group.Nat.Defs
import ScriptShell.Proofs.Options.Assignment

/-!
# Options behind any assignments

What an assignment says is written in its text: the name of an option, an equals sign and a
spelling of a value of that option's kind (`Options.readAssignment?_eq_some_iff`). The options can
also be kept as a listing, whose rows are found by their names and tell the kind of a new value by
the value that they hold. Such a listing goes through assignments as the options do
(`Options.assign?_listing`): its rows keep their names, their kinds and their descriptions, so that
whatever asks for a row and for a value of its kind finds both. `Options.behindAssignments_foldl`
collects what is known behind any assignments.
-/

namespace ScriptShell

/-! ## Spellings of values -/

namespace OptionValue

/-- Digits write a number below `2 ^ 64`, with any number of zeros in front. -/
structure Numeral (digits : List Char) (value : UInt64) : Prop where
  ne_nil : digits ≠ []
  isDigit : ∀ c ∈ digits, c.isDigit = true
  toNat_eq : value.toNat = Nat.ofDigitChars 10 digits 0

/-- A text spells a value of a kind: a boolean is a word or a digit, and a number is written in
digits, which may stand behind a plus sign. -/
inductive Spells : OptionKind → String → OptionValue → Prop
  | trueWord : Spells .boolean "true" (.boolean true)
  | trueDigit : Spells .boolean "1" (.boolean true)
  | falseWord : Spells .boolean "false" (.boolean false)
  | falseDigit : Spells .boolean "0" (.boolean false)
  | digits {digits : List Char} {value : UInt64} (hnumeral : Numeral digits value) :
      Spells .unsigned (String.ofList digits) (.unsigned value)
  | plus {digits : List Char} {value : UInt64} (hnumeral : Numeral digits value) :
      Spells .unsigned ("+" ++ String.ofList digits) (.unsigned value)

theorem readDigits?_eq_some_iff {value number : Nat} {digits : List Char} :
    readDigits? value digits = some number ↔
      (∀ c ∈ digits, c.isDigit = true) ∧ number = Nat.ofDigitChars 10 digits value := by
  constructor
  · intro hread
    have hdigits : ∀ c ∈ digits, c.isDigit = true := by
      induction digits generalizing value with
      | nil => exact List.forall_mem_nil _
      | cons c rest ih =>
          rw [readDigits?] at hread
          split_ifs at hread with hrange
          refine List.forall_mem_cons.mpr ⟨?_, ih hread⟩
          simpa [Char.isDigit, Char.le_def] using hrange
    rw [readDigits?_of_isDigit digits value hdigits] at hread
    exact ⟨hdigits, (Option.some.inj hread).symm⟩
  · rintro ⟨hdigits, rfl⟩
    exact readDigits?_of_isDigit digits value hdigits

/-- A number is read where it is below `2 ^ 64`, as the word that it is. -/
private theorem word_eq_some_iff {number : Nat} {value : UInt64} :
    (if number < Nat.pow 2 64 then some number.toUInt64 else none) = some value ↔
      value.toNat = number := by
  split_ifs with hlt
  · have hword : number.toUInt64.toNat = number := UInt64.toNat_ofNat_of_lt' hlt
    rw [Option.some.injEq, ← UInt64.toNat_inj, hword, eq_comm]
  · have hfits : value.toNat < Nat.pow 2 64 := value.toNat_lt
    exact iff_of_false nofun fun heq => hlt (heq ▸ hfits)

private theorem numeral_iff {digits : List Char} {value : UInt64} :
    (if digits = [] then none
      else match readDigits? 0 digits with
        | some number => if number < Nat.pow 2 64 then some number.toUInt64 else none
        | none => none) = some value ↔ Numeral digits value := by
  constructor
  · intro hread
    split_ifs at hread with hnil
    split at hread
    · next number hnumber =>
        obtain ⟨hdigits, rfl⟩ := readDigits?_eq_some_iff.mp hnumber
        exact ⟨hnil, hdigits, word_eq_some_iff.mp hread⟩
    · cases hread
  · rintro ⟨hnil, hdigits, hvalue⟩
    rw [if_neg hnil, readDigits?_of_isDigit digits 0 hdigits]
    exact word_eq_some_iff.mpr hvalue

theorem readUnsigned?_plus {digits : List Char} {value : UInt64} :
    readUnsigned? ('+' :: digits) = some value ↔ Numeral digits value :=
  numeral_iff

theorem readUnsigned?_digits {digits : List Char} {value : UInt64}
    (hsign : ∀ rest, digits ≠ '+' :: rest) :
    readUnsigned? digits = some value ↔ Numeral digits value := by
  rw [← numeral_iff]
  unfold readUnsigned?
  split
  · next rest => exact absurd rfl (hsign rest)
  · rfl

theorem readUnsigned?_eq_some_iff {text : String} {value : UInt64} :
    readUnsigned? text.toList = some value ↔ Spells .unsigned text (.unsigned value) := by
  constructor
  · intro hread
    by_cases hplus : ∃ digits, text.toList = '+' :: digits
    · obtain ⟨digits, htext⟩ := hplus
      obtain rfl : text = "+" ++ String.ofList digits := String.toList_inj.mp (by simp [htext])
      rw [htext] at hread
      exact .plus (readUnsigned?_plus.mp hread)
    · have hspells := Spells.digits ((readUnsigned?_digits (not_exists.mp hplus)).mp hread)
      rwa [String.ofList_toList] at hspells
  · intro hspells
    cases hspells with
    | @digits digits _ hnumeral =>
        have hsign : ∀ rest, digits ≠ '+' :: rest := by
          rintro rest rfl
          exact absurd (hnumeral.isDigit '+' List.mem_cons_self) (by decide)
        rw [String.toList_ofList]
        exact (readUnsigned?_digits hsign).mpr hnumeral
    | @plus digits _ hnumeral =>
        have htext : ("+" ++ String.ofList digits).toList = '+' :: digits := by simp
        rw [htext]
        exact readUnsigned?_plus.mpr hnumeral

theorem readBoolean?_eq_some_iff {text : String} {value : Bool} :
    readBoolean? text.toList = some value ↔ Spells .boolean text (.boolean value) := by
  have hword : ∀ word : String, text.toList = word.toList ↔ text = word :=
    fun _ => String.toList_inj
  have hread : readBoolean? text.toList =
      if text = "true" ∨ text = "1" then some true
      else if text = "false" ∨ text = "0" then some false
      else none := by
    simp [readBoolean?, ← hword]
  rw [hread]
  constructor
  · intro h
    split_ifs at h with htrue hfalse
    · obtain rfl := Option.some.inj h
      rcases htrue with rfl | rfl
      exacts [.trueWord, .trueDigit]
    · obtain rfl := Option.some.inj h
      rcases hfalse with rfl | rfl
      exacts [.falseWord, .falseDigit]
  · intro hspells
    cases hspells <;> rfl

/-- The texts that are read as a value are its spellings. -/
theorem read?_eq_some_iff {kind : OptionKind} {text : String} {value : OptionValue} :
    read? kind text.toList = some value ↔ Spells kind text value := by
  cases kind with
  | boolean =>
      rw [read?, Option.map_eq_some_iff]
      constructor
      · rintro ⟨flag, hread, rfl⟩
        exact readBoolean?_eq_some_iff.mp hread
      · intro hspells
        cases value with
        | boolean flag => exact ⟨flag, readBoolean?_eq_some_iff.mpr hspells, rfl⟩
        | unsigned number => cases hspells
  | unsigned =>
      rw [read?, Option.map_eq_some_iff]
      constructor
      · rintro ⟨number, hread, rfl⟩
        exact readUnsigned?_eq_some_iff.mp hread
      · intro hspells
        cases value with
        | boolean flag => cases hspells
        | unsigned number => exact ⟨number, readUnsigned?_eq_some_iff.mpr hspells, rfl⟩

end OptionValue

/-! ## What an assignment says -/

namespace OptionName

theorem ofSpelling?_eq_some_iff {spelling : String} {name : OptionName} :
    ofSpelling? spelling = some name ↔ spelling = name.spelling := by
  constructor
  · intro hname
    have hsame := List.find?_some hname
    exact (of_decide_eq_true hsame).symm
  · rintro rfl
    exact ofSpelling?_spelling name

theorem spelling_injective : Function.Injective spelling := fun first second hsame => by
  have hread := ofSpelling?_spelling second
  rw [← hsame, ofSpelling?_spelling] at hread
  exact Option.some.inj hread

end OptionName

namespace Options

/-- An assignment gives an option a value: it is the name of the option, an equals sign and a
spelling of the value. -/
def Assigns (text : String) (name : OptionName) (value : OptionValue) : Prop :=
  ∃ raw : String, text = name.spelling ++ "=" ++ raw ∧ OptionValue.Spells name.kind raw value

/-- A text with an equals sign, cut at the first one. -/
theorem eq_append_of_span {text : String} {name raw : List Char} {c : Char}
    (hspan : text.toList.span (· != '=') = (name, c :: raw)) :
    text = String.ofList name ++ "=" ++ String.ofList raw := by
  rw [List.span_eq_takeWhile_dropWhile, Prod.mk.injEq] at hspan
  obtain ⟨hname, hraw⟩ := hspan
  have hc : (c != '=') = false := by
    have hhead := List.head_dropWhile_not (· != '=') (by rw [hraw]; exact nofun)
    simpa [hraw] using hhead
  obtain rfl : c = '=' := by simpa using hc
  have hwhole := List.takeWhile_append_dropWhile (p := (· != '=')) (l := text.toList)
  rw [hname, hraw] at hwhole
  exact String.toList_inj.mp (by simp [← hwhole])

/-- What is read from a text is what it says. -/
theorem readAssignment?_eq_some_iff {text : String} {name : OptionName} {value : OptionValue} :
    readAssignment? text = some (name, value) ↔ Assigns text name value := by
  constructor
  · intro hread
    unfold readAssignment? at hread
    split at hread
    · next spelling c raw hspan =>
        obtain ⟨named, hnamed, hrest⟩ := Option.bind_eq_some_iff.mp hread
        obtain ⟨given, hgiven, hpair⟩ := Option.bind_eq_some_iff.mp hrest
        obtain ⟨rfl, rfl⟩ := Prod.mk.inj (Option.some.inj hpair)
        rw [OptionName.ofSpelling?_eq_some_iff] at hnamed
        refine ⟨String.ofList raw, ?_, OptionValue.read?_eq_some_iff.mp ?_⟩
        · rw [← hnamed]
          exact eq_append_of_span hspan
        · rwa [String.toList_ofList]
    · cases hread
  · rintro ⟨raw, rfl, hspells⟩
    rw [readAssignment?_append, OptionValue.read?_eq_some_iff.mpr hspells]
    rfl

theorem assigned?_eq_some_iff {name : OptionName} {text : String} {value : OptionValue} :
    assigned? name text = some value ↔ Assigns text name value := by
  rw [← readAssignment?_eq_some_iff, assigned?, Option.bind_eq_some_iff]
  constructor
  · rintro ⟨⟨named, given⟩, hread, hgiven⟩
    split_ifs at hgiven with hname
    · cases hgiven
      exact hname ▸ hread
  · intro hread
    exact ⟨_, hread, if_pos rfl⟩

theorem assigned?_eq_none_iff {name : OptionName} {text : String} :
    assigned? name text = none ↔ ∀ value, ¬ Assigns text name value := by
  simp only [← assigned?_eq_some_iff, Option.eq_none_iff_forall_ne_some, ne_eq]

end Options

/-! ## Listings -/

/-- A row of a listing of options. -/
structure OptionRow where
  name : String
  value : OptionValue
  description : String
  deriving DecidableEq, Repr

/-- Options in the order in which they are listed, each found by its name. -/
def OptionListing : Type :=
  List OptionRow

namespace OptionListing

/-- The value in the row with a name. -/
def lookup? (listing : OptionListing) (name : String) : Option OptionValue :=
  (List.find? (·.name = name) listing).map OptionRow.value

/-- The listing with another value in the row with a name. -/
def put (listing : OptionListing) (name : String) (value : OptionValue) : OptionListing :=
  List.map (fun row => if row.name = name then { row with value } else row) listing

/-- The listing behind an assignment, if it is accepted: there is a row with the name, and a value
of the kind that the row holds at the moment can be read. -/
def assign? (listing : OptionListing) (text : String) : Option OptionListing :=
  match text.toList.span (· != '=') with
  | (name, _ :: raw) => do
    let held ← listing.lookup? (String.ofList name)
    let value ← OptionValue.read? held.kind raw
    pure (listing.put (String.ofList name) value)
  | (_, []) => none

/-- The listing behind an assignment, which is ignored if it is not accepted. -/
def assign (listing : OptionListing) (text : String) : OptionListing :=
  (listing.assign? text).getD listing

/-- The number in the row with a name, zero where there is none. -/
def unsigned (listing : OptionListing) (name : String) : UInt64 :=
  match listing.lookup? name with
  | some (.unsigned value) => value
  | _ => 0

/-- The number in the row with a name as a size on a machine with words of so many bits, the
greatest size where the number does not fit. -/
def size (listing : OptionListing) (bits : Nat) (name : String) : Nat :=
  let value := (listing.unsigned name).toNat
  if value < 2 ^ bits then value else 2 ^ bits - 1

/-- A number fits where words have 64 bits. -/
theorem size_sixtyfour (listing : OptionListing) (name : String) :
    listing.size 64 name = (listing.unsigned name).toNat :=
  if_pos (listing.unsigned name).toNat_lt

/-- Whether the row with a name holds true. -/
def flag (listing : OptionListing) (name : String) : Bool :=
  match listing.lookup? name with
  | some (.boolean value) => value
  | _ => false

end OptionListing

namespace Options

/-- The listing of options. -/
def listing (options : Options) : OptionListing :=
  OptionName.all.map fun name =>
    { name := name.spelling, value := options.get name, description := name.description }

variable (options : Options)

/-- The listing has a row for each option and no other, and finds in it the option's value. -/
theorem lookup?_listing (spelling : String) :
    options.listing.lookup? spelling = (OptionName.ofSpelling? spelling).map options.get := by
  simp only [OptionListing.lookup?, listing, OptionName.ofSpelling?, List.find?_map,
    Option.map_map]
  rfl

theorem lookup?_listing_spelling (name : OptionName) :
    options.listing.lookup? name.spelling = some (options.get name) := by
  rw [lookup?_listing, OptionName.ofSpelling?_spelling]
  rfl

/-- A value of the option's kind is put into its row as it is into the options. -/
theorem put_listing {name : OptionName} {value : OptionValue} (hkind : value.kind = name.kind) :
    options.listing.put name.spelling value = (options.set name value).listing := by
  simp only [OptionListing.put, listing, List.map_map]
  refine List.map_congr_left fun other _ => ?_
  by_cases hname : other = name
  · subst hname
    simp [options.get_set_self hkind]
  · have hspelling : other.spelling ≠ name.spelling := fun hsame =>
      hname (OptionName.spelling_injective hsame)
    simp [hspelling, options.get_set_of_ne hname]

/-- The listing goes through an assignment as the options do. -/
theorem assign?_listing (text : String) :
    options.listing.assign? text = (options.assign? text).map listing := by
  unfold OptionListing.assign? assign? readAssignment?
  rcases text.toList.span (· != '=') with ⟨spelling, _ | ⟨c, raw⟩⟩
  · rfl
  · simp only [lookup?_listing]
    cases hname : OptionName.ofSpelling? (String.ofList spelling) with
    | none => rfl
    | some name =>
        -- The row holds a value of its option's kind, so the same values are read.
        have hspelling := OptionName.ofSpelling?_eq_some_iff.mp hname
        cases hread : OptionValue.read? name.kind raw with
        | none => simp [kind_get, hread]
        | some value =>
            have hput := options.put_listing (OptionValue.kind_of_read? hread)
            simp [kind_get, hread, hspelling, hput]

theorem assign_listing (text : String) :
    options.listing.assign text = (options.assign text).listing := by
  rw [OptionListing.assign, assign?_listing, assign]
  cases options.assign? text <;> rfl

theorem foldl_assign_listing (texts : List String) :
    texts.foldl OptionListing.assign options.listing = (texts.foldl assign options).listing := by
  induction texts generalizing options with
  | nil => rfl
  | cons text texts ih => rw [List.foldl_cons, List.foldl_cons, assign_listing, ih]

/-! ## The typed reading of a listing -/

/-- A number that is asked for is there. -/
theorem lookup?_listing_unsigned {name : OptionName} (hkind : name.kind = .unsigned) :
    options.listing.lookup? name.spelling =
      some (.unsigned (options.listing.unsigned name.spelling)) := by
  have hget := options.kind_get name
  rw [OptionListing.unsigned, lookup?_listing_spelling]
  cases hvalue : options.get name with
  | boolean value => rw [hvalue, hkind] at hget; cases hget
  | unsigned value => rfl

/-- A flag that is asked for is there. -/
theorem lookup?_listing_flag {name : OptionName} (hkind : name.kind = .boolean) :
    options.listing.lookup? name.spelling =
      some (.boolean (options.listing.flag name.spelling)) := by
  have hget := options.kind_get name
  rw [OptionListing.flag, lookup?_listing_spelling]
  cases hvalue : options.get name with
  | boolean value => rfl
  | unsigned value => rw [hvalue, hkind] at hget; cases hget

/-! ## Behind any assignments -/

/-- Options are accepted, changed and read as the texts say that have been assigned to the defaults,
and their listing says the same. -/
structure BehindAssignments (texts : List String) (options : Options) (listing : OptionListing) :
    Prop where
  /-- An assignment is accepted if the text in front of its first equals sign names an option and
  the text behind it spells a value of the kind of that option. -/
  accepts_iff : ∀ text, (options.assign? text).isSome = true ↔
    ∃ spelling raw, text = spelling ++ "=" ++ raw ∧ '=' ∉ spelling.toList ∧
      ∃ name : OptionName, name.spelling = spelling ∧
        ∃ value, OptionValue.Spells name.kind raw value
  /-- An assignment that is not accepted changes nothing. -/
  rejected : ∀ text, options.assign? text = none →
    options.assign text = options ∧ listing.assign text = listing
  /-- An assignment that is accepted changes the option that it names, and no other. -/
  accepted : ∀ text name value, Assigns text name value →
    options.assign? text = some (options.assign text) ∧ (options.assign text).get name = value ∧
      ∀ other, other ≠ name → (options.assign text).get other = options.get other
  /-- An option has the value that it was given last, or its default if it was given none. -/
  last : ∀ name,
    (∃ before text after, texts = before ++ text :: after ∧ Assigns text name (options.get name) ∧
      ∀ later ∈ after, ∀ value, ¬ Assigns later name value) ∨
    (∀ text ∈ texts, ∀ value, ¬ Assigns text name value) ∧
      options.get name = ({} : Options).get name
  /-- The order of two assignments matters only where they name the same option. -/
  commutes : ∀ first second,
    (∀ name value given, Assigns first name value → ¬ Assigns second name given) →
      (options.assign first).assign second = (options.assign second).assign first
  /-- The listing goes through every further assignment as the options do. -/
  listing_assign? : ∀ text, listing.assign? text = (options.assign? text).map Options.listing
  /-- The rows of the listing have their names, kinds and descriptions, in one order. -/
  rows_eq :
    (listing : List OptionRow).map (fun row => (row.name, row.value.kind, row.description)) =
      OptionName.all.map fun name => (name.spelling, name.kind, name.description)
  /-- A row is found by the name of an option and by no other. -/
  lookup?_eq : ∀ spelling,
    listing.lookup? spelling = (OptionName.ofSpelling? spelling).map options.get
  /-- Whoever asks for a number finds it, and as a size of 64 bits it is not cut. -/
  unsigned : ∀ name : OptionName, name.kind = .unsigned →
    listing.lookup? name.spelling = some (.unsigned (listing.unsigned name.spelling)) ∧
      listing.size 64 name.spelling = (listing.unsigned name.spelling).toNat
  /-- Whoever asks for a flag finds it. -/
  flag : ∀ name : OptionName, name.kind = .boolean →
    listing.lookup? name.spelling = some (.boolean (listing.flag name.spelling))
  /-- The options are what the typed reading of the listing gives. -/
  typed_eq : options =
    { maxLoopIterations := listing.unsigned "maxLoopIterations"
      maxRecursionDepth := listing.unsigned "maxRecursionDepth"
      maxStackSize := listing.unsigned "maxStackSize"
      strictMode := listing.flag "strictMode"
      useSampling := listing.flag "useSampling"
      dumpSampleData := listing.flag "dumpSampleData" }

theorem assign?_isSome_iff {text : String} : (options.assign? text).isSome = true ↔
    ∃ name value, Assigns text name value := by
  simp only [assign?, Option.isSome_map, Option.isSome_iff_exists, Prod.exists,
    readAssignment?_eq_some_iff]

theorem get_assign_of_assigns {text : String} {name : OptionName} {value : OptionValue}
    (hassigns : Assigns text name value) : (options.assign text).get name = value := by
  rw [get_assign, assigned?_eq_some_iff.mpr hassigns]
  rfl

theorem get_assign_of_not_assigns {text : String} {name : OptionName}
    (hassigns : ∀ value, ¬ Assigns text name value) :
    (options.assign text).get name = options.get name := by
  rw [get_assign, assigned?_eq_none_iff.mpr hassigns]
  rfl

/-- An assignment names one option. -/
theorem Assigns.name_eq {text : String} {name other : OptionName} {value given : OptionValue}
    (hname : Assigns text name value) (hother : Assigns text other given) : other = name := by
  rw [← readAssignment?_eq_some_iff] at hname hother
  rw [hname] at hother
  exact (congrArg Prod.fst (Option.some.inj hother)).symm

theorem get_foldl_assign_cases (name : OptionName) (texts : List String) :
    (∃ before text after, texts = before ++ text :: after ∧
      Assigns text name ((texts.foldl assign options).get name) ∧
        ∀ later ∈ after, ∀ value, ¬ Assigns later name value) ∨
    (∀ text ∈ texts, ∀ value, ¬ Assigns text name value) ∧
      (texts.foldl assign options).get name = options.get name := by
  induction texts using List.reverseRecOn with
  | nil => exact .inr ⟨List.forall_mem_nil _, rfl⟩
  | append_singleton texts text ih =>
      rw [List.foldl_append, List.foldl_cons, List.foldl_nil]
      by_cases hnamed : ∃ value, Assigns text name value
      · obtain ⟨value, hassigns⟩ := hnamed
        refine .inl ⟨texts, text, [], rfl, ?_, List.forall_mem_nil _⟩
        rwa [get_assign_of_assigns _ hassigns]
      · rw [not_exists] at hnamed
        rw [get_assign_of_not_assigns _ hnamed]
        rcases ih with ⟨before, last, after, htexts, hlast, hafter⟩ | ⟨hnone, hsame⟩
        · refine .inl ⟨before, last, after ++ [text], by simp [htexts], hlast, ?_⟩
          simpa [or_imp, forall_and] using ⟨hafter, hnamed⟩
        · refine .inr ⟨?_, hsame⟩
          simpa [or_imp, forall_and] using ⟨hnone, hnamed⟩

theorem assign_comm {first second : String}
    (hnames : ∀ name value given, Assigns first name value → ¬ Assigns second name given) :
    (options.assign first).assign second = (options.assign second).assign first := by
  refine eq_of_get_eq fun name => ?_
  by_cases hfirst : ∃ value, Assigns first name value
  · obtain ⟨value, hassigns⟩ := hfirst
    rw [get_assign_of_assigns _ hassigns,
      get_assign_of_not_assigns _ fun given => hnames name value given hassigns,
      get_assign_of_assigns _ hassigns]
  · rw [not_exists] at hfirst
    rw [get_assign_of_not_assigns _ hfirst, get_assign, get_assign_of_not_assigns _ hfirst,
      ← get_assign]

/-- Whatever is assigned to the defaults, and to their listing, both are read and changed as the
texts say. -/
theorem behindAssignments_foldl (texts : List String) :
    BehindAssignments texts (texts.foldl assign {})
      (texts.foldl OptionListing.assign ({} : Options).listing) := by
  rw [foldl_assign_listing]
  have hlast := fun name => get_foldl_assign_cases {} name texts
  generalize texts.foldl assign {} = options at hlast ⊢
  exact {
    accepts_iff := by
      intro text
      rw [assign?_isSome_iff]
      constructor
      · rintro ⟨name, value, raw, htext, hspells⟩
        refine ⟨_, raw, htext, fun hmem => ?_, name, rfl, value, hspells⟩
        exact name.ne_equals_of_mem_spelling _ hmem rfl
      · rintro ⟨_, raw, htext, -, name, rfl, value, hspells⟩
        exact ⟨name, value, raw, htext, hspells⟩
    rejected := by
      intro text hnone
      have hsame : options.assign text = options := by rw [assign, hnone]; rfl
      rw [assign_listing, hsame]
      exact ⟨rfl, rfl⟩
    accepted := by
      intro text name value hassigns
      refine ⟨?_, get_assign_of_assigns _ hassigns, fun other hother => ?_⟩
      · obtain ⟨next, hnext⟩ := Option.isSome_iff_exists.mp
          (options.assign?_isSome_iff.mpr ⟨name, value, hassigns⟩)
        rw [assign, hnext]
        rfl
      · exact get_assign_of_not_assigns _ fun given hgiven => hother (hassigns.name_eq hgiven)
    last := hlast
    commutes := fun first second => options.assign_comm
    listing_assign? := options.assign?_listing
    rows_eq := by
      simp only [listing, List.map_map]
      exact List.map_congr_left fun name _ => by simp [kind_get]
    lookup?_eq := options.lookup?_listing
    unsigned := fun name hkind => ⟨options.lookup?_listing_unsigned hkind,
      OptionListing.size_sixtyfour _ _⟩
    flag := fun name => options.lookup?_listing_flag
    typed_eq := rfl }

end Options

end ScriptShell
