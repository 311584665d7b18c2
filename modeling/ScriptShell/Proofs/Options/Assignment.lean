import Mathlib.Data.List.Induction
import Mathlib.Data.List.TakeDrop
import ScriptShell.Options

/-!
# Assignments to options

An assignment names an option and a value of its kind, by its text alone. The table behind it has
that value for that option and its old values for all others, so that behind a row of assignments
each option has the value of the last one that names it (`Options.get_foldl_assign`). The text of
an option with the value that is displayed for it is such an assignment
(`Options.readAssignment?_assignmentText`).
-/

namespace ScriptShell

/-! ## Displayed values -/

namespace OptionValue

/-- The kind of a value. -/
def kind : OptionValue → OptionKind
  | .boolean _ => .boolean
  | .unsigned _ => .unsigned

/-- Digits are read as the number that they stand for. -/
theorem readDigits?_of_isDigit (digits : List Char) (value : Nat)
    (hdigits : ∀ c ∈ digits, c.isDigit = true) :
    readDigits? value digits = some (Nat.ofDigitChars 10 digits value) := by
  induction digits generalizing value with
  | nil => rfl
  | cons c rest ih =>
      obtain ⟨hc, hrest⟩ := List.forall_mem_cons.mp hdigits
      have hrange : ('0' ≤ c && c ≤ '9') = true := by
        simpa [Char.isDigit, Char.le_def] using hc
      rw [readDigits?, if_pos hrange, ih _ hrest, Nat.ofDigitChars_cons, Nat.mul_comm]

theorem readUnsigned?_repr (value : UInt64) :
    readUnsigned? (value.toNat.repr).toList = some value := by
  have hdigits : (value.toNat.repr).toList = Nat.toDigits 10 value.toNat := by
    rw [Nat.repr_eq_ofList_toDigits, String.toList_ofList]
  have hall : ∀ c ∈ Nat.toDigits 10 value.toNat, c.isDigit = true :=
    fun c hc => Nat.isDigit_of_mem_toDigits (by decide) (by decide) hc
  have hread : readDigits? 0 (Nat.toDigits 10 value.toNat) = some value.toNat := by
    rw [readDigits?_of_isDigit _ _ hall, Nat.ofDigitChars_ten_toDigits]
  rw [hdigits]
  unfold readUnsigned?
  -- A number is displayed without a sign, so the digits are all of the text.
  split
  · next rest heq =>
      rw [heq] at hall
      exact absurd (hall '+' List.mem_cons_self) (by decide)
  · rw [if_neg Nat.toDigits_ne_nil, hread]
    simp [value.toNat_lt]

/-- The text that is displayed for a value is read as that value. -/
theorem read?_display (value : OptionValue) :
    read? value.kind value.display.toList = some value := by
  cases value with
  | boolean value => cases value <;> rfl
  | unsigned value =>
      show (readUnsigned? (value.toNat.repr).toList).map OptionValue.unsigned = _
      rw [readUnsigned?_repr]
      rfl

/-- What is read as a kind has that kind. -/
theorem kind_of_read? {kind : OptionKind} {text : List Char} {value : OptionValue}
    (h : read? kind text = some value) : value.kind = kind := by
  cases kind with
  | boolean =>
      obtain ⟨_, -, rfl⟩ := Option.map_eq_some_iff.mp h
      rfl
  | unsigned =>
      obtain ⟨_, -, rfl⟩ := Option.map_eq_some_iff.mp h
      rfl

end OptionValue

/-! ## Names -/

namespace OptionName

@[simp] theorem ofSpelling?_spelling (name : OptionName) :
    ofSpelling? name.spelling = some name := by
  cases name <;> decide

@[simp] theorem mem_all (name : OptionName) : name ∈ all := by
  cases name <;> decide

/-- The name of an option contains no equals sign. -/
theorem ne_equals_of_mem_spelling (name : OptionName) : ∀ c ∈ name.spelling.toList, c ≠ '=' := by
  have hall : (name.spelling.toList.all fun c => c != '=') = true := by cases name <;> decide
  simpa using hall

end OptionName

namespace Options

/-! ## The table -/

theorem kind_get (options : Options) (name : OptionName) :
    (options.get name).kind = name.kind := by
  cases name <;> rfl

theorem get_set_self (options : Options) {name : OptionName} {value : OptionValue}
    (hkind : value.kind = name.kind) : (options.set name value).get name = value := by
  cases name <;> cases value <;> first | rfl | cases hkind

theorem get_set_of_ne (options : Options) {name other : OptionName} (hne : other ≠ name)
    (value : OptionValue) : (options.set name value).get other = options.get other := by
  cases name <;> cases value <;> cases other <;> first | rfl | exact absurd rfl hne

/-- A table is determined by the values in it. -/
theorem eq_of_get_eq {first second : Options} (h : ∀ name, first.get name = second.get name) :
    first = second := by
  have hloop := h .maxLoopIterations
  have hdepth := h .maxRecursionDepth
  have hstack := h .maxStackSize
  have hstrict := h .strictMode
  have husing := h .useSampling
  have hdump := h .dumpSampleData
  cases first
  cases second
  simp_all [get]

/-! ## Assignments -/

/-- An assignment is accepted, whatever the table. -/
def Accepts (text : String) : Prop :=
  ∀ options : Options, (options.assign? text).isSome = true

theorem accepts_iff {text : String} : Accepts text ↔ (readAssignment? text).isSome = true := by
  simp [Accepts, assign?]

instance (text : String) : Decidable (Accepts text) :=
  decidable_of_iff _ accepts_iff.symm

/-- The value that an assignment gives to an option, if it is accepted and names that option. -/
def assigned? (name : OptionName) (text : String) : Option OptionValue :=
  (readAssignment? text).bind fun assignment =>
    if assignment.1 = name then some assignment.2 else none

/-- An assignment has a value of the kind of the option that it names. -/
theorem kind_of_readAssignment? {text : String} {name : OptionName} {value : OptionValue}
    (h : readAssignment? text = some (name, value)) : value.kind = name.kind := by
  unfold readAssignment? at h
  split at h
  · obtain ⟨named, -, hvalue⟩ := Option.bind_eq_some_iff.mp h
    obtain ⟨read, hread, hpair⟩ := Option.bind_eq_some_iff.mp hvalue
    cases hpair
    exact OptionValue.kind_of_read? hread
  · cases h

/-- An assignment changes the option that it names, and no other. -/
theorem get_assign (options : Options) (name : OptionName) (text : String) :
    (options.assign text).get name = (assigned? name text).getD (options.get name) := by
  unfold assign assign? assigned?
  cases hread : readAssignment? text with
  | none => rfl
  | some assignment =>
      obtain ⟨named, value⟩ := assignment
      by_cases hname : named = name
      · subst hname
        simpa using options.get_set_self (kind_of_readAssignment? hread)
      · simpa [hname] using options.get_set_of_ne (Ne.symm hname) value

/-- Behind a row of assignments an option has the value of the last one that names it. -/
theorem get_foldl_assign (options : Options) (name : OptionName) (texts : List String) :
    (texts.foldl assign options).get name =
      ((texts.filterMap (assigned? name)).getLast?).getD (options.get name) := by
  induction texts using List.reverseRecOn with
  | nil => rfl
  | append_singleton texts text ih =>
      rw [List.foldl_append, List.foldl_cons, List.foldl_nil, get_assign, ih, List.filterMap_append]
      cases hassigned : assigned? name text <;> simp [hassigned]

/-- A text behind the name of an option and an equals sign is read as a value of its kind. -/
theorem readAssignment?_append (name : OptionName) (raw : String) :
    readAssignment? (name.spelling ++ "=" ++ raw) =
      (OptionValue.read? name.kind raw.toList).map (name, ·) := by
  have htext : (name.spelling ++ "=" ++ raw).toList =
      name.spelling.toList ++ '=' :: raw.toList := by
    simp
  have hspan : (name.spelling.toList ++ '=' :: raw.toList).span (· != '=') =
      (name.spelling.toList, '=' :: raw.toList) := by
    rw [List.span_eq_takeWhile_dropWhile, List.takeWhile_append_of_pos,
      List.dropWhile_append_of_pos]
    · simp
    · simpa using name.ne_equals_of_mem_spelling
    · simpa using name.ne_equals_of_mem_spelling
  unfold readAssignment?
  rw [htext, hspan]
  cases hread : OptionValue.read? name.kind raw.toList <;> simp [hread]

/-- The assignment that gives an option a value. -/
def assignmentText (name : OptionName) (value : OptionValue) : String :=
  name.spelling ++ "=" ++ value.display

/-- An option with the value that is displayed for it is an assignment of that value. -/
theorem readAssignment?_assignmentText {name : OptionName} {value : OptionValue}
    (hkind : value.kind = name.kind) :
    readAssignment? (assignmentText name value) = some (name, value) := by
  rw [assignmentText, readAssignment?_append, ← hkind, OptionValue.read?_display]
  rfl

/-- An option with the value that it has is given that value, and no other option is. -/
theorem assigned?_assignmentText (options : Options) (name other : OptionName) :
    assigned? name (assignmentText other (options.get other)) =
      if other = name then some (options.get other) else none := by
  rw [assigned?, readAssignment?_assignmentText (options.kind_get other)]
  rfl

theorem accepts_assignmentText (options : Options) (name : OptionName) :
    Accepts (assignmentText name (options.get name)) := by
  rw [accepts_iff, readAssignment?_assignmentText (options.kind_get name)]
  rfl

/-- The assignments of all options with the values that they have. -/
def assignments (options : Options) : List String :=
  OptionName.all.map fun name => assignmentText name (options.get name)

/-- The assignments of all options give each of them its value, once. -/
theorem filterMap_assignments (options : Options) (name : OptionName) :
    options.assignments.filterMap (assigned? name) = [options.get name] := by
  rw [assignments, List.filterMap_map]
  cases name <;> simp [OptionName.all, assigned?_assignmentText]

end Options

end ScriptShell
