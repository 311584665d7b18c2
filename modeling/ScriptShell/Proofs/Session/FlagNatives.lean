import Mathlib.Data.Finset.Union
import ScriptShell.Proofs.Sampling.FlagSets
import ScriptShell.Proofs.Session.Conversions

/-!
# Natives that change the sampling flags

`setSamplingFlags` and `clearSamplingFlags` take any number of arguments. Each is converted to a
number and then changes the flags, before the next one is converted. A conversion may run script
code that changes the flags too, so that the flags are followed from session to session
(`ConvertsFlags`); where no conversion changes them, all that counts is the set of the numbers
(`ConvertsFlags.members_eq`).

## Main results

* `Host.flagOf_eq_some_iff`: which numbers name a flag, and which flag that is.
* `Host.members_changed`: what a number does to the set of flags.
* `Host.flags_change_in_turn`.
-/

namespace ScriptShell

variable {engine : Engine}

namespace Host

/-! ## Numbers that name flags -/

/-- The flag that a number names: from 1 on and below 33, its whole part. -/
def named : Numeric → Finset Nat
  | .finite value => if 1 ≤ value ∧ value < 33 then {value.floor.toNat} else ∅
  | _ => ∅

/-- The flags that some numbers name. -/
def namedBy (numbers : List Numeric) : Finset Nat :=
  numbers.toFinset.biUnion named

theorem floor_bounds {value : Rat} (hrange : 1 ≤ value ∧ value < 33) :
    1 ≤ value.floor ∧ value.floor < 33 :=
  ⟨Rat.le_floor_iff.mpr (by exact_mod_cast hrange.1),
    Rat.floor_lt_iff.mpr (by exact_mod_cast hrange.2)⟩

theorem mem_named {number : Numeric} {place : Nat} : place ∈ named number ↔
    ∃ value, number = .finite value ∧ (1 ≤ value ∧ value < 33) ∧ value.floor = (place : Int) := by
  cases number with
  | nan => simp [named]
  | infinite negative => simp [named]
  | finite value =>
      simp only [Numeric.finite.injEq, exists_eq_left']
      by_cases hrange : 1 ≤ value ∧ value < 33
      · have hbounds := floor_bounds hrange
        rw [named, if_pos hrange, Finset.mem_singleton]
        exact ⟨fun hplace => ⟨hrange, by omega⟩, fun hplace => by omega⟩
      · rw [named, if_neg hrange]
        simp [hrange]

theorem bounds_of_mem_named {number : Numeric} {place : Nat} (hplace : place ∈ named number) :
    1 ≤ place ∧ place ≤ 32 := by
  obtain ⟨value, _, hrange, hfloor⟩ := mem_named.mp hplace
  have hbounds := floor_bounds hrange
  omega

theorem flagOf_eq_some_iff {number : Numeric} {flag : UInt32} :
    flagOf number = some flag ↔ flag.toNat ∈ named number := by
  rw [mem_named]
  cases number with
  | nan => simp [flagOf]
  | infinite negative => simp [flagOf]
  | finite value =>
      simp only [flagOf, Option.ite_none_right_eq_some, Option.some.injEq, Numeric.finite.injEq,
        exists_eq_left']
      refine and_congr_right fun hrange => ?_
      have hbounds := floor_bounds hrange
      have hflag : (value.floor.toNat.toUInt32).toNat = value.floor.toNat :=
        UInt32.toNat_ofNat_of_lt' (by
          simp only [UInt32.size]
          omega)
      rw [← UInt32.toNat_inj, hflag]
      omega

/-- A number that names a flag names only that one. -/
theorem named_eq_singleton {number : Numeric} {flag : UInt32} (hflag : flagOf number = some flag) :
    named number = {flag.toNat} := by
  ext place
  have hnamed := flagOf_eq_some_iff.mp hflag
  rw [mem_named] at hnamed ⊢
  rw [Finset.mem_singleton]
  obtain ⟨value, rfl, hrange, hfloor⟩ := hnamed
  simp only [Numeric.finite.injEq, exists_eq_left', hfloor]
  exact ⟨fun hplace => by omega, fun hplace => ⟨hrange, by omega⟩⟩

theorem named_eq_empty {number : Numeric} (hflag : flagOf number = none) : named number = ∅ := by
  refine Finset.eq_empty_of_forall_notMem fun place hplace => ?_
  have hbounds := bounds_of_mem_named hplace
  have hsome : flagOf number = some (UInt32.ofNat place) := by
    rw [flagOf_eq_some_iff, UInt32.toNat_ofNat_of_lt' (by
      simp only [UInt32.size]
      omega)]
    exact hplace
  rw [hflag] at hsome
  cases hsome

/-! ## Changes of the flags -/

/-- The native that sets flags, or the one that clears them. -/
def flagNative (sets : Bool) : Native :=
  bif sets then .setSamplingFlags else .clearSamplingFlags

/-- What such a native does with a flag. -/
def flagChange (sets : Bool) : SamplingFlags → UInt32 → SamplingFlags :=
  bif sets then SamplingFlags.set else SamplingFlags.clear

/-- The flags behind a number. -/
def changed (sets : Bool) (flags : SamplingFlags) (number : Numeric) : SamplingFlags :=
  match flagOf number with
  | some flag => flagChange sets flags flag
  | none => flags

/-- What numbers add to a set, or take out of it. -/
def joined (sets : Bool) (members numbers : Finset Nat) : Finset Nat :=
  bif sets then members ∪ numbers else members \ numbers

theorem joined_empty (sets : Bool) (members : Finset Nat) : joined sets members ∅ = members := by
  cases sets
  · exact Finset.sdiff_empty
  · exact Finset.union_empty members

theorem joined_joined (sets : Bool) (members numbers others : Finset Nat) :
    joined sets (joined sets members numbers) others = joined sets members (numbers ∪ others) := by
  cases sets
  · exact sdiff_sdiff_left
  · exact Finset.union_assoc members numbers others

/-- A number that names a flag sets it or clears it, and the other flags stay. -/
theorem members_changed (sets : Bool) (flags : SamplingFlags) (number : Numeric) :
    (changed sets flags number).members = joined sets flags.members (named number) := by
  cases hflag : flagOf number with
  | none => rw [changed, hflag, named_eq_empty hflag, joined_empty]
  | some flag =>
      have hnamed := named_eq_singleton hflag
      have hbounds := bounds_of_mem_named (flagOf_eq_some_iff.mp hflag)
      have hrange : SamplingFlags.inRange flag = true := SamplingFlags.inRange_iff.mpr hbounds
      have hsame {place : Nat} (hplace : 1 ≤ place ∧ place ≤ 32) :
          UInt32.ofNat place = flag ↔ place = flag.toNat := by
        rw [← UInt32.toNat_inj, UInt32.toNat_ofNat_of_lt' (by
          simp only [UInt32.size]
          omega)]
      ext place
      rw [changed, hflag, hnamed, SamplingFlags.mem_members]
      cases sets with
      | false =>
          show _ ∧ (flags.clear flag).isSet _ = true ↔ place ∈ flags.members \ {flag.toNat}
          rw [SamplingFlags.isSet_clear, Finset.mem_sdiff, Finset.mem_singleton,
            SamplingFlags.mem_members, ← and_assoc]
          exact and_congr_right fun hmem => not_congr (hsame hmem.1)
      | true =>
          show _ ∧ (flags.set flag).isSet _ = true ↔ place ∈ flags.members ∪ {flag.toNat}
          rw [SamplingFlags.isSet_set, Finset.mem_union, Finset.mem_singleton,
            SamplingFlags.mem_members]
          constructor
          · rintro ⟨hplace, ⟨_, hother⟩ | hset⟩
            · exact .inr ((hsame hplace).mp hother)
            · exact .inl ⟨hplace, hset⟩
          · rintro (⟨hplace, hset⟩ | rfl)
            · exact ⟨hplace, .inr hset⟩
            · exact ⟨hbounds, .inl ⟨hrange, (hsame hbounds).mpr rfl⟩⟩

/-! ## Arguments one after the other -/

/-- The conversion of a value to a number. -/
def toNumber (answer : Answer engine) (value : engine.Value) : Attempt engine Numeric :=
  act answer fun realm => engine.toNumber realm value

/-- Each number changes the flags that its conversion left. -/
abbrev ConvertsFlags (sets : Bool) (answer : Answer engine) :
    Session engine → List (Conversion engine Numeric) → Session engine → Prop :=
  Converts (toNumber answer) fun number session =>
    { session with flags := changed sets session.flags number }

variable {session : Session engine} {sets : Bool}

/-- Where no conversion changes the flags, only the set of the numbers counts. -/
theorem members_of_converts {answer : Answer engine} {after : Session engine}
    {conversions : List (Conversion engine Numeric)}
    (hconverts : ConvertsFlags sets answer session conversions after)
    (hstill : ∀ conversion ∈ conversions, conversion.ended.flags = conversion.began.flags) :
    after.flags.members =
      joined sets session.flags.members (namedBy (conversions.map Conversion.result)) := by
  induction hconverts with
  | nil => exact (joined_empty sets _).symm
  | @cons session ended after value number conversions _ _ ih =>
      have hflags : ended.flags = session.flags := hstill _ List.mem_cons_self
      have hnamed : namedBy (number :: conversions.map Conversion.result) =
          named number ∪ namedBy (conversions.map Conversion.result) := by
        rw [namedBy, List.toFinset_cons, Finset.biUnion_insert, namedBy]
      rw [ih fun conversion hmem => hstill conversion (List.mem_cons_of_mem _ hmem),
        members_changed, hflags, joined_joined, List.map_cons, hnamed]

/-- What behind some converted arguments is still to be done, is done next. -/
theorem outcome_changeFlags_append {answer : Answer engine} {middle : Session engine}
    {conversions : List (Conversion engine Numeric)}
    (hconverts : ConvertsFlags sets answer session conversions middle)
    (rest : List engine.Value) :
    (changeFlags answer (flagChange sets)
      (conversions.map Conversion.value ++ rest)).run.outcome session =
        (changeFlags answer (flagChange sets) rest).run.outcome middle := by
  induction hconverts with
  | nil => rfl
  | @cons session ended after value number conversions hends _ ih =>
      rw [← ih]
      refine (outcome_run_bind_of_ends hends).trans ?_
      cases hflag : flagOf number with
      | none => simp only [changed, hflag]; rfl
      | some flag => simp only [changed, hflag]; rfl

/-- What the call of such a native comes to: all arguments are converted and `null` is given, or a
conversion throws or is cut off, and nothing behind it is done. -/
inductive ChangesFlags (sets : Bool) (budget : Nat) (call : Call engine)
    (session : Session engine) : Prop
  | changed {conversions : List (Conversion engine Numeric)} {converted after : Session engine}
      (harguments : call.arguments = conversions.map Conversion.value)
      (hconverts : ConvertsFlags sets (answer budget) (call.within session) conversions converted)
      (hends : Ends (call.answered (budget + 1)) session (.ok engine.null) after)
      (hafter : after = { converted with realm := session.realm })
      (hmembers : (∀ conversion ∈ conversions,
        conversion.ended.flags = conversion.began.flags) → after.flags.members =
          joined sets session.flags.members (namedBy (conversions.map Conversion.result)))
  | threw {conversions : List (Conversion engine Numeric)} {value : engine.Value}
      {rest : List engine.Value} {fault : engine.Fault} {converted failed after : Session engine}
      (harguments : call.arguments = conversions.map Conversion.value ++ value :: rest)
      (hconverts : ConvertsFlags sets (answer budget) (call.within session) conversions converted)
      (hthrew : Ends (toNumber (answer budget) value).run converted (.error fault) failed)
      (hends : Ends (call.answered (budget + 1)) session (.error fault) after)
      (hafter : after = { failed with realm := session.realm })
      (hmembers : (∀ conversion ∈ conversions,
        conversion.ended.flags = conversion.began.flags) → failed.flags = converted.flags →
          after.flags.members =
            joined sets session.flags.members (namedBy (conversions.map Conversion.result)))
  | halted {conversions : List (Conversion engine Numeric)} {value : engine.Value}
      {rest : List engine.Value} {halt : Halt} {converted cut : Session engine}
      (harguments : call.arguments = conversions.map Conversion.value ++ value :: rest)
      (hconverts : ConvertsFlags sets (answer budget) (call.within session) conversions converted)
      (hcut : Halts (toNumber (answer budget) value).run converted halt cut)
      (hhalts : Halts (call.answered (budget + 1)) session halt cut)

/-- What a native that changes flags does with the number of an argument. -/
structure ChangesBy (sets : Bool) (flags : SamplingFlags) (number : Numeric) : Prop where
  members : (changed sets flags number).members = joined sets flags.members (named number)
  untouched : named number = ∅ → changed sets flags number = flags
  named_iff : ∀ place : Nat, place ∈ named number ↔
    ∃ value, number = .finite value ∧ (1 ≤ value ∧ value < 33) ∧ value.floor = (place : Int)
  accepted : ∀ flag, flagOf number = some flag →
    flags.answer (.set flag) = true ∧ flags.answer (.clear flag) = true

theorem changesBy (sets : Bool) (flags : SamplingFlags) (number : Numeric) :
    ChangesBy sets flags number where
  members := members_changed sets flags number
  untouched hnamed := by
    cases hflag : flagOf number with
    | none => rw [changed, hflag]
    | some flag =>
        rw [named_eq_singleton hflag] at hnamed
        exact absurd hnamed (Finset.singleton_ne_empty _)
  named_iff _ := mem_named
  accepted flag hflag := by
    have hrange : SamplingFlags.inRange flag = true :=
      SamplingFlags.inRange_iff.mpr (bounds_of_mem_named (flagOf_eq_some_iff.mp hflag))
    exact ⟨hrange, hrange⟩

/-- Whatever the arguments are and whatever script code their conversions run, the natives go
through them from left to right, and each number changes the flag that it names before the next
argument is converted. -/
theorem flags_change_in_turn (engine : Engine) (sets : Bool) (budget : Nat) (realm : Realm)
    (arguments : List engine.Value) (session : Session engine) :
    ChangesFlags sets budget ⟨realm, flagNative sets, arguments⟩ session ∧
      ∀ flags number, ChangesBy sets flags number := by
  let call : Call engine := ⟨realm, flagNative sets, arguments⟩
  have hresponds : ∀ arguments : List engine.Value,
      respond (answer budget) budget (flagNative sets) arguments =
        changeFlags (answer budget) (flagChange sets) arguments := by
    intro arguments
    cases sets <;> rfl
  refine ⟨?_, changesBy sets⟩
  rcases converts_or_stops (toNumber (answer budget)) (fun number session =>
      { session with flags := changed sets session.flags number }) arguments
    (call.within session) with ⟨conversions, converted, rfl, hconverts⟩ |
      ⟨conversions, value, rest, converted, rfl, hconverts, hstops⟩
  · have houtcome := outcome_changeFlags_append hconverts []
    rw [List.append_nil] at houtcome
    have hends : Ends (respond (answer budget) budget (flagNative sets)
        (conversions.map Conversion.value)).run (call.within session) (.ok engine.null)
          converted := by
      rw [Ends, hresponds, houtcome]
      exact ends_run_pure.mpr ⟨rfl, rfl⟩
    have hmembers := members_of_converts hconverts
    exact .changed rfl hconverts (ends_answered hends) rfl hmembers
  · have hmembers := members_of_converts hconverts
    have houtcome := outcome_changeFlags_append hconverts (value :: rest)
    rcases hstops with ⟨fault, failed, hthrew⟩ | ⟨halt, cut, hcut⟩
    · have hends : Ends (respond (answer budget) budget (flagNative sets)
          (conversions.map Conversion.value ++ value :: rest)).run (call.within session)
            (.error fault) failed := by
        rw [Ends, hresponds, houtcome]
        exact ends_run_bind_of_threw hthrew
      refine .threw rfl hconverts hthrew (ends_answered hends) rfl fun hstill hflags => ?_
      show failed.flags.members = _
      rw [hflags]
      exact hmembers hstill
    · have hhalts : Halts (respond (answer budget) budget (flagNative sets)
          (conversions.map Conversion.value ++ value :: rest)).run (call.within session) halt
            cut := by
        rw [Halts, hresponds, houtcome]
        exact halts_run_bind hcut
      exact .halted rfl hconverts hcut (halts_answered hhalts)

end Host

end ScriptShell
