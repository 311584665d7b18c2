import ScriptShell.Language.Convert

/-!
# Operators

What the operators of expressions compute once their operands are values.
-/

namespace ScriptShell.Language.Run

/-! ## Arithmetic -/

/-- An integer raised to a power. -/
def bigintPower (base exponent : Int) : Run Value := do
  if exponent < 0 then fail .range "BigInt negative exponent"
  else return .bigint (Int.pow base exponent.toNat)

/-- A division of integers, which zero does not divide. -/
def bigintDivision (divide : Int → Int → Int) (left right : Int) : Run Value := do
  if right = 0 then fail .range "BigInt division by zero"
  else return .bigint (divide left right)

/-- Bits of integers of unbounded size in two's complement, combined place by place. The width
covers both operands and the sign. -/
def combineBits (combine : Nat → Nat → Nat) (left right : Int) : Int :=
  let width := max left.natAbs.log2 right.natAbs.log2 + 2
  let modulus := Nat.pow 2 width
  Int.bmod (combine (left % modulus).toNat (right % modulus).toNat) modulus

/-- A shift of an integer to the left, or to the right by a negative amount. -/
def shiftBigint (value amount : Int) : Int :=
  if 0 ≤ amount then value * Nat.pow 2 amount.toNat else value.fdiv (Nat.pow 2 (-amount).toNat)

/-- An operation on two integers of unbounded size. -/
def bigintOperation (operator : BinaryOperator) (left right : Int) : Run Value :=
  match operator with
  | .add => return .bigint (left + right)
  | .subtract => return .bigint (left - right)
  | .multiply => return .bigint (left * right)
  | .divide => bigintDivision Int.tdiv left right
  | .remainder => bigintDivision Int.tmod left right
  | .power => bigintPower left right
  | .shiftLeft => return .bigint (shiftBigint left right)
  | .shiftRight => return .bigint (shiftBigint left (-right))
  | .bitAnd => return .bigint (combineBits (· &&& ·) left right)
  | .bitOr => return .bigint (combineBits (· ||| ·) left right)
  | .bitXor => return .bigint (combineBits (· ^^^ ·) left right)
  | _ => typeError "BigInts have no unsigned right shift, use >> instead"

/-- Bits of 32-bit integers, combined place by place. -/
def combineWords (combine : Nat → Nat → Nat) (left right : Float) : Float :=
  let bits := combine (Numerals.toUnsigned 32 left) (Numerals.toUnsigned 32 right)
  Float.ofInt (Int.bmod bits (Nat.pow 2 32))

/-- An operation on two numbers. -/
def numberOperation (operator : BinaryOperator) (left right : Float) : Float :=
  let amount := Numerals.toUnsigned 32 right % 32
  match operator with
  | .add => left + right
  | .subtract => left - right
  | .multiply => left * right
  | .divide => left / right
  | .remainder => Numerals.remainder left right
  | .power => Numerals.power left right
  | .shiftLeft =>
    Float.ofInt (Int.bmod (Numerals.toSigned 32 left * Nat.pow 2 amount) (Nat.pow 2 32))
  | .shiftRight => Float.ofInt ((Numerals.toSigned 32 left).fdiv (Nat.pow 2 amount))
  | .shiftRightUnsigned => Float.ofNat (Numerals.toUnsigned 32 left / Nat.pow 2 amount)
  | .bitAnd => combineWords (· &&& ·) left right
  | .bitOr => combineWords (· ||| ·) left right
  | .bitXor => combineWords (· ^^^ ·) left right
  | _ => 0.0 / 0.0

/-- An operation on two numbers or two integers of unbounded size. -/
def numericOperation (operator : BinaryOperator) : Value → Value → Run Value
  | .bigint left, .bigint right => bigintOperation operator left right
  | .number left, .number right => return .number (numberOperation operator left right)
  | _, _ => typeError "cannot mix BigInt and other types, use explicit conversions"

/-- A sum, or the two texts of operands one of which is a text. -/
def addition (left right : Value) : Run Value := do
  let left ← toPrimitive .none left
  let right ← toPrimitive .none right
  match left, right with
  | .text a, _ => return .text (a ++ (← primitiveToText right))
  | _, .text b => return .text ((← primitiveToText left) ++ b)
  | _, _ => numericOperation .add (← toNumeric left) (← toNumeric right)

/-! ## Comparisons -/

/-- The order of two numbers, if they have one. -/
def compareExact : Numeric → Numeric → Option Ordering
  | .finite a, .finite b => some (if a < b then .lt else if b < a then .gt else .eq)
  | .nan, _ | _, .nan => none
  | .infinite a, .infinite b =>
    some (if a = b then .eq else if a then .lt else .gt)
  | .infinite negative, _ => some (if negative then .lt else .gt)
  | _, .infinite negative => some (if negative then .gt else .lt)

/-- The exact value of a numeric value. -/
def exactOf : Value → Numeric
  | .number value => .ofFloat value
  | .bigint value => .finite value
  | _ => .nan

/-- The order of two primitive values, if they have one. Two texts are compared by their units,
all else as numbers. -/
def comparePrimitive (left right : Value) : Run (Option Ordering) := do
  match left, right with
  | .text a, .text b =>
    return some (if WideText.lessThan a.units b.units then .lt
      else if WideText.lessThan b.units a.units then .gt else .eq)
  | .bigint a, .text b =>
    return (Numerals.bigintOfText? b).bind fun b => compareExact (.finite a) (.finite b)
  | .text a, .bigint b =>
    return (Numerals.bigintOfText? a).bind fun a => compareExact (.finite a) (.finite b)
  | _, _ => return compareExact (exactOf (← toNumeric left)) (exactOf (← toNumeric right))

/-- Whether two values stand in an order. -/
def ordered (accepts : Ordering → Bool) (left right : Value) : Run Value := do
  let left ← toPrimitive .number left
  let right ← toPrimitive .number right
  return .boolean ((← comparePrimitive left right).any accepts)

/-- Equality of two primitive values with conversions. -/
def loosePrimitive : Value → Value → Bool
  | .undefined, .null | .null, .undefined => true
  | .boolean a, .boolean b => a = b
  | .boolean a, b => loosePlain (.number (if a then 1.0 else 0.0)) b
  | a, .boolean b => loosePlain a (.number (if b then 1.0 else 0.0))
  | a, b => loosePlain a b
where
  /-- Equality of primitive values of which none is a boolean. -/
  loosePlain : Value → Value → Bool
    | .number a, .text b => a == Numerals.ofText b
    | .text a, .number b => Numerals.ofText a == b
    | .bigint a, .text b => Numerals.bigintOfText? b = some a
    | .text a, .bigint b => Numerals.bigintOfText? a = some b
    | .bigint a, .number b => compareExact (.finite a) (.ofFloat b) = some .eq
    | .number a, .bigint b => compareExact (.ofFloat a) (.finite b) = some .eq
    | a, b => a.same b

/-- Equality with conversions. -/
def looselyEqual (left right : Value) : Run Bool := do
  match left, right with
  | .object a, .object b => return a = b
  | .object _, other =>
    if other.isNullish then return false
    else return loosePrimitive (← toPrimitive .none left) other
  | other, .object _ =>
    if other.isNullish then return false
    else return loosePrimitive other (← toPrimitive .none right)
  | _, _ => return loosePrimitive left right

/-! ## Objects -/

/-- Whether one of the objects that an object inherits from is a given one, up to a number of
them. -/
def inheritsFrom (store : Store) (ancestor : ObjectId) : Nat → ObjectId → Bool
  | 0, _ => false
  | bound + 1, id =>
    match (store.object id).prototype with
    | none => false
    | some prototype => prototype = ancestor || inheritsFrom store ancestor bound prototype

/-- Whether a value was made by a constructor. -/
def isInstance (value constructor : Value) : Run Bool := do
  match constructor with
  | .object id =>
    if !(← object id).isCallable then
      typeError "right-hand side of 'instanceof' is not callable"
    else
      let constructor := match (← object id).kind with
        | .bound target _ _ => target
        | _ => constructor
      match value with
      | .object id =>
        match ← getNamed constructor "prototype" with
        | .object prototype =>
          let store ← store
          return inheritsFrom store prototype (store.objects.size + 1) id
        | _ => typeError "function has non-object prototype in instanceof check"
      | _ => return false
  | _ =>
    typeError ("right-hand side of 'instanceof' should be an object, got `" ++
      (← typeOf constructor) ++ "`")

/-- Whether an object has a property that a value names. -/
def isIn (name object : Value) : Run Bool := do
  match object with
  | .object id => hasProperty id (← toKey name)
  | _ =>
    typeError ("right-hand side of 'in' should be an object, got `" ++ (← typeOf object) ++ "`")

/-! ## All operators -/

/-- The value of an operator on two values. -/
def binaryOperation (operator : BinaryOperator) (left right : Value) : Run Value := do
  match operator with
  | .add => addition left right
  | .equal => return .boolean (← looselyEqual left right)
  | .notEqual => return .boolean !(← looselyEqual left right)
  | .same => return .boolean (left.same right)
  | .notSame => return .boolean !(left.same right)
  | .less => ordered (· = .lt) left right
  | .lessEqual => ordered (· ≠ .gt) left right
  | .greater => ordered (· = .gt) left right
  | .greaterEqual => ordered (· ≠ .lt) left right
  | .isIn => return .boolean (← isIn left right)
  | .instanceOf => return .boolean (← isInstance left right)
  | operator =>
    let left ← toNumeric left
    numericOperation operator left (← toNumeric right)

/-- The value of an operator on one value, other than `typeof`, `void` and `delete`. -/
def unaryOperation (operator : UnaryOperator) (operand : Value) : Run Value := do
  match operator with
  | .plus => return .number (← toNumber operand)
  | .minus =>
    match ← toNumeric operand with
    | .bigint value => return .bigint (-value)
    | .number value => return .number (-value)
    | value => return value
  | .bitNot =>
    match ← toNumeric operand with
    | .bigint value => return .bigint (-value - 1)
    | .number value =>
      return .number (Float.ofInt (Int.bmod (-(Numerals.toSigned 32 value) - 1) (Nat.pow 2 32)))
    | value => return value
  | .not => return .boolean !operand.truthy
  | _ => return .undefined

/-- The value behind an increment or a decrement. -/
def step (increment : Bool) (value : Value) : Run Value := do
  match value with
  | .bigint value => return .bigint (if increment then value + 1 else value - 1)
  | .number value => return .number (if increment then value + 1.0 else value - 1.0)
  | value => return value

end ScriptShell.Language.Run
