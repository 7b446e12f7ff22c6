import LineRuns.Document.Place
import LineRuns.Document.Value

/-!
# Plain scalars

A scalar without quotes may stand for nothing, a truth value, a number, a date or a moment, by
its form alone. Whole numbers are binary, octal, decimal, hexadecimal or in groups of sixties;
underscores among their digits count for nothing. Doubles have a point, and their exponent a
sign. Every other form is a text.
-/

namespace LineRuns.Document

open Number (Binary64 ofDigits splitSign)

namespace Scalar

/-! ## Pieces -/

/-- The underscore. -/
def isUnderscore (c : CodePoint) : Bool :=
  c.val == 0x5F

/-- Whether all of a text is digits of a base and underscores. -/
def areDigits (base : Nat) (t : Text) : Bool :=
  t.all fun c => isUnderscore c || (digit? base c).isSome

/-- The values of the digits of a text. -/
def digits (base : Nat) (t : Text) : List Nat :=
  t.filterMap (digit? base)

/-- Whether a text is a decimal digit and then digits and underscores. -/
def isNumeral (t : Text) : Bool :=
  match t with
  | [] => false
  | c :: _ => !isUnderscore c && areDigits 10 t

/-- The text before the first code point of a kind, and the text after it if there is one. -/
def splitAt (isMark : CodePoint → Bool) (t : Text) : Text × Option Text :=
  let before := t.takeWhile fun c => !isMark c
  match t.drop before.length with
  | [] => (before, none)
  | _ :: after => (before, some after)

/-- The groups of a text between colons. -/
def groups : Text → List Text
  | [] => [[]]
  | c :: rest =>
    if c.val = 0x3A then [] :: groups rest
    else
      match groups rest with
      | [] => [[c]]
      | first :: more => (c :: first) :: more

/-- Whether a text is one of the groups of sixty: one digit, or two of which the first is below
six. -/
def isSixty : Text → Bool
  | [c] => (digit? 10 c).isSome
  | [c, d] => (digit? 6 c).isSome && (digit? 10 d).isSome
  | _ => false

/-- Whether a text is one of the words. -/
def isAmong (words : List String) (t : Text) : Bool :=
  words.any fun w => Text.ofString w == t

/-! ## Whole numbers -/

/-- The number of digits in a base, of which there must be some and, in base ten, not too many. -/
def wholeOf (negative : Bool) (base : Nat) (t : Text) : Except ContentFault Int :=
  let values := digits base t
  if values.isEmpty then .error (.noDigits base)
  else if base = 10 ∧ Number.digitLimit < values.length then .error (.tooManyDigits values.length)
  else
    let n : Int := ofDigits base values
    .ok (if negative then -n else n)

/-- The number of groups of sixty, the first one first. -/
def wholeOfSixties (negative : Bool) (groups : List Text) : Except ContentFault Int := do
  let values ← groups.mapM (wholeOf false 10)
  let n := values.foldl (fun n value => n * 60 + value) 0
  return if negative then -n else n

/-- The whole number that a plain scalar writes, if it has the form of one. -/
def whole? (t : Text) : Option (Except ContentFault Int) :=
  let (negative, body) := splitSign t
  match body with
  | [] => none
  | [c] => if isNumeral [c] then some (wholeOf negative 10 body) else none
  | c :: d :: rest =>
    if c.val = 0x30 then
      if d.val = 0x62 && !rest.isEmpty && areDigits 2 rest then some (wholeOf negative 2 rest)
      else if d.val = 0x78 && !rest.isEmpty && areDigits 16 rest then
        some (wholeOf negative 16 rest)
      else if areDigits 8 (d :: rest) then some (wholeOf negative 8 body)
      else none
    else
      match groups body with
      | first :: more =>
        if isNumeral first && more.all isSixty then some (wholeOfSixties negative (first :: more))
        else none
      | [] => none

/-! ## Doubles -/

/-- The exponent of ten after the mark of one, which must have a sign. -/
def exponent? : Option Text → Option Int
  | none => some 0
  | some t =>
    match t with
    | sign :: rest =>
      if rest.isEmpty || !rest.all fun c => (digit? 10 c).isSome then none
      else
        let n : Int := ofDigits 10 (digits 10 rest)
        if sign.val = 0x2D then some (-n) else if sign.val = 0x2B then some n else none
    | [] => none

/-- The double of digits before and after a point. -/
def pointed (negative : Bool) (whole places : Text) (exponent : Int) : Binary64 :=
  let back := digits 10 places
  Binary64.ofDecimal negative (ofDigits 10 (digits 10 whole ++ back)) (exponent - back.length)

/-- A number with a point and perhaps an exponent. Without a digit before the point it has no
sign. -/
def decimal? (hasSign negative : Bool) (body : Text) : Option Binary64 :=
  let (mantissa, power) := splitAt (fun c => c.val == 0x65 || c.val == 0x45) body
  match splitAt (fun c => c.val == 0x2E) mantissa, exponent? power with
  | (whole, some places), some exponent =>
    let fits :=
      if whole.isEmpty then !hasSign && isNumeral places
      else isNumeral whole && areDigits 10 places
    if fits then some (pointed negative whole places exponent) else none
  | _, _ => none

/-- The sum of two doubles, rounded once. -/
def add (x y : Binary64) : Binary64 :=
  match x.toQuotient?, y.toQuotient? with
  | some p, some q =>
    let sum := p.1 * q.2 + q.1 * p.2
    Binary64.ofQuotient (decide (sum < 0)) sum.natAbs (p.2 * q.2)
  | none, _ => x
  | _, none => y

/-- A double times a whole number that is first rounded to a double, rounded again. The whole
number must not be past the largest double. -/
def times (x : Binary64) (n : Nat) : Except ContentFault Binary64 :=
  match Binary64.ofInt? n with
  | none => .error .groupTooLarge
  | some y =>
    match x.toQuotient?, y.toQuotient? with
    | some p, some q => .ok (Binary64.ofQuotient false (p.1 * q.1).natAbs (p.2 * q.2))
    | _, _ => .ok (Binary64.infinity false)

/-- The sum of groups of sixty, the last one first. -/
def sumOfSixties : (base : Nat) → Binary64 → List Binary64 → Except ContentFault Binary64
  | _, sum, [] => .ok sum
  | base, sum, x :: rest => do sumOfSixties (base * 60) (add sum (← times x base)) rest

/-- A number in groups of sixty with a point in the last. -/
def sixties? (negative : Bool) (body : Text) : Option (Except ContentFault Binary64) :=
  match splitAt (fun c => c.val == 0x2E) body with
  | (front, some places) =>
    match groups front with
    | first :: second :: more =>
      if isNumeral first && (second :: more).all isSixty && areDigits 10 places then
        let wholes := (first :: second :: more).reverse
        let values := wholes.mapIdx fun i g => pointed false g (if i = 0 then places else []) 0
        some ((sumOfSixties 1 Binary64.zero values).map fun sum =>
          if negative then ⟨sum.bits ||| 0x8000000000000000⟩ else sum)
      else none
    | _ => none
  | _ => none

/-- The double that a plain scalar writes, if it has the form of one. -/
def double? (t : Text) : Option (Except ContentFault Binary64) :=
  let (negative, body) := splitSign t
  let hasSign := body.length != t.length
  if isAmong [".inf", ".Inf", ".INF"] body then some (.ok (Binary64.infinity negative))
  else if isAmong [".nan", ".NaN", ".NAN"] t then some (.ok Binary64.nan)
  else ((decimal? hasSign negative body).map .ok).or (sixties? negative body)

/-! ## Dates and moments -/

/-- A number of so many digits, as many of them as there are. -/
def numberOf? (least most : Nat) (t : Text) : Option (Nat × Text) :=
  let digits := (t.take most).takeWhile fun c => (digit? 10 c).isSome
  if digits.length < least then none
  else some (ofDigits 10 (digits.filterMap (digit? 10)), t.drop digits.length)

/-- What comes after a mark. -/
def after? (mark : String) (t : Text) : Option Text :=
  if startsWith mark t then some (t.drop 1) else none

/-- The microseconds after a point, which may be missing; of more than six digits the first six
count. -/
def microseconds (t : Text) : Nat × Text :=
  match after? "." t with
  | none => (0, t)
  | some places =>
    let digits := places.takeWhile fun c => (digit? 10 c).isSome
    let six := (digits.filterMap (digit? 10) ++ List.replicate 6 0).take 6
    (ofDigits 10 six, places.drop digits.length)

/-- The offset of a clock in minutes, to the end of the scalar; it may be missing. -/
def offset? (t : Text) : Option (Option Int) :=
  match t.dropWhile isBlank with
  | [] => if t.isEmpty then some none else none
  | c :: rest =>
    if c.val = 0x5A then (if rest.isEmpty then some (some 0) else none)
    else if isOneOf "+-" c then do
      let (hours, rest) ← numberOf? 1 2 rest
      let (minutes, rest) ← if rest.isEmpty then some (0, []) else do
        numberOf? 2 2 (← after? ":" rest)
      let span : Int := hours * 60 + minutes
      if rest.isEmpty then some (some (if c.val = 0x2D then -span else span)) else none
    else none

/-- What comes after the letter or the blanks between a date and a time of day. -/
def afterDate? (t : Text) : Option Text :=
  match after? "Tt" t with
  | some rest => some rest
  | none => if startsWith " 	" t then some (t.dropWhile isBlank) else none

/-- The date or moment that a plain scalar writes, if it has the form of one. A date alone has
two digits for month and day. -/
def moment? (t : Text) : Option (Except ContentFault Value) := do
  let (year, rest) ← numberOf? 4 4 t
  let (month, monthRest) ← numberOf? 1 2 (← after? "-" rest)
  let (day, rest) ← numberOf? 1 2 (← after? "-" monthRest)
  if rest.isEmpty then
    if t.length = 10 then some (((Date.of year month day).map .date).mapError .moment) else none
  else
    let (hour, rest) ← numberOf? 1 2 (← afterDate? rest)
    let (minute, rest) ← numberOf? 2 2 (← after? ":" rest)
    let (second, rest) ← numberOf? 2 2 (← after? ":" rest)
    let (part, rest) := microseconds rest
    let offset ← offset? rest
    let found := Moment.of year month day hour minute second part offset
    some ((found.map .moment).mapError .moment)

/-! ## All plain scalars -/

/-- The forms of nothing. -/
def nulls : List String :=
  ["", "~", "null", "Null", "NULL"]

/-- The forms of true. -/
def trues : List String :=
  ["yes", "Yes", "YES", "true", "True", "TRUE", "on", "On", "ON"]

/-- The forms of false. -/
def falses : List String :=
  ["no", "No", "NO", "false", "False", "FALSE", "off", "Off", "OFF"]

/-- The scalar under which a mapping takes over the entries of others. -/
def mergeMark : Text := "<<"

/-- The scalar under which a mapping has a value of its own. -/
def ownMark : Text := "="

/-- The value of a plain scalar. The two marks of mappings have none. -/
def value (t : Text) : Result Value :=
  if t = mergeMark ∨ t = ownMark then .error .malformed
  else if isAmong nulls t then .ok .null
  else if isAmong trues t then .ok (.bool true)
  else if isAmong falses t then .ok (.bool false)
  else
    match whole? t, double? t, moment? t with
    | some i, _, _ => (i.map .int).mapError .content
    | none, some x, _ => (x.map .double).mapError .content
    | none, none, some m => m.mapError .content
    | none, none, none => .ok (.text t)

/-! ## Tagged scalars -/

/-- The value of a scalar that a tag of the standard handle says is of a kind. It must have a form
of that kind; a number without a point may be a double. -/
def taggedValue (kind t : Text) : Result Value :=
  if kind = "str" then .ok (.text t)
  else if kind = "null" then .ok .null
  else
    match value t with
    | .error e => .error e
    | .ok v =>
      match v with
      | .bool _ => if kind = "bool" then .ok v else .error .malformed
      | .int i =>
        if kind = "int" then .ok v
        else if kind = "float" then .ok (.double (Binary64.ofQuotient (decide (i < 0)) i.natAbs 1))
        else .error .malformed
      | .double _ => if kind = "float" then .ok v else .error .malformed
      | .date _ | .moment _ => if kind = "timestamp" then .ok v else .error .malformed
      | _ => .error .malformed

end Scalar

end LineRuns.Document
