import LineRuns.Document.Moment
import LineRuns.Number.Decimal
import LineRuns.Text.Octets

/-!
# Values of documents

What a settings document can hold: nothing, truth values, whole numbers of any size, doubles,
texts, dates, moments, lists and mappings. Where numbers and truth values are keys, they are
compared as numbers: one and true are the same key.
-/

namespace LineRuns.Document

open Number (Binary64)

/-- A value; the entries of a mapping keep the order of their keys' first appearance. -/
inductive Value
  | null
  | bool (b : Bool)
  | int (i : Int)
  | double (x : Binary64)
  | text (t : Text)
  | date (d : Date)
  | moment (m : Moment)
  | list (items : List Value)
  | map (entries : List (Value × Value))
  deriving Repr

namespace Value

/-- The name of a value's kind. -/
def kind : Value → String
  | null => "NoneType"
  | bool _ => "bool"
  | int _ => "int"
  | double _ => "float"
  | text _ => "str"
  | date _ => "date"
  | moment _ => "datetime"
  | list _ => "list"
  | map _ => "dict"

/-- The name of a value's kind with the family that it belongs to. -/
def fullKind : Value → String
  | date _ => "datetime.date"
  | moment _ => "datetime.datetime"
  | v => v.kind

/-- Nothing, zero and whatever is empty count as false. -/
def isTrue : Value → Bool
  | null => false
  | bool b => b
  | int i => i != 0
  | double x => !x.isZero
  | text t => !t.isEmpty
  | date _ | moment _ => true
  | list items => !items.isEmpty
  | map entries => !entries.isEmpty

/-! ## Values in words -/

mutual

/-- A value in words; texts are quoted. -/
def description : Value → Text
  | null => "None"
  | bool true => "True"
  | bool false => "False"
  | int i => Text.ofInt i
  | double x => x.shown
  | text t => Text.quoted t
  | date d => d.description
  | moment m => m.description
  | list items => "[" ++ Text.join ", " (descriptions items) ++ "]"
  | map entries => "\x7b" ++ Text.join ", " (entryDescriptions entries) ++ "\x7d"

/-- Values in words, one by one. -/
def descriptions : List Value → List Text
  | [] => []
  | v :: rest => description v :: descriptions rest

/-- Entries in words, one by one. -/
def entryDescriptions : List (Value × Value) → List Text
  | [] => []
  | (k, v) :: rest => (description k ++ ": " ++ description v) :: entryDescriptions rest

end

/-- A value as a title: like its description, but a text, a date or a moment is itself. -/
def title : Value → Text
  | text t => t
  | date d => d.text
  | moment m => m.text
  | v => description v

mutual

/-- Whether a value can be put in words: no whole number in it has too many digits. -/
def isDescribable : Value → Bool
  | int i => i.natAbs < Nat.pow 10 Number.digitLimit
  | list items => areDescribable items
  | map entries => entriesAreDescribable entries
  | _ => true

/-- Whether all values can be put in words. -/
def areDescribable : List Value → Bool
  | [] => true
  | v :: rest => isDescribable v && areDescribable rest

/-- Whether all entries can be put in words. -/
def entriesAreDescribable : List (Value × Value) → Bool
  | [] => true
  | (k, v) :: rest => isDescribable k && isDescribable v && entriesAreDescribable rest

end

/-! ## Keys -/

/-- Where a number stands among all numbers: below or above all others, at a quotient, or, if it
is no number, nowhere. -/
inductive Rank
  | nowhere
  | below
  | exactly (num : Int) (den : Nat)
  | above
  deriving DecidableEq, Repr

/-- Whether one rank is less than another. -/
def Rank.isLess : Rank → Rank → Bool
  | nowhere, _ | _, nowhere => false
  | exactly n d, exactly m e => n * e < m * d
  | below, below | above, _ | _, below => false
  | below, _ | _, above => true

/-- Whether two ranks are the same. -/
def Rank.isSame : Rank → Rank → Bool
  | exactly n d, exactly m e => n * e == m * d
  | p, q => p == q

/-- The rank of a value that counts as a number. -/
def rank? : Value → Option Rank
  | bool b => some (.exactly (if b then 1 else 0) 1)
  | int i => some (.exactly i 1)
  | double x =>
    match x.parts, x.toQuotient? with
    | .infinite negative, _ => some (if negative then .below else .above)
    | _, some (num, den) => some (.exactly num den)
    | _, none => some .nowhere
  | _ => none

/-- Whether two values are the same key. Lists and mappings are no keys. -/
def sameKey (a b : Value) : Bool :=
  match a, b with
  | null, null => true
  | text s, text t => s == t
  | date d, date e => d == e
  | moment m, moment n => m.isSame n
  | _, _ =>
    match a.rank?, b.rank? with
    | some p, some q => p.isSame q
    | _, _ => false

/-- Whether a value can be a key. -/
def isKey : Value → Bool
  | list _ | map _ => false
  | _ => true

/-- Enters a value under a key: at the place of the same key, or at the end. -/
def enter (key value : Value) : List (Value × Value) → List (Value × Value)
  | [] => [(key, value)]
  | (k, v) :: rest => if k.sameKey key then (k, value) :: rest else (k, v) :: enter key value rest

end Value

end LineRuns.Document
