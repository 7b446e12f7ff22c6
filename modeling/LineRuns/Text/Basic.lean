/-!
# Texts as lists of code points

What a text is, and how a body of text falls into lines.
-/

namespace LineRuns

/-! ## Code points and texts

A text here is a list of code points, not a `String`: a line that comes from a sixteen-bit
interface may hold surrogate code points, alone or side by side, and they are characters like
any other. Two surrogates that look like a pair stay two characters of the text, although
their code units are those of one astral character (`LineRuns.Text.Units`).
-/

/-- A code point is any number of the code space; surrogates are code points too. -/
abbrev CodePoint := Fin 0x110000

/-- There are code points, so that numerals stand for them; the zero is that of the numerals. -/
instance CodePoint.instNeZero : @NeZero Nat Zero.ofOfNat0 0x110000 :=
  ⟨by decide⟩

/-- A text is the list of its code points, in order. -/
abbrev Text := List CodePoint

namespace CodePoint

/-- The code point of a scalar value. -/
def ofChar (c : Char) : CodePoint :=
  ⟨c.toNat, by
    have h := c.valid
    simp only [UInt32.isValidChar, Nat.isValidChar] at h
    simp only [Char.toNat]
    omega⟩

/-- Numbers outside the code space name no code point. -/
def ofNat? (n : Nat) : Option CodePoint :=
  if h : n < 0x110000 then some ⟨n, h⟩ else none

/-- The surrogates are the code points from U+D800 to U+DFFF. -/
def isSurrogate (c : CodePoint) : Bool :=
  0xD800 ≤ c.val && c.val ≤ 0xDFFF

/-- Lead surrogates are the lower half of the surrogates, U+D800 to U+DBFF. -/
def isLead (c : CodePoint) : Bool :=
  0xD800 ≤ c.val && c.val ≤ 0xDBFF

/-- Trail surrogates are the upper half of the surrogates, U+DC00 to U+DFFF. -/
def isTrail (c : CodePoint) : Bool :=
  0xDC00 ≤ c.val && c.val ≤ 0xDFFF

/-- The number of sixteen-bit units that a code point takes: two above U+FFFF, else one. -/
def width (c : CodePoint) : Nat :=
  if c.val > 0xFFFF then 2 else 1

theorem width_pos (c : CodePoint) : 0 < c.width := by
  unfold width; split <;> omega

end CodePoint

namespace Text

/-- The text of a `String`, which has scalar values only. -/
def ofString (s : String) : Text :=
  s.toList.map CodePoint.ofChar

instance : Coe String Text := ⟨ofString⟩

/-- The number of units of a text is the sum of the widths of its code points. -/
def width (t : Text) : Nat :=
  t.foldr (fun c n => c.width + n) 0

@[simp] theorem width_nil : width [] = 0 := rfl

@[simp] theorem width_cons (c : CodePoint) (t : Text) : width (c :: t) = c.width + width t :=
  rfl

@[simp] theorem width_append (s t : Text) : width (s ++ t) = width s + width t := by
  induction s with
  | nil => simp
  | cons c s ih =>
    rw [List.cons_append, width_cons, width_cons, ih, Nat.add_assoc]

/-- Only the empty text takes no units. -/
theorem width_pos_iff {t : Text} : 0 < width t ↔ t ≠ [] := by
  cases t with
  | nil => simp
  | cons c t =>
    have hc := c.width_pos
    simp only [width_cons, ne_eq, reduceCtorEq, not_false_eq_true, iff_true]
    omega

/-- A number in decimal digits. -/
def ofNat (n : Nat) : Text :=
  (Nat.toDigits 10 n).map CodePoint.ofChar

/-- An integer in decimal digits, after a minus sign if it is negative. -/
def ofInt : Int → Text
  | .ofNat n => ofNat n
  | .negSucc n => ofString "-" ++ ofNat (n + 1)

/-- Texts joined with a text between neighbours. -/
def join (separator : Text) : List Text → Text
  | [] => []
  | [t] => t
  | t :: rest => t ++ separator ++ join separator rest

/-- The order of texts is by code point, a proper beginning first. -/
def isBefore : Text → Text → Bool
  | [], [] => false
  | [], _ :: _ => true
  | _ :: _, [] => false
  | a :: s, b :: t => a < b || (a == b && isBefore s t)

/-! ## Lines of a text

A body of text is first freed of carriage returns, which end a line alone or together with a
line feed (`withLineFeeds`), and then split after each line boundary (`lines`). Boundaries are
more than line feeds: vertical tab, form feed, the three upper separators of the controls, next
line, and the line and paragraph separators end a line too.
-/

/-- Carriage returns become line feeds; one right before a line feed vanishes. -/
def withLineFeeds : Text → Text
  | [] => []
  | c :: rest =>
    if c.val = 0x0D then
      match rest with
      | d :: after =>
        if d.val = 0x0A then 0x0A :: withLineFeeds after else 0x0A :: withLineFeeds (d :: after)
      | [] => [0x0A]
    else c :: withLineFeeds rest

/-- The code points that end a line in a body without carriage returns. -/
def isBoundary (c : CodePoint) : Bool :=
  (0x0A ≤ c.val && c.val ≤ 0x0C) || (0x1C ≤ c.val && c.val ≤ 0x1E) || c.val = 0x85 ||
    c.val = 0x2028 || c.val = 0x2029

/-- The lines between boundaries; nothing after the last boundary is no line. -/
def lines : Text → List Text
  | [] => []
  | c :: rest =>
    if isBoundary c then [] :: lines rest
    else
      match lines rest with
      | [] => [[c]]
      | line :: more => (c :: line) :: more

/-- The blank code points: controls that move, the upper separators, and all spaces. -/
def isBlank (c : CodePoint) : Bool :=
  (0x09 ≤ c.val && c.val ≤ 0x0D) || (0x1C ≤ c.val && c.val ≤ 0x20) || c.val = 0x85 ||
    c.val = 0xA0 || c.val = 0x1680 || (0x2000 ≤ c.val && c.val ≤ 0x200A) || c.val = 0x2028 ||
    c.val = 0x2029 || c.val = 0x202F || c.val = 0x205F || c.val = 0x3000

/-- A text without its blanks at both ends. -/
def trimmed (t : Text) : Text :=
  ((t.dropWhile isBlank).reverse.dropWhile isBlank).reverse

end Text

end LineRuns
