import LineRuns.Bidi.Embedding

/-!
# Stretches of one level and their classes

How retained characters fall into stretches of one level, and what the classes in a stretch become:
first the weak ones, then the neutral ones.
-/

namespace LineRuns.Bidi

/-! ## Stretches of one level

The retained characters fall into maximal stretches of one level. A stretch starts and ends
with a side: that of the higher of the two levels which meet there, with the base level before
the first stretch and after the last.
-/

open Unicode (BidiClass)

/-- Characters of one level, with the sides where they start and end. -/
structure Stretch where
  level : Nat
  classes : List BidiClass
  sor : Side
  eor : Side
  deriving DecidableEq, Repr

/-- Neighbours of equal level, taken together as far as they go. -/
def levelBlocks : List Cell → List (Nat × List BidiClass)
  | [] => []
  | c :: rest =>
    match levelBlocks rest with
    | [] => [(c.level, [c.cls])]
    | (level, classes) :: more =>
      if c.level = level then (level, c.cls :: classes) :: more
      else (c.level, [c.cls]) :: (level, classes) :: more

/-- Blocks with their sides, where `before` is the level in front of the first. -/
def withSides (base : Nat) : (before : Nat) → List (Nat × List BidiClass) → List Stretch
  | _, [] => []
  | before, [(level, classes)] =>
    [⟨level, classes, Side.between before level, Side.between level base⟩]
  | before, (level, classes) :: (next, others) :: more =>
    ⟨level, classes, Side.between before level, Side.between level next⟩ ::
      withSides base level ((next, others) :: more)

/-- The stretches of the retained characters. -/
def stretches (base : Nat) (cells : List Cell) : List Stretch :=
  withSides base base (levelBlocks cells)

/-- The characters of a stretch, each at its level. -/
def Stretch.cells (s : Stretch) : List Cell :=
  s.classes.map (⟨·, s.level⟩)

@[simp] theorem Stretch.length_cells (s : Stretch) : s.cells.length = s.classes.length := by
  simp [cells]

@[simp] theorem Stretch.map_cls_cells (s : Stretch) : s.cells.map Cell.cls = s.classes := by
  simp [cells, Function.comp_def]

/-- A stretch by its place among the retained characters. -/
structure LevelRun where
  start : Nat
  length : Nat
  sor : Side
  eor : Side
  deriving DecidableEq, Repr

/-- The places of consecutive stretches, the first of which starts at `start`. -/
def LevelRun.ofStretches (start : Nat) : List Stretch → List LevelRun
  | [] => []
  | s :: rest =>
    ⟨start, s.classes.length, s.sor, s.eor⟩ :: ofStretches (start + s.classes.length) rest

/-! ## Weak classes

Within a stretch, marks, numbers, separators and terminators take their classes from what stands
around them. The rules are passes over the classes of the stretch and run in the order of
`resolveWeak`; each pass sees what the passes before it left.
-/

open Unicode (BidiClass)

/-- Marks take the class before them, and European digits after an Arabic letter become Arabic
digits. `previous` is the class before, as it is now, and `strong` the last strong class. -/
def attachMarks (previous strong : BidiClass) : List BidiClass → List BidiClass
  | [] => []
  | cls :: rest =>
    -- the class before is already attached, so marks in a row all take one class
    let attached := if cls = .NSM then previous else cls
    let now := if attached = .EN ∧ strong = .AL then .AN else attached
    let strong' := if now = .R ∨ now = .L ∨ now = .AL then now else strong
    now :: attachMarks now strong' rest

@[simp] theorem length_attachMarks (previous strong : BidiClass) (classes : List BidiClass) :
    (attachMarks previous strong classes).length = classes.length := by
  induction classes generalizing previous strong with
  | nil => rfl
  | cons cls rest ih => simp [attachMarks, ih]

/-- Arabic letters are from now on right-to-left like any other. -/
def plainLetter (cls : BidiClass) : BidiClass :=
  if cls = .AL then .R else cls

/-- A single separator between two numbers of one kind joins them: a European separator only
European digits, a common one either kind. `previous` is the class before, as it is now. -/
def joinNumbers (previous : BidiClass) : List BidiClass → List BidiClass
  | [] => []
  | [cls] => [cls]
  | cls :: next :: rest =>
    let now :=
      if cls = .ES ∧ previous = .EN ∧ next = .EN then .EN
      -- the next class is looked at as it was
      else if cls = .CS ∧ previous = next ∧ (next = .EN ∨ next = .AN) then next
      else cls
    now :: joinNumbers now (next :: rest)

@[simp] theorem length_joinNumbers (previous : BidiClass) (classes : List BidiClass) :
    (joinNumbers previous classes).length = classes.length := by
  induction classes generalizing previous with
  | nil => rfl
  | cons cls rest ih => cases rest <;> simp_all [joinNumbers]

/-- The first class of a stretch has nothing before it and stays. -/
def joinInside : List BidiClass → List BidiClass
  | [] => []
  | cls :: rest => cls :: joinNumbers cls rest

@[simp] theorem length_joinInside (classes : List BidiClass) :
    (joinInside classes).length = classes.length := by
  cases classes <;> simp [joinInside]

/-- Terminators after a European digit belong to the number. -/
def terminatorsAfter (previous : BidiClass) : List BidiClass → List BidiClass
  | [] => []
  | cls :: rest =>
    let now := if cls = .ET ∧ previous = .EN then .EN else cls
    now :: terminatorsAfter now rest

@[simp] theorem length_terminatorsAfter (previous : BidiClass) (classes : List BidiClass) :
    (terminatorsAfter previous classes).length = classes.length := by
  induction classes generalizing previous with
  | nil => rfl
  | cons cls rest ih => simp [terminatorsAfter, ih]

/-- Terminators before a European digit belong to the number. -/
def terminatorsBefore : List BidiClass → List BidiClass
  | [] => []
  | cls :: rest =>
    let done := terminatorsBefore rest
    (if cls = .ET ∧ done.head? = some .EN then .EN else cls) :: done

@[simp] theorem length_terminatorsBefore (classes : List BidiClass) :
    (terminatorsBefore classes).length = classes.length := by
  induction classes with
  | nil => rfl
  | cons cls rest ih => simp [terminatorsBefore, ih]

/-- Separators and terminators that joined no number are neutral. -/
def plainMark (cls : BidiClass) : BidiClass :=
  if cls = .ET ∨ cls = .ES ∨ cls = .CS then .ON else cls

/-- European digits whose last strong class is left are left-to-right like letters. -/
def leftNumbers (strong : BidiClass) : List BidiClass → List BidiClass
  | [] => []
  | cls :: rest =>
    let now := if cls = .EN ∧ strong = .L then .L else cls
    let strong' := if now = .L ∨ now = .R then now else strong
    now :: leftNumbers strong' rest

@[simp] theorem length_leftNumbers (strong : BidiClass) (classes : List BidiClass) :
    (leftNumbers strong classes).length = classes.length := by
  induction classes generalizing strong with
  | nil => rfl
  | cons cls rest ih => simp [leftNumbers, ih]

/-- All passes over the classes of a stretch that starts at the side `sor`. -/
def resolveWeak (sor : Side) (classes : List BidiClass) : List BidiClass :=
  let marked := (attachMarks sor.toClass sor.toClass classes).map plainLetter
  let joined := terminatorsBefore (terminatorsAfter .ON (joinInside marked))
  leftNumbers sor.toClass (joined.map plainMark)

@[simp] theorem length_resolveWeak (sor : Side) (classes : List BidiClass) :
    (resolveWeak sor classes).length = classes.length := by
  simp [resolveWeak]

/-- A stretch with its weak classes resolved. -/
def Stretch.weak (s : Stretch) : Stretch :=
  { s with classes := resolveWeak s.sor s.classes }

/-! ## Neutral classes

A maximal sequence of neutrals lies between two sides: those of the nearest characters, where
numbers count as right-to-left, or those of the stretch. Between equal sides it joins them, and
between different ones it takes the side of its level. A character without a class is a side
like any other, so neutrals between two of them end up without a class too.
-/

open Unicode (BidiClass)

/-- The neutral classes: separators of paragraphs and segments, blanks, and other neutrals. -/
def isNeutral (cls : BidiClass) : Bool :=
  cls == .B || cls == .S || cls == .WS || cls == .ON

/-- What a character that is not neutral is to the neutrals beside it. -/
def asSide (cls : BidiClass) : BidiClass :=
  if cls = .EN ∨ cls = .AN then .R else cls

/-- The cells with neutrals resolved, and the side that they show to the left. `left` is the side
before them and `eor` the one after them. -/
def neutralsFrom (eor : BidiClass) : (left : BidiClass) → List Cell → List Cell × BidiClass
  | _, [] => ([], eor)
  | left, c :: rest =>
    if isNeutral c.cls then
      let (done, right) := neutralsFrom eor left rest
      let own := (Side.ofLevel c.level).toClass
      ({ c with cls := if left = right then left else own } :: done, right)
    else
      (c :: (neutralsFrom eor (asSide c.cls) rest).1, asSide c.cls)

theorem map_level_neutralsFrom (eor left : BidiClass) (cells : List Cell) :
    (neutralsFrom eor left cells).1.map Cell.level = cells.map Cell.level := by
  induction cells generalizing left with
  | nil => rfl
  | cons c rest ih =>
    rw [neutralsFrom]
    split <;> simp [ih]

/-- The cells between two sides with neutrals resolved. -/
def resolveNeutral (sor eor : Side) (cells : List Cell) : List Cell :=
  (neutralsFrom eor.toClass sor.toClass cells).1

@[simp] theorem map_level_resolveNeutral (sor eor : Side) (cells : List Cell) :
    (resolveNeutral sor eor cells).map Cell.level = cells.map Cell.level :=
  map_level_neutralsFrom _ _ _

@[simp] theorem length_resolveNeutral (sor eor : Side) (cells : List Cell) :
    (resolveNeutral sor eor cells).length = cells.length := by
  rw [← List.length_map Cell.level, map_level_resolveNeutral, List.length_map]

/-- A stretch with its neutral classes resolved. -/
def Stretch.neutral (s : Stretch) : Stretch :=
  { s with classes := (resolveNeutral s.sor s.eor s.cells).map Cell.cls }

end LineRuns.Bidi
