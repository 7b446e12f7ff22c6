import LineRuns.Document.Node
import LineRuns.Document.Scalar

/-!
# Reading documents

A body of text is one document, without content or with a node. It is refused if a control
character is in it or if its tokens do not make one node. Then its nodes are given values. A
mapping may take over the entries of others. Which of several faults counts is settled level by
level: all of a list or mapping before what is inside its members.
-/

namespace LineRuns.Document

/-! ## Entries taken over -/

/-- The entries of a mapping when a merge mark stands among its keys. -/
structure Merged where
  taken : List (Node × Node)
  own : List (Node × Node)

/-- The entries taken over, and then the mapping's own. -/
def Merged.all (m : Merged) : List (Node × Node) :=
  m.taken ++ m.own

/-- Whether a node is a plain scalar of a text. -/
def Node.isPlain (node : Node) (t : Text) : Bool :=
  match node with
  | .plain s => s == t
  | _ => false

mutual

/-- The entries of a mapping without merge marks: what stands under one, a mapping or a list of
mappings, is taken over. -/
def Node.merged : List (Node × Node) → Result Merged
  | [] => .ok ⟨[], []⟩
  | (key, value) :: rest => do
    if key.isPlain Scalar.mergeMark then
      let taken ← value.entriesTaken
      let others ← Node.merged rest
      return { others with taken := taken ++ others.taken }
    else
      let key := if key.isPlain Scalar.ownMark then .text Scalar.ownMark else key
      let others ← Node.merged rest
      return { others with own := (key, value) :: others.own }

/-- The entries that a node under a merge mark gives. -/
def Node.entriesTaken : Node → Result (List (Node × Node))
  | .map entries => (Node.merged entries).map Merged.all
  | .list items => Node.entriesOfAll items
  | _ => .error .malformed

/-- The entries of the mappings of a list, those of later ones first, so that the earlier ones
count. -/
def Node.entriesOfAll : List Node → Result (List (Node × Node))
  | [] => .ok []
  | .map entries :: rest => do
    let first ← Node.merged entries
    let others ← Node.entriesOfAll rest
    return others ++ first.all
  | _ :: _ => .error .malformed

end

/-! ## Values -/

/-- The value of a node within `fuel` levels. Lists and mappings are no keys, and of equal keys
the last counts. -/
def Node.value (fuel : Nat) (node : Node) : Result Value :=
  match fuel with
  | 0 => .error .malformed
  | fuel + 1 =>
    match node with
    | .plain t => Scalar.value t
    | .text t => .ok (.text t)
    | .tagged kind t => Scalar.taggedValue kind t
    | .unknown => .error .malformed
    | .list items => (items.mapM (Node.value fuel)).map .list
    | .map entries => do
      let entries ← Node.merged entries
      let found ← entries.all.foldlM (fun sofar entry => do
        let key ← entry.1.value fuel
        if !key.isKey then .error .malformed
        else return Value.enter key (← entry.2.value fuel) sofar) []
      return .map found

/-! ## The first fault -/

/-- Whether a node is a list or a mapping. -/
def Node.hasMembers : Node → Bool
  | .list _ | .map _ => true
  | _ => false

/-- Fails if a node that has no members has no value. -/
def Node.check (fuel : Nat) (node : Node) : Result Unit :=
  if node.hasMembers then .ok () else (node.value fuel).map fun _ => ()

/-- Checks a list or a mapping as far as it goes without what is inside its members, and gives
those members that have members of their own. Keys are checked throughout. -/
def Node.checkMembers (fuel : Nat) (node : Node) : Result (List Node) := do
  let members ← match node with
    | .list items => do
      items.forM (Node.check fuel)
      pure items
    | .map entries => do
      let entries := (← Node.merged entries).all
      entries.forM fun (key, value) => do
        if (← key.value fuel).isKey then value.check fuel else .error .malformed
      pure (entries.map Prod.snd)
    | _ => pure []
  return members.filter Node.hasMembers

/-- Checks the members of nodes, and then the members of those, level by level. -/
def Node.checkLevels (fuel depth : Nat) (nodes : List Node) : Result Unit :=
  match depth, nodes with
  | 0, _ | _, [] => .ok ()
  | depth + 1, nodes => do
    let members ← nodes.mapM (Node.checkMembers fuel)
    Node.checkLevels fuel depth members.flatten

/-- The value of the root of a document, whose depth is at most `depth`. -/
def Node.rootValue (depth : Nat) (root : Node) : Result Value := do
  root.check depth
  if root.hasMembers then Node.checkLevels depth depth [root]
  root.value depth

/-! ## Documents -/

/-- The code points that a document may hold: tab, line feed, carriage return, and all from the
space on except controls, surrogates and the last two of the first plane. -/
def isAllowed (c : CodePoint) : Bool :=
  c.val == 0x09 || c.val == 0x0A || c.val == 0x0D || (0x20 ≤ c.val && c.val ≤ 0x7E) ||
    c.val == 0x85 || (0xA0 ≤ c.val && c.val ≤ 0xD7FF) || (0xE000 ≤ c.val && c.val ≤ 0xFFFD) ||
    0x10000 ≤ c.val

/-- The value of a document; one without content is nothing. -/
def read (t : Text) : Result Value := do
  if !t.all isAllowed then .error .malformed
  else
    let tokens := tokens t
    match ← rootOf tokens with
    | none => return .null
    | some root => root.rootValue (tokens.length + 1)

end LineRuns.Document
