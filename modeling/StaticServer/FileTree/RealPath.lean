import StaticServer.FileTree.Walk

/-!
# Real paths

The real path of a place has no links in it. Parts that do not exist are taken as they are,
so there is always a real path, with one exception: the character NUL. A link at a place that is
too long to be looked at is taken as it is, too.

Links are followed one inside another; each is entered once, and the place it led to is
remembered. A link that is met again while it is still being followed closes a loop: what is
left of the path is then appended as it stands and put into lexical normal form.
-/

namespace StaticServer.FileTree

/-- The target of the link at a place that can be looked at: one whose text is not too long. -/
def visibleLink? (t : FileTree) (p : Path) : Option Text :=
  if Path.textLimit ≤ Text.Utf8.size (Path.text p) then none else t.linkTarget? p

/-- A link is seen if the text of its place is not too long. -/
theorem visibleLink?_eq_some_iff {t : FileTree} {p : Path} {target : Text} :
    t.visibleLink? p = some target ↔
      Text.Utf8.size (Path.text p) < Path.textLimit ∧ t.linkTarget? p = some target := by
  rw [visibleLink?, Option.ite_none_left_eq_some, Nat.not_le]

theorem mem_links_of_visibleLink? {t : FileTree} {p : Path} {target : Text}
    (h : t.visibleLink? p = some target) : p ∈ t.links :=
  mem_links_of_linkTarget? (visibleLink?_eq_some_iff.1 h).2

@[simp] theorem visibleLink?_nil (t : FileTree) : t.visibleLink? [] = none := by
  rw [visibleLink?, if_neg (by decide)]
  rfl

/-- The links met so far, with the place each led to once it has been followed to its end. -/
abbrev LinkMemo := List (Path × Option Path)

/-- Where following parts ends. -/
inductive Reached where
  /-- All parts were followed. -/
  | place (p : Path) (memo : LinkMemo)
  /-- A loop was met; these are the parts that remain, from the root. -/
  | loop (parts : List Text)

/-- The parts of a place with more parts behind it; parts that start with a slash replace the
place. -/
def appendParts (p : Path) : List Text → List Text
  | [] :: part :: rest => part :: rest
  | rest => p ++ rest

/-- Follows parts from a place; `follow` follows the target of a link. -/
def realWith (t : FileTree) (follow : Path → List Text → LinkMemo → Except Fault Reached) :
    Path → List Text → LinkMemo → Except Fault Reached
  | here, [], memo => .ok (.place here memo)
  | here, part :: rest, memo =>
    if Path.isStay part then t.realWith follow here rest memo
    else if part = Path.up then t.realWith follow here.dropLast rest memo
    else if part.contains '\x00' then .error .nulCharacter
    else match t.visibleLink? (here ++ [part]) with
      | none => t.realWith follow (here ++ [part]) rest memo
      | some target =>
        match memo.lookup (here ++ [part]) with
        | some (some p) => t.realWith follow p rest memo
        | some none => .ok (.loop (appendParts (here ++ [part]) rest))
        | none =>
          match follow (if Path.isAbsolute target then [] else here) (Path.parts target)
              ((here ++ [part], none) :: memo) with
          | .error f => .error f
          | .ok (.place p memo) => t.realWith follow p rest ((here ++ [part], some p) :: memo)
          | .ok (.loop parts) => .ok (.loop (appendParts parts rest))

/-- Follows parts from a place, entering links inside links to a limited depth. -/
def realFrom (t : FileTree) : Nat → Path → List Text → LinkMemo → Except Fault Reached
  | 0 => t.realWith fun p parts _ ↦ .ok (.loop (p ++ parts))
  | depth + 1 => t.realWith (t.realFrom depth)

/-- The real path of what parts lead to from the root. No link is entered twice, so the
number of links bounds the depth. -/
def realPath (t : FileTree) (parts : List Text) : Except Fault Path :=
  match t.realFrom t.linkCount [] parts [] with
  | .error f => .error f
  | .ok (.place p _) => .ok p
  | .ok (.loop parts) => .ok (Path.normalize parts)

/-- The real path of what a text leads to. -/
def realPathOf (t : FileTree) (text : Text) : Except Fault Path :=
  t.realPath (t.start text ++ Path.parts text)

end StaticServer.FileTree
