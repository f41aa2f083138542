import GradedReading.Html.Node

/-!
# GradedReading.Html.Draft

A page while its tree is being built.

**Key idea:** nodes are numbered in the order of their creation, and each has links to its parent,
to its neighbours and to its first and last child, so that a subtree can be moved in one step. Node
0 is the page itself. When all is in place the links are followed once and the page is read out as
a tree.

Design points:

* when all children of an element move to another, only the outermost two are given the new parent;
  the link of a child in between still names the old one;
* taking a node from its place looks after the neighbours of the node and the ends of the parent
  that it names, so a child in between can take the old parent's only child out of the page.
-/

namespace GradedReading.Html

/-- The number of a node. -/
abbrev NodeId := Nat

/-- The vocabulary that an element belongs to. -/
inductive Space where
  | html
  | svg
  | mathml
deriving DecidableEq, Repr, Inhabited

/-- What a node is, apart from its place. -/
inductive DraftKind where
  | page
  | element (space : Space) (name : String)
  | text (content : String)
  | silent
deriving Repr, Inhabited

/-- A node with its links. -/
structure DraftNode where
  kind : DraftKind
  parent : Option NodeId
  previous : Option NodeId
  next : Option NodeId
  /-- The first and the last child. -/
  ends : Option (NodeId × NodeId)
deriving Repr, Inhabited

/-- A node without links. -/
def DraftNode.ofKind (kind : DraftKind) : DraftNode := ⟨kind, none, none, none, none⟩

/-- All nodes so far. -/
structure Draft where
  nodes : Array DraftNode
deriving Repr, Inhabited

namespace Draft

/-- A page without content. -/
def empty : Draft := ⟨#[.ofKind .page]⟩

/-- The node of a number. -/
def node (d : Draft) (id : NodeId) : DraftNode := d.nodes.getD id (.ofKind .silent)

/-- The name of an element in its vocabulary. -/
def elementName (d : Draft) (id : NodeId) : Option (Space × String) :=
  match (d.node id).kind with
  | .element space name => some (space, name)
  | _ => none

/-- The node holds text. -/
def isText (d : Draft) (id : NodeId) : Bool :=
  match (d.node id).kind with
  | .text _ => true
  | _ => false

/-! ### Changing links -/

/-- A new node without a place. -/
def create (d : Draft) (kind : DraftKind) : Draft × NodeId :=
  (⟨d.nodes.push (.ofKind kind)⟩, d.nodes.size)

/-- Apply `f` to the node of a number. -/
def modify (d : Draft) (id : NodeId) (f : DraftNode → DraftNode) : Draft :=
  ⟨d.nodes.modify id f⟩

/-- Apply `f` to the node of a number, if there is one. -/
def modifyAt (d : Draft) (id? : Option NodeId) (f : DraftNode → DraftNode) : Draft :=
  match id? with
  | some id => d.modify id f
  | none => d

/-- The first and the last child of a parent once the node `id` between `previous` and `next` is
gone. -/
def endsWithout (id : NodeId) (previous next : Option NodeId) :
    Option (NodeId × NodeId) → Option (NodeId × NodeId)
  | none => none
  | some (first, last) =>
    if first = last then none
    else if first = id then some (next.getD last, last)
    else if last = id then some (first, previous.getD first)
    else some (first, last)

/-- Take a node from its place. -/
def detach (d : Draft) (id : NodeId) : Draft :=
  let n := d.node id
  match n.parent with
  | none => d
  | some parent =>
    let d := d.modify id ({ · with parent := none, previous := none, next := none })
    let d := d.modifyAt n.previous ({ · with next := n.next })
    let d := d.modifyAt n.next ({ · with previous := n.previous })
    d.modify parent fun p => { p with ends := endsWithout id n.previous n.next p.ends }

/-- Make a node that has no place the last child of another. -/
def append (d : Draft) (parent id : NodeId) : Draft :=
  let last := (d.node parent).ends.map (·.2)
  let d := d.modify id ({ · with parent := some parent, previous := last })
  let d := d.modifyAt last ({ · with next := some id })
  d.modify parent fun p => { p with ends := some ((p.ends.map (·.1)).getD id, id) }

/-- Put a node that has no place right before another, which has one. -/
def insertBefore (d : Draft) (sibling id : NodeId) : Draft :=
  let s := d.node sibling
  let d := d.modify id ({ · with parent := s.parent, previous := s.previous, next := some sibling })
  let d := d.modifyAt s.previous ({ · with next := some id })
  let d := d.modify sibling ({ · with previous := some id })
  d.modifyAt s.parent fun p =>
    { p with ends := p.ends.map fun (first, last) => (if first = sibling then id else first, last) }

/-- Move all children of a node to the end of another's. The children between the first and the
last keep their link to the old parent. -/
def moveChildren (d : Draft) (source target : NodeId) : Draft :=
  match (d.node source).ends with
  | none => d
  | some (first, last) =>
    let before := (d.node target).ends
    let d := d.modify source ({ · with ends := none })
    let d := d.modify first ({ · with parent := some target })
    let d := d.modify last ({ · with parent := some target })
    match before with
    | none => d.modify target ({ · with ends := some (first, last) })
    | some (oldFirst, oldLast) =>
      let d := d.modify oldLast ({ · with next := some first })
      let d := d.modify first ({ · with previous := some oldLast })
      d.modify target ({ · with ends := some (oldFirst, last) })

/-- Add a character to a text node. -/
def addChar (d : Draft) (id : NodeId) (c : Char) : Draft :=
  d.modify id fun n =>
    match n.kind with
    | .text content => { n with kind := .text (content.push c) }
    | _ => n

/-! ### Reading out -/

/-- An element whose content is being read out. -/
structure Frame where
  id : NodeId
  name : String
  /-- What was read so far, the latest first. -/
  children : List Node

/-- The element with the children that were read. -/
def Frame.toNode (f : Frame) : Node := .element f.name f.children.reverse

/-- Add a child to the innermost element. -/
def addChild (n : Node) : List Frame → List Frame
  | [] => []
  | f :: outer => { f with children := n :: f.children } :: outer

@[simp] theorem length_addChild (n : Node) (frames : List Frame) :
    (addChild n frames).length = frames.length := by
  cases frames <;> rfl

/-- Finish elements from the innermost outwards up to and including `id`. The outermost is never
finished. -/
def finishThrough (id : NodeId) : List Frame → List Frame
  | f :: g :: outer =>
    let rest := addChild f.toNode (g :: outer)
    if f.id = id then rest else finishThrough id rest
  | frames => frames
termination_by frames => frames.length
decreasing_by simp

/-- Finish all elements. -/
def finishAll : List Frame → Node
  | [] => .silent
  | [f] => f.toNode
  | f :: g :: outer => finishAll (addChild f.toNode (g :: outer))
termination_by frames => frames.length
decreasing_by simp

/-- Finish `id` and the elements inside it, if it is being read out. -/
def finish (id : NodeId) (frames : List Frame) : List Frame :=
  if frames.any (·.id = id) then finishThrough id frames else frames

/-- The next thing to do in reading out. -/
inductive Visit where
  | enter (id : NodeId)
  | leave (id : NodeId)

/-- Follow the links: into the first child, on to the next neighbour, back to the parent. No node is
entered or left twice on the way through a page that comes to an end, which bounds `fuel`. -/
def follow (d : Draft) : (fuel : Nat) → Visit → List Frame → List Frame
  | 0, _, frames => frames
  | fuel + 1, .enter id, frames =>
    let n := d.node id
    let frames := match n.kind with
      | .page => ⟨id, "#page", []⟩ :: frames
      | .element _ name => ⟨id, name, []⟩ :: frames
      | .text content => addChild (.text content) frames
      | .silent => addChild .silent frames
    match n.ends with
    | some (first, _) => follow d fuel (.enter first) frames
    | none => follow d fuel (.leave id) frames
  | fuel + 1, .leave id, frames =>
    let frames := finish id frames
    if id = 0 then frames
    else
      match (d.node id).next, (d.node id).parent with
      | some next, _ => follow d fuel (.enter next) frames
      | none, some parent => follow d fuel (.leave parent) frames
      | none, none => frames

/-- Read out the whole page. -/
def toPage (d : Draft) : Node := finishAll (d.follow (2 * d.nodes.size + 2) (.enter 0) [])

end Draft

end GradedReading.Html
