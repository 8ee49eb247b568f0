import Fulfillment.Http.Path

/-!
# Route trees

The routes of one method are kept in a compressed prefix tree over the characters of their
patterns. A node holds a piece of text; a parameter node holds `:name` and matches the path up
to the next `/`. A node's fixed children are keyed by their first character, and a node has at
most one parameter child, kept after the fixed ones.

Looking a decoded path up walks down the tree, and at every node tries the fixed child keyed by
the next character before the parameter child; a stray byte of the path keys no child, and a
parameter takes the path's pieces, stray bytes included, up to the next `/`. When a fixed branch leads nowhere, the walk goes back to
the most recent node it passed that has a parameter child and whose remaining path ends with
what is left, and goes on from there through the parameter alone.

A failed lookup also says whether the path with its trailing slash dropped, or with one added,
is worth a redirect. That hint is read off the node where the walk stopped, so it is given in
some places where no route would take the other path either (a `/` node under a parameter
always gives it), and withheld in others (a walk that stops in a fixed branch with only `/` left
does not go back to an earlier parameter).
-/

namespace Fulfillment.Http

/-- The parameters a route fills in, in path order. -/
abbrev Params := List (String × PathText)

/-- The value of a parameter, empty when it is not there. -/
def Params.get (ps : Params) (name : String) : PathText :=
  match ps.find? (·.1 == name) with
  | some p => p.2
  | none => []

/-- What a node of a route tree is. -/
inductive NodeKind where
  | root
  | fixed
  | param
  deriving DecidableEq, Inhabited, Repr

/-- A node of a route tree: its text, its kind, whether its last child is a parameter, the keys
of its fixed children (their first characters, in the children's order), its children, and the
target of the route that ends here. -/
structure Node (α : Type) where
  text : List Char
  kind : NodeKind
  wild : Bool
  keys : List Char
  children : List (Node α)
  target : Option α
  deriving Inhabited

namespace Node

variable {α : Type}

/-- The tree with no routes. -/
def empty : Node α := ⟨[], .root, false, [], [], none⟩

/-- The number of nodes of a tree. -/
def count : Node α → Nat
  | ⟨_, _, _, _, children, _⟩ => 1 + (children.attach.map fun ⟨c, _⟩ => count c).foldr (· + ·) 0

/-- The length of the common beginning of two texts. -/
def commonLength : List Char → List Char → Nat
  | a :: as, b :: bs => if a == b then commonLength as bs + 1 else 0
  | _, _ => 0

/-- A pattern cut at its first parameter: the text before it, the parameter, and the rest. -/
def cutAtParam (p : List Char) : Option (List Char × List Char × List Char) :=
  let before := p.takeWhile (· != ':')
  match p.drop before.length with
  | [] => none
  | rest =>
    let name := rest.takeWhile (· != '/')
    some (before, name, rest.drop name.length)

/-- The branch that holds a pattern alone, from a fixed node down. -/
def branch (target : α) : Nat → List Char → Node α
  | 0, p => ⟨p, .fixed, false, [], [], some target⟩
  | fuel + 1, p =>
    match cutAtParam p with
    | none => ⟨p, .fixed, false, [], [], some target⟩
    | some (before, name, rest) =>
      let param : Node α :=
        if rest.isEmpty then ⟨name, .param, false, [], [], some target⟩
        else ⟨name, .param, false, [], [branch target fuel rest], none⟩
      ⟨before, .fixed, true, [], [param], none⟩

/-- A node cut after `i` characters: the first part keeps the node's kind and gets the rest as
its one fixed child. -/
def splitAt (n : Node α) (i : Nat) : Node α :=
  ⟨n.text.take i, n.kind, false, (n.text.drop i).take 1,
    [{ n with text := n.text.drop i, kind := .fixed }], none⟩

/-- A node with one more fixed child, put before its parameter child. -/
def addFixed (n : Node α) (key : Char) (child : Node α) : Node α :=
  { n with
    keys := n.keys ++ [key]
    children := if n.wild then n.children.dropLast ++ [child] ++ n.children.getLast?.toList
      else n.children ++ [child] }

/-- Adds the rest of a pattern with its target at a node: the node is split where the texts
part, and the pattern goes on into the child it shares a first character with, into the
parameter child, or into a new branch. -/
def insert (target : α) : Nat → Node α → List Char → Node α
  | 0, n, _ => n
  | fuel + 1, n, path =>
    let i := commonLength path n.text
    let n := if i < n.text.length then n.splitAt i else n
    match path.drop i with
    | [] => { n with target := some target }
    | c :: more =>
      let rest := c :: more
      if n.kind == .param && c == '/' && n.children.length == 1 then
        { n with children := n.children.map (insert target fuel · rest) }
      else match n.keys.idxOf? c with
        | some k => { n with children := n.children.modify k (insert target fuel · rest) }
        | none =>
          if c != ':' then n.addFixed c (branch target rest.length rest)
          else if n.wild then
            { n with children := n.children.dropLast ++
                (n.children.getLast?.map (insert target fuel · rest)).toList }
          else
            { n with wild := true
                     children := n.children ++ (branch target rest.length rest).children }

/-- The tree of patterns with their targets, added in order. -/
def ofPatterns (routes : List (String × α)) : Node α :=
  routes.foldl (fun t (pattern, target) =>
    let p := pattern.toList
    if t.text.isEmpty && t.children.isEmpty then { branch target p.length p with kind := .root }
    else t.insert target (2 * p.length + 2) p) empty

/-- A node passed on the way down that has a parameter child: the path left when the walk came
to it, and the number of parameters read by then. -/
structure Detour (α : Type) where
  path : PathText
  node : Node α
  params : Nat

/-- What a lookup finds: the target with its parameters, or none and whether the path with its
trailing slash dropped or added is worth a redirect. -/
structure Found (α : Type) where
  target : Option (α × Params)
  slash : Bool

/-- Goes back to the most recent detour whose path ends with `rest`, dropping it and every later
one. -/
def backtrack (rest : PathText) : List (Detour α) → Option (Detour α × List (Detour α))
  | [] => none
  | d :: ds => if rest.isSuffixOf d.path then some (d, ds) else backtrack rest ds

/-- The child key the head of a path asks for: its first character; a stray byte asks for none. -/
def keyOf : PathText → Option Char
  | .char c :: _ => some c
  | _ => none

/-- The slash as a piece of a path. -/
def slashOnly : PathText := [.char '/']

/-- Walks the tree from a node with the path left. A node reached again from a detour is
`bare`: its fixed children are not tried. -/
def walk : Nat → Node α → Bool → PathText → List (Detour α) → Params → Found α
  | 0, _, _, _, _, _ => ⟨none, false⟩
  | fuel + 1, n, bare, path, detours, ps =>
    let keys := if bare then [] else n.keys
    let text : PathText := n.text.map .char
    let resume (rest : PathText) : Option (Found α) :=
      (backtrack rest detours).map fun (d, ds) => walk fuel d.node true d.path ds (ps.take d.params)
    if text.length < path.length && text.isPrefixOf path then
      let rest := path.drop text.length
      match (keyOf rest).bind keys.idxOf? with
      | some k =>
        let detours := if n.wild then ⟨path, n, ps.length⟩ :: detours else detours
        walk fuel (n.children.getD k n) false rest detours ps
      | none =>
        match n.wild, n.children.getLast? with
        | true, some p =>
          let value := rest.takeWhile (· != .char '/')
          let after := rest.drop value.length
          let ps := ps ++ [(String.ofList (p.text.drop 1), value)]
          match after, p.children, p.target with
          | _ :: _, c :: _, _ => walk fuel c false after detours ps
          | _ :: _, [], _ => ⟨none, after.length == 1⟩
          | [], _, some t => ⟨some (t, ps), false⟩
          | [], [c], none =>
            ⟨none, (c.text == ['/'] && c.target.isSome) || (c.text.isEmpty && c.keys == ['/'])⟩
          | [], _, none => ⟨none, false⟩
        | _, _ =>
          let back := if rest == slashOnly then none else resume rest
          back.getD ⟨none, rest == slashOnly && n.target.isSome⟩
    else if path == text then
      let back := if n.target.isNone && path != slashOnly then resume path else none
      match back, n.target with
      | some r, _ => r
      | none, some t => ⟨some (t, ps), false⟩
      | none, none =>
        if path == slashOnly && n.wild && n.kind != .root then ⟨none, true⟩
        else if path == slashOnly && n.kind == .fixed then ⟨none, true⟩
        else match keys.idxOf? '/' with
          | some k =>
            let c := n.children.getD k n
            ⟨none, c.text.length == 1 && c.target.isSome⟩
          | none => ⟨none, false⟩
    else
      let hint := path == slashOnly || (text == path ++ slashOnly && n.target.isSome)
      if !hint && path != slashOnly then (resume path).getD ⟨none, hint⟩ else ⟨none, hint⟩

/-- Looks a path up. The walk enters every node at most once on the way down and once more
from a detour, so twice the number of nodes bounds its steps. -/
def find (t : Node α) (path : PathText) : Found α :=
  walk (2 * t.count + 2) t false path [] []

end Node

end Fulfillment.Http
