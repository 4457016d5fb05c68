import MoquiLint.Yaml.Scanner
import MoquiLint.Yaml.Value
import MoquiLint.Text.Edit

/-! The tree of a document. An alias stands for the node that was last given its name; it is kept as
a reference, since it may stand inside the very node it refers to. -/
namespace MoquiLint.Yaml

/-- A node with its tag, the line it starts on counted from one, and its content. -/
inductive Node where
  | scalar (tag : String) (line : Nat) (value : String)
  | sequence (tag : String) (line : Nat) (items : List Node)
  | mapping (tag : String) (line : Nat) (pairs : List (Node × Node))
  /-- A reference to an anchored node; `place` tells one reference from another. -/
  | alias (line : Nat) (name : String) (target : Nat) (place : Nat)
  deriving Repr, Inhabited

abbrev Anchors := List (Nat × Node)

/-- The state of building a tree: the scanner, the known tag handles, the anchors by name, and the
anchored nodes that are complete. -/
structure Builder where
  scanner : Scanner
  handles : List (String × String) := []
  names : List (String × Nat) := []
  anchors : Anchors := []
  deriving Repr

abbrev Build := StateT Builder (Except Fault)

namespace Build

def peek : Build Token := do
  let b ← get
  let (t, s) ← b.scanner.peek
  set { b with scanner := s }
  return t

def next : Build Unit := modify fun b => { b with scanner := b.scanner.drop }

/-- Ends a step of the structure: a fault that was met while looking ahead ends the building here. -/
def settle : Build Unit := do
  let c := (← get).scanner.cursor
  match c.failed, c.broken with
  | true, some b => throw ⟨.reading, b.problem, {}, {}⟩
  | _, _ => return

def fault {α : Type} (problem : Problem) (place : Mark) (context : Mark := {}) : Build α :=
  throw ⟨.parsing, problem, context, place⟩

end Build

open Build

def coreTag : String := "tag:yaml.org,2002:"

def shortTag (tag : String) : String :=
  if Str.startsWith tag coreTag then "!!" ++ String.ofList (tag.toList.drop coreTag.length) else tag

def standardHandles : List (String × String) := [("!", "!"), ("!!", coreTag)]

structure Properties where
  tag : String := ""
  anchor : Option String := none
  start : Mark
  deriving Repr

def fullTag (start place : Mark) (handle suffix : String) : Build String := do
  if handle == "" then return suffix
  else
    match (← get).handles.lookup handle with
    | some uri => return uri ++ suffix
    | none => fault .undefinedHandle place start

def properties : Build Properties := do
  let t ← peek
  match t.kind with
  | .anchor name =>
    next
    let u ← peek
    match u.kind with
    | .tag handle suffix =>
      next
      let _ ← peek
      return { tag := ← fullTag t.start u.start handle suffix, anchor := some name, start := t.start }
    | _ => return { anchor := some name, start := t.start }
  | .tag handle suffix =>
    next
    let u ← peek
    match u.kind with
    | .anchor name =>
      next
      let _ ← peek
      return { tag := ← fullTag t.start t.start handle suffix, anchor := some name, start := t.start }
    | _ => return { tag := ← fullTag t.start t.start handle suffix, start := t.start }
  | _ => return { start := t.start }

def tagOr (given usual : String) : String :=
  if given == "" || given == "!" then usual else shortTag given

def mergeTag : String := "!!merge"

def scalarTag (text : String) : ScalarStyle → String
  | .plain => if text == "<<" then mergeTag else (Value.ofPlain text).tag
  | .quoted => "!!str"

def empty (mark : Mark) : Build Node := do
  settle
  return .scalar "!!null" (mark.line + 1) ""

def declare (anchor : Option String) : Build (Option Nat) := do
  settle
  match anchor with
  | none => return none
  | some name =>
    let b ← get
    let n := b.names.length
    set { b with names := (name, n) :: b.names }
    return some n

def keep (number : Option Nat) (node : Node) : Build Node := do
  match number with
  | none => return node
  | some n => modifyGet fun b => (node, { b with anchors := (n, node) :: b.anchors })

def reference (t : Token) (name : String) : Build Node := do
  next
  settle
  let b ← get
  match b.names.lookup name with
  | some n => return .alias (t.start.line + 1) name n t.start.index
  | none => throw ⟨.composing, .unknownAnchor name, {}, {}⟩

mutual

/-- A node. In a block its content may be a block; `bare` allows a sequence that is not indented. -/
def node : Nat → (block bare : Bool) → Build Node
  | 0, _, _ => fault .noContent {}
  | fuel + 1, block, bare => do
    let t ← peek
    match t.kind with
    | .alias name => reference t name
    | _ =>
      let p ← properties
      let t ← peek
      let line := p.start.line + 1
      match t.kind with
      | .scalar text style =>
        next
        keep (← declare p.anchor) (.scalar (tagOr p.tag (scalarTag text style)) line text)
      | .flowSequence =>
        let n ← declare p.anchor
        next
        keep n (.sequence (tagOr p.tag "!!seq") line (← flowItems fuel t.start true))
      | .flowMapping =>
        let n ← declare p.anchor
        next
        keep n (.mapping (tagOr p.tag "!!map") line (← flowPairs fuel t.start true))
      | kind =>
        if bare && kind == .blockEntry then
          let n ← declare p.anchor
          keep n (.sequence (tagOr p.tag "!!seq") line (← bareItems fuel))
        else if block && kind == .blockSequence then
          let n ← declare p.anchor
          next
          keep n (.sequence (tagOr p.tag "!!seq") line (← blockItems fuel t.start))
        else if block && kind == .blockMapping then
          let n ← declare p.anchor
          next
          keep n (.mapping (tagOr p.tag "!!map") line (← blockPairs fuel t.start))
        else if p.anchor.isSome || p.tag != "" then
          keep (← declare p.anchor) (.scalar (tagOr p.tag "!!null") line "")
        else fault .noContent t.start p.start

def blockItems : Nat → Mark → Build (List Node)
  | 0, _ => fault .noContent {}
  | fuel + 1, start => do
    let t ← peek
    match t.kind with
    | .blockEntry =>
      next
      let u ← peek
      let item ←
        if u.kind == .blockEntry || u.kind == .blockEnd then empty t.stop
        else node fuel true false
      return item :: (← blockItems fuel start)
    | .blockEnd =>
      next
      settle
      return []
    | _ => fault .noDash t.start start

/-- The entries of a sequence that is indented no further than the mapping around it. -/
def bareItems : Nat → Build (List Node)
  | 0 => fault .noContent {}
  | fuel + 1 => do
    let t ← peek
    match t.kind with
    | .blockEntry =>
      next
      let u ← peek
      let item ←
        if u.kind == .blockEntry || u.kind == .key || u.kind == .value || u.kind == .blockEnd then
          empty t.stop
        else node fuel true false
      return item :: (← bareItems fuel)
    | _ =>
      settle
      return []

def blockPairs : Nat → Mark → Build (List (Node × Node))
  | 0, _ => fault .noContent {}
  | fuel + 1, start => do
    let t ← peek
    match t.kind with
    | .key =>
      next
      let u ← peek
      let k ←
        if u.kind == .key || u.kind == .value || u.kind == .blockEnd then empty t.stop
        else node fuel true true
      let v ← blockValue fuel
      return (k, v) :: (← blockPairs fuel start)
    | .blockEnd =>
      next
      settle
      return []
    | _ => fault .noKey t.start start

def blockValue : Nat → Build Node
  | 0 => fault .noContent {}
  | fuel + 1 => do
    let t ← peek
    if t.kind == .value then
      next
      let u ← peek
      if u.kind == .key || u.kind == .value || u.kind == .blockEnd then empty t.stop
      else node fuel true true
    else empty t.start

def flowItems : Nat → Mark → (first : Bool) → Build (List Node)
  | 0, _, _ => fault .noContent {}
  | fuel + 1, start, first => do
    let t ← peek
    if t.kind == .flowSequenceEnd then
      next
      settle
      return []
    else
      let t ←
        if first then pure t
        else if t.kind == .flowEntry then
          next
          peek
        else fault .noCommaOrBracket t.start start
      match t.kind with
      | .key =>
        next
        settle
        let k ← flowKey fuel
        let v ← flowValue fuel .flowSequenceEnd
        let pair := Node.mapping "!!map" (t.start.line + 1) [(k, v)]
        return pair :: (← flowItems fuel start false)
      | .flowSequenceEnd =>
        next
        settle
        return []
      | _ =>
        let item ← node fuel false false
        return item :: (← flowItems fuel start false)

def flowKey : Nat → Build Node
  | 0 => fault .noContent {}
  | fuel + 1 => do
    let t ← peek
    if t.kind == .value || t.kind == .flowEntry || t.kind == .flowSequenceEnd then
      next
      empty t.stop
    else node fuel false false

def flowValue : Nat → (closing : TokenKind) → Build Node
  | 0, _ => fault .noContent {}
  | fuel + 1, closing => do
    let t ← peek
    if t.kind == .value then
      next
      let u ← peek
      if u.kind == .flowEntry || u.kind == closing then empty u.start
      else node fuel false false
    else empty t.start

def flowPairs : Nat → Mark → (first : Bool) → Build (List (Node × Node))
  | 0, _, _ => fault .noContent {}
  | fuel + 1, start, first => do
    let t ← peek
    if t.kind == .flowMappingEnd then
      next
      settle
      return []
    else
      let t ←
        if first then pure t
        else if t.kind == .flowEntry then
          next
          peek
        else fault .noCommaOrBrace t.start start
      match t.kind with
      | .key =>
        next
        let u ← peek
        let k ←
          if u.kind == .value || u.kind == .flowEntry || u.kind == .flowMappingEnd then
            empty u.start
          else node fuel false false
        let v ← flowValue fuel .flowMappingEnd
        return (k, v) :: (← flowPairs fuel start false)
      | .flowMappingEnd =>
        next
        settle
        return []
      | _ =>
        let k ← node fuel false false
        let u ← peek
        return (k, ← empty u.start) :: (← flowPairs fuel start false)

end

def directives : Nat → (version : Bool) → (given : List (String × String)) → Build Unit
  | 0, _, _ => return
  | fuel + 1, version, given => do
    let t ← peek
    match t.kind with
    | .version major minor =>
      if version then fault .duplicateVersion t.start
      else if major != 1 || minor != 1 then fault .incompatibleVersion t.start
      else
        next
        directives fuel true given
    | .tagDirective handle uri =>
      if (given.lookup handle).isSome then fault .duplicateTagDirective t.start
      else
        next
        directives fuel version (given ++ [(handle, uri)])
    | _ => modify fun b => { b with handles := given ++ standardHandles }

def endsDocument : TokenKind → Bool
  | .version _ _ => true
  | .tagDirective _ _ => true
  | .documentStart => true
  | .documentEnd => true
  | .streamEnd => true
  | _ => false

def root (fuel : Nat) : Build (Option Node) := do
  let _ ← peek
  next
  settle
  let t ← peek
  if t.kind == .streamEnd then
    settle
    return none
  else
    let explicit := match t.kind with
      | .version _ _ => true
      | .tagDirective _ _ => true
      | .documentStart => true
      | _ => false
    directives fuel false []
    let n ←
      if explicit then do
        let u ← peek
        if u.kind == .documentStart then
          next
          settle
          let v ← peek
          if endsDocument v.kind then empty v.start else node fuel true false
        else fault .noDocumentStart u.start
      else
        settle
        node fuel true false
    let _ ← peek
    settle
    return some n

/-- The first document of a file and its anchored nodes. Building takes a bounded number of steps for
each character. -/
def document (data : Bytes) : Except Fault (Option Node × Anchors) := do
  let (n, b) ← (root (8 * data.length + 32)).run { scanner := Scanner.ofBytes data }
  return (n, b.anchors)

end MoquiLint.Yaml
