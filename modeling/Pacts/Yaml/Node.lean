import Pacts.Yaml.Cursor
import Pacts.Yaml.Token

/-!
# YAML nodes from tokens

A document is one node: a scalar, a sequence, a mapping, or an alias of a node that carries an
anchor.  A node may carry a tag; a handle in front of a tag stands for what the directives of the
document say it does.

The parser takes a node from the front of the tokens.  Loops over the items and members of a
collection are handed the functions that take the nodes inside, so the depth of nesting is one
recursion over `fuel`.  Where a node may be missing it is an empty plain scalar.
-/

set_option autoImplicit false

namespace Pacts.Yaml

/-- What a node may carry. -/
structure Properties where
  anchor : Option String
  tag : Option String
  deriving DecidableEq, Repr

/-- A node.  An alias, and an anchor, is a name. -/
inductive Node where
  | scalar (properties : Properties) (style : Style) (text : String)
  | sequence (properties : Properties) (items : List Node)
  | mapping (properties : Properties) (members : List (Node × Node))
  | alias (name : String)
  deriving Repr

namespace Node

/-- The properties of a node that carries none. -/
def bare : Properties := ⟨none, none⟩

/-- The node that stands where none is written. -/
def missing : Node := .scalar bare .plain ""

/-! ## Properties -/

/-- What the handles of tags stand for. -/
abbrev Handles := List (String × String)

/-- What the handles stand for that need no directive. -/
def defaultHandles : Handles := [("!", "!"), ("!!", "tag:yaml.org,2002:")]

/-- The tag of a handle and what follows it. -/
def expandTag (handles : Handles) (handle suffix : String) : Except Problem String :=
  if handle.isEmpty then .ok suffix
  else match handles.find? (·.1 = handle) with
    | some (_, expansion) => .ok (expansion ++ suffix)
    | none => .error "found undefined tag handle"

/-- Takes the properties of a node: an anchor and a tag, in either order. -/
def takeProperties (handles : Handles) : List Token → Except Problem (Properties × List Token)
  | .anchor name :: .tag handle suffix :: ts => do
    let tag ← expandTag handles handle suffix
    return (⟨some name, some tag⟩, ts)
  | .anchor name :: ts => .ok (⟨some name, none⟩, ts)
  | .tag handle suffix :: .anchor name :: ts => do
    let tag ← expandTag handles handle suffix
    return (⟨some name, some tag⟩, ts)
  | .tag handle suffix :: ts => do
    let tag ← expandTag handles handle suffix
    return (⟨none, some tag⟩, ts)
  | ts => .ok (bare, ts)

/-! ## Collections -/

/-- Takes a node from the front of the tokens. -/
abbrev Taker := List Token → Except Problem (Node × List Token)

/-- The items of a block sequence. -/
def blockItems (node : Taker) : (fuel : Nat) → (soFar : List Node) → List Token →
    Except Problem (List Node × List Token)
  | fuel + 1, soFar, .item :: ts =>
    match ts with
    | .item :: _ => blockItems node fuel (missing :: soFar) ts
    | .blockEnd :: _ => blockItems node fuel (missing :: soFar) ts
    | _ => do
      let (n, ts) ← node ts
      blockItems node fuel (n :: soFar) ts
  | _, soFar, .blockEnd :: ts => .ok (soFar.reverse, ts)
  | _, _, _ => .error "did not find expected '-' indicator"

/-- Whether a token ends an item of a sequence that is not indented. -/
def endsItem : Token → Bool
  | .item => true
  | .key => true
  | .value => true
  | .blockEnd => true
  | _ => false

/-- The items of a sequence that is no further to the right than the mapping around it. -/
def flushItems (node : Taker) : (fuel : Nat) → (soFar : List Node) → List Token →
    Except Problem (List Node × List Token)
  | fuel + 1, soFar, .item :: ts =>
    if ts.head?.any endsItem then flushItems node fuel (missing :: soFar) ts
    else do
      let (n, ts) ← node ts
      flushItems node fuel (n :: soFar) ts
  | _, soFar, ts => .ok (soFar.reverse, ts)

/-- Whether a token ends a key or a value of a block mapping. -/
def endsMember : Token → Bool
  | .key => true
  | .value => true
  | .blockEnd => true
  | _ => false

/-- A key or a value of a block mapping, from behind its sign. -/
def memberPart (node : Taker) (ts : List Token) : Except Problem (Node × List Token) :=
  if ts.head?.any endsMember then .ok (missing, ts) else node ts

/-- The members of a block mapping. -/
def blockMembers (node : Taker) : (fuel : Nat) → (soFar : List (Node × Node)) → List Token →
    Except Problem (List (Node × Node) × List Token)
  | fuel + 1, soFar, .key :: ts => do
    let (key, ts) ← memberPart node ts
    match ts with
    | .value :: ts => do
      let (value, ts) ← memberPart node ts
      blockMembers node fuel ((key, value) :: soFar) ts
    | ts => blockMembers node fuel ((key, missing) :: soFar) ts
  | _, soFar, .blockEnd :: ts => .ok (soFar.reverse, ts)
  | _, _, _ => .error "did not find expected key"

/-- A value in a flow collection that `closing` closes, if there is one. -/
def flowValue (node : Taker) (closing : Token) (ts : List Token) :
    Except Problem (Node × List Token) :=
  match ts with
  | .value :: ts =>
    match ts with
    | .comma :: _ => .ok (missing, ts)
    | t :: _ => if t = closing then .ok (missing, ts) else node ts
    | [] => node ts
  | ts => .ok (missing, ts)

/-- A member that stands in a flow sequence, from behind the sign of its key. -/
def singleMember (node : Taker) (ts : List Token) : Except Problem (Node × List Token) := do
  let (key, ts) ←
    match ts with
    | .value :: ts => Except.ok (missing, ts)
    | .comma :: ts => Except.ok (missing, ts)
    | .flowSequenceEnd :: ts => Except.ok (missing, ts)
    | ts => node ts
  let (value, ts) ← flowValue node .flowSequenceEnd ts
  return (.mapping bare [(key, value)], ts)

/-- The comma in front of an item or member that is not the first. -/
def separator (first : Bool) (ts : List Token) : Except Problem (List Token) :=
  if first then .ok ts
  else match ts with
    | .comma :: ts => .ok ts
    | _ => .error "did not find expected ',' or a closing bracket"

/-- The items of a flow sequence. -/
def flowItems (node : Taker) : (fuel : Nat) → (first : Bool) → (soFar : List Node) → List Token →
    Except Problem (List Node × List Token)
  | 0, _, _, _ => .error "did not find expected node content"
  | _ + 1, _, soFar, .flowSequenceEnd :: ts => .ok (soFar.reverse, ts)
  | fuel + 1, first, soFar, ts => do
    match ← separator first ts with
    | .flowSequenceEnd :: ts => return (soFar.reverse, ts)
    | .key :: ts => do
      let (n, ts) ← singleMember node ts
      flowItems node fuel false (n :: soFar) ts
    | ts => do
      let (n, ts) ← node ts
      flowItems node fuel false (n :: soFar) ts

/-- A key of a flow mapping, from behind its sign. -/
def flowKey (node : Taker) (ts : List Token) : Except Problem (Node × List Token) :=
  match ts with
  | .value :: _ => .ok (missing, ts)
  | .comma :: _ => .ok (missing, ts)
  | .flowMappingEnd :: _ => .ok (missing, ts)
  | ts => node ts

/-- The members of a flow mapping. -/
def flowMembers (node : Taker) : (fuel : Nat) → (first : Bool) → (soFar : List (Node × Node)) →
    List Token → Except Problem (List (Node × Node) × List Token)
  | 0, _, _, _ => .error "did not find expected node content"
  | _ + 1, _, soFar, .flowMappingEnd :: ts => .ok (soFar.reverse, ts)
  | fuel + 1, first, soFar, ts => do
    match ← separator first ts with
    | .flowMappingEnd :: ts => return (soFar.reverse, ts)
    | .key :: ts => do
      let (key, ts) ← flowKey node ts
      let (value, ts) ← flowValue node .flowMappingEnd ts
      flowMembers node fuel false ((key, value) :: soFar) ts
    | ts => do
      let (key, ts) ← node ts
      flowMembers node fuel false ((key, missing) :: soFar) ts

/-! ## Nodes -/

/-- Where a node stands. -/
inductive Place where
  | flow
  | block
  /-- The key or the value of a block mapping, where a sequence need not be indented. -/
  | member
  deriving DecidableEq

/-- Takes a node whose collections are nested at most `fuel` deep. -/
def take (handles : Handles) : (fuel : Nat) → Place → Taker
  | 0, _, _ => .error "did not find expected node content"
  | fuel + 1, place, ts =>
    let loop := ts.length
    match ts with
    | .alias name :: ts => .ok (.alias name, ts)
    | ts => do
      let (properties, behind) ← takeProperties handles ts
      match behind with
      | .item :: _ =>
        if place = .member then do
          let (items, ts) ← flushItems (take handles fuel .block) loop [] behind
          return (.sequence properties items, ts)
        else empty properties behind
      | .scalar style text :: ts => return (.scalar properties style text, ts)
      | .flowSequence :: ts => do
        let (items, ts) ← flowItems (take handles fuel .flow) loop true [] ts
        return (.sequence properties items, ts)
      | .flowMapping :: ts => do
        let (members, ts) ← flowMembers (take handles fuel .flow) loop true [] ts
        return (.mapping properties members, ts)
      | .blockSequence :: ts =>
        if place = .flow then empty properties behind
        else do
          let (items, ts) ← blockItems (take handles fuel .block) loop [] ts
          return (.sequence properties items, ts)
      | .blockMapping :: ts =>
        if place = .flow then empty properties behind
        else do
          let (members, ts) ← blockMembers (take handles fuel .member) loop [] ts
          return (.mapping properties members, ts)
      | ts => empty properties ts
where
  /-- The empty scalar that a node without content is, if it carries anything at all. -/
  empty (properties : Properties) (ts : List Token) : Except Problem (Node × List Token) :=
    if properties = bare then .error "did not find expected node content"
    else .ok (.scalar properties .plain "", ts)

/-! ## Documents -/

/-- Takes the directives in front of a document. -/
def takeDirectives : (version : Bool) → Handles → List Token →
    Except Problem (Handles × List Token)
  | version, handles, .version major minor :: ts =>
    if version then .error "found duplicate %YAML directive"
    else if major = 1 ∧ (minor = 1 ∨ minor = 2) then takeDirectives true handles ts
    else .error "found incompatible YAML document"
  | version, handles, .handle name expansion :: ts =>
    if handles.any (·.1 = name) then .error "found duplicate %TAG directive"
    else takeDirectives version (handles ++ [(name, expansion)]) ts
  | _, handles, ts => .ok (handles, ts)

/-- The content of a document behind its mark. -/
def takeContent (handles : Handles) (ts : List Token) : Except Problem (Node × List Token) :=
  match ts with
  | [] => .ok (missing, ts)
  | .documentStart :: _ => .ok (missing, ts)
  | .documentEnd :: _ => .ok (missing, ts)
  | .version .. :: _ => .ok (missing, ts)
  | .handle .. :: _ => .ok (missing, ts)
  | ts => take handles (ts.length + 1) .block ts

/-- The only document of a stream of tokens; `none` when there is no document. -/
def ofTokens (ts : List Token) : Except Problem (Option Node) := do
  if ts.isEmpty then return none
  let (handles, behind) ← takeDirectives false [] ts
  let handles := handles ++ defaultHandles
  let (n, rest) ←
    match behind with
    | .documentStart :: behind => takeContent handles behind
    | behind =>
      if behind.length < ts.length then .error "did not find expected <document start>"
      else take handles (ts.length + 1) .block behind
  if rest.all (· = .documentEnd) then return some n else throw "more than one document"

end Node

end Pacts.Yaml
