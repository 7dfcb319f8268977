import AliasTools.Yaml.Scalar
import AliasTools.Yaml.Token

/-!
# Events of a document

The tokens of a document as a walk through its structure: collections open and close, and scalars stand
between.  The events make a graph of nodes.
-/

namespace AliasTools.Yaml

open Text

/-! ## 1. Events -/

structure Properties where
  anchor : Option String := none
  tag : Option String := none
deriving DecidableEq

/-- Collections begin and end, and scalars stand between. -/
inductive EventKind where
  | streamStart | streamEnd | documentStart | documentEnd
  | alias (name : String)
  | scalar (props : Properties) (guessed : Bool) (text : String)
  | sequenceStart (props : Properties) | sequenceEnd
  | mappingStart (props : Properties) | mappingEnd
deriving DecidableEq

structure Event where
  kind : EventKind
  start : Mark

/-- Where the walk stands: the tokens that are left, the fault behind them, the meaning of the tag
    handles, and the events so far. -/
structure WalkState where
  tokens : List Token
  fault : Option Fault
  handles : List (String × String) := []
  events : Array Event := #[]

abbrev Walk := EStateM Fault WalkState

/-! ## 2. Tokens and events one at a time -/

def nextToken : Walk Token := do
  let s ← get
  match s.tokens with
  | t :: _ => return t
  | [] => throw (s.fault.getD { kind := .event, problem := "unexpected end" })

def takeToken : Walk Token := do
  let t ← nextToken
  modify fun s => { s with tokens := s.tokens.tail }
  return t

def atToken (kinds : List TokenKind) : Walk Bool := do return kinds.contains (← nextToken).kind

def addEvent (kind : EventKind) (start : Mark) : Walk Unit :=
  modify fun s => { s with events := s.events.push ⟨kind, start⟩ }

def emptyScalar (m : Mark) : Walk Unit := addEvent (.scalar {} true "") m

def walkFail {α : Type} (context : Option String) (start : Option Mark) (problem : String) : Walk α := do
  let t ← nextToken
  throw { kind := .event, context := context, contextMark := start
          problem := problem ++ quote t.kind.label, problemMark := some t.start }

def takeBlockEnd (context : String) (start : Mark) (e : EventKind) : Walk Unit := do
  if !(← atToken [.blockEnd]) then walkFail (some context) (some start) "expected <block end>, but found "
  addEvent e (← takeToken).start

def toFlowEntry (what : String) (stop : TokenKind) (start : Mark) (first : Bool) : Walk Unit := do
  if !first && !(← atToken [stop]) then
    if !(← atToken [.flowEntry]) then
      walkFail (some s!"while parsing a flow {what}") (some start) s!"expected ',' or '{stop.label}', but got "
    discard takeToken

/-! ## 3. Nodes -/

/-- A tag in full, by what its handle stands for. -/
def tagAddress (handle : Option String) (rest : String) (start mark : Mark) : Walk String := do
  match handle with
  | none => return rest
  | some h =>
    match (← get).handles.lookup h with
    | some front => return front ++ rest
    | none =>
      throw { kind := .event, context := some "while parsing a node", contextMark := some start
              problem := "found undefined tag handle " ++ quote h, problemMark := some mark }

abbrev WrittenTag := Option String × String × Mark

def takeAnchor : Walk (Option String) := do
  match (← nextToken).kind with
  | .anchor n => do
    discard takeToken
    return some n
  | _ => return none

def takeTag : Walk (Option WrittenTag) := do
  let t ← nextToken
  match t.kind with
  | .tag h rest => do
    discard takeToken
    return some (h, rest, t.start)
  | _ => return none

def takeProperties : Walk Properties := do
  let start := (← nextToken).start
  let (anchor, tag) ← match ← takeAnchor with
    | some a => do pure (some a, ← takeTag)
    | none => do
      match ← takeTag with
      | some t => pure (← takeAnchor, some t)
      | none => pure (none, none)
  match tag with
  | none => return { anchor := anchor }
  | some (h, rest, m) => return { anchor := anchor, tag := some (← tagAddress h rest start m) }

structure NodePlace where
  block : Bool
  indentless : Bool := false

inductive Part where
  | node (place : NodePlace)
  | blockSequence (start : Mark)
  | indentlessSequence
  | blockMapping (start : Mark)
  | flow (sequence : Bool) (start : Mark) (first : Bool)

/-- The number bounds the nesting. -/
def walk (k : Nat) (p : Part) : Walk Unit := do
  match k with
  | 0 => throw { kind := .event, problem := "the document is nested too deeply" }
  | k + 1 =>
    let blockNode : Walk Unit := walk k (.node ⟨true, false⟩)
    let blockPart : Walk Unit := walk k (.node ⟨true, true⟩)
    let flowNode : Walk Unit := walk k (.node ⟨false, false⟩)
    let behindMark (ends : List TokenKind) (act : Walk Unit) : Walk Unit := do
      let m := (← takeToken).stop
      if ← atToken ends then emptyScalar m else act
    let value (ends : List TokenKind) (act : Walk Unit) : Walk Unit := do
      if ← atToken [.value] then behindMark ends act else emptyScalar (← nextToken).start
    let flowPair (stop : TokenKind) : Walk Unit := do
      behindMark [.value, .flowEntry, stop] flowNode
      value [.flowEntry, stop] flowNode
    match p with
    | .node place =>
      let first ← nextToken
      if let .alias n := first.kind then
        discard takeToken
        addEvent (.alias n) first.start
      else
        let props ← takeProperties
        let start := first.start
        let t ← nextToken
        if place.indentless && t.kind == .blockEntry then
          addEvent (.sequenceStart props) start
          walk k .indentlessSequence
        else
          match t.kind, place.block with
          | .scalar text style, _ =>
            discard takeToken
            let guessed := (style == .plain && props.tag.isNone) || props.tag == some "!"
            addEvent (.scalar props guessed text) start
          | .flowSequenceStart, _ =>
            addEvent (.sequenceStart props) start
            walk k (.flow true (← takeToken).start true)
          | .flowMappingStart, _ =>
            addEvent (.mappingStart props) start
            walk k (.flow false (← takeToken).start true)
          | .blockSequenceStart, true =>
            addEvent (.sequenceStart props) start
            walk k (.blockSequence (← takeToken).start)
          | .blockMappingStart, true =>
            addEvent (.mappingStart props) start
            walk k (.blockMapping (← takeToken).start)
          | _, block =>
            if props.anchor.isSome || props.tag.isSome then
              addEvent (.scalar props (props.tag.isNone || props.tag == some "!") "") start
            else
              walkFail (some ("while parsing a " ++ (if block then "block" else "flow") ++ " node"))
                (some start) "expected the node content, but found "
    | .blockSequence start =>
      if ← atToken [.blockEntry] then
        behindMark [.blockEntry, .blockEnd] blockNode
        walk k (.blockSequence start)
      else takeBlockEnd "while parsing a block collection" start .sequenceEnd
    | .indentlessSequence =>
      if ← atToken [.blockEntry] then
        behindMark [.blockEntry, .key, .value, .blockEnd] blockNode
        walk k .indentlessSequence
      else addEvent .sequenceEnd (← nextToken).start
    | .blockMapping start =>
      let ends := [TokenKind.key, .value, .blockEnd]
      if ← atToken [.key] then
        behindMark ends blockPart
        value ends blockPart
        walk k (.blockMapping start)
      else takeBlockEnd "while parsing a block mapping" start .mappingEnd
    | .flow sequence start first =>
      let stop := if sequence then TokenKind.flowSequenceEnd else .flowMappingEnd
      toFlowEntry (if sequence then "sequence" else "mapping") stop start first
      let t ← nextToken
      if t.kind == stop then
        discard takeToken
        addEvent (if sequence then .sequenceEnd else .mappingEnd) t.start
      else
        if t.kind == .key then
          if sequence then addEvent (.mappingStart {}) t.start
          flowPair stop
          if sequence then addEvent .mappingEnd (← nextToken).start
        else
          flowNode
          if !sequence then emptyScalar (← nextToken).start
        walk k (.flow sequence start false)

/-! ## 4. Documents -/

def usualHandles : List (String × String) := [("!", "!"), ("!!", "tag:yaml.org,2002:")]

def walkFailAt {α : Type} (problem : String) (m : Mark) : Walk α :=
  throw { kind := .event, problem := problem, problemMark := some m }

def takeDirectives (version : Bool) (handles : List (String × String)) : List Token → Walk Unit
  | [] => pure ()
  | t :: rest => do
    match t.kind with
    | .directive d =>
      discard takeToken
      match d with
      | .version major _ =>
        if version then walkFailAt "found duplicate YAML directive" t.start
        if major != 1 then walkFailAt "found incompatible YAML document (version 1.* is required)" t.start
        takeDirectives true handles rest
      | .tag h front =>
        if (handles.lookup h).isSome then walkFailAt s!"duplicate tag handle {quote h}" t.start
        takeDirectives version ((h, front) :: handles) rest
      | .other => takeDirectives version handles rest
    | _ => modify fun s => { s with handles := handles ++ usualHandles }

def endDocument : Walk Unit := do
  addEvent .documentEnd (← nextToken).start
  if ← atToken [.documentEnd] then discard takeToken

def documents : Nat → Walk Unit
  | 0 => pure ()
  | k + 1 => do
    modify fun s => { s with tokens := s.tokens.dropWhile fun t => t.kind == .documentEnd }
    let t ← nextToken
    if t.kind == .streamEnd then addEvent .streamEnd t.start
    else
      let s ← get
      takeDirectives false [] s.tokens
      if !(← atToken [.documentStart]) then walkFail none none "expected '<document start>', but found "
      discard takeToken
      addEvent .documentStart t.start
      let next ← nextToken
      match next.kind with
      | .directive _ | .documentStart | .documentEnd | .streamEnd => emptyScalar next.start
      | _ => walk (2 * s.tokens.length + 2) (.node ⟨true, false⟩)
      endDocument
      documents k

def allDocuments : Walk Unit := do
  addEvent .streamStart (← takeToken).start
  let s ← get
  let bound := 2 * s.tokens.length + 2
  let t ← nextToken
  match t.kind with
  | .directive _ | .documentStart | .streamEnd => documents bound
  | _ =>
    modify fun s => { s with handles := usualHandles }
    addEvent .documentStart t.start
    walk bound (.node ⟨true, false⟩)
    endDocument
    documents bound

def eventsOf (text : List Char) : Array Event × Option Fault :=
  let (tokens, fault) := tokensOf text
  match allDocuments { tokens := tokens.toList, fault := fault } with
  | .ok _ s => (s.events, none)
  | .error f s => (s.events, some f)

/-! ## 5. The graph -/

inductive NodeBody where
  | scalar (text : String)
  | sequence (items : List Nat)
  | mapping (pairs : List (Nat × Nat))
deriving Inhabited

def NodeBody.label : NodeBody → String
  | .scalar _ => "scalar" | .sequence _ => "sequence" | .mapping _ => "mapping"

/-- A node of the graph, which may be used at several places. -/
structure Node where
  tag : String
  start : Mark
  body : NodeBody
deriving Inhabited

structure Graph where
  nodes : Array Node
  root : Option Nat

structure BuildState where
  events : List Event
  fault : Option Fault
  nodes : Array Node := #[]
  anchors : List (String × Nat) := []

abbrev Build := EStateM Fault BuildState

def nextEvent : Build Event := do
  let s ← get
  match s.events with
  | e :: _ => return e
  | [] => throw (s.fault.getD { kind := .node, problem := "unexpected end" })

def takeEvent : Build Event := do
  let e ← nextEvent
  modify fun s => { s with events := s.events.tail }
  return e

def addNode (anchor : Option String) (n : Node) : Build Nat := do
  let s ← get
  if let some a := anchor then
    if let some i := s.anchors.lookup a then
      throw
        { kind := .node
          context := some s!"found duplicate anchor {quote a}; first occurrence"
          contextMark := (s.nodes[i]?).map (·.start)
          problem := "second occurrence", problemMark := some n.start }
  let i := s.nodes.size
  set { s with nodes := s.nodes.push n, anchors := (anchor.map (·, i)).toList ++ s.anchors }
  return i

def setBody (i : Nat) (b : NodeBody) : Build Unit :=
  modify fun s => { s with nodes := s.nodes.modify i fun n => { n with body := b } }

def tagOr (tag : Option String) (usual : String) : String := (tag.filter (· != "!")).getD (usualTag usual)

def nestedTooDeeply {α : Type} : Build α := throw { kind := .node, problem := "the document is nested too deeply" }

def partsUntil {α : Type} (stop : EventKind) (part : Build α) (done : List α) : Nat → Build (List α)
  | 0 => nestedTooDeeply
  | k + 1 => do
    if (← nextEvent).kind != stop then return ← partsUntil stop part ((← part) :: done) k
    discard takeEvent
    return done.reverse

/-- The node that begins with the next event, by its place in the graph. -/
def build : Nat → Build Nat
  | 0 => nestedTooDeeply
  | k + 1 => do
    let e ← takeEvent
    let collection (p : Properties) (sort : String) (body : Build NodeBody) : Build Nat := do
      let i ← addNode p.anchor ⟨tagOr p.tag sort, e.start, .sequence []⟩
      setBody i (← body)
      return i
    match e.kind with
    | .alias name =>
      match (← get).anchors.lookup name with
      | some i => return i
      | none =>
        throw { kind := .node, problem := "found undefined alias " ++ quote name
                problemMark := some e.start }
    | .scalar p guessed text =>
      let sort := if guessed then plainSort text else "str"
      addNode p.anchor ⟨tagOr p.tag sort, e.start, .scalar text⟩
    | .sequenceStart p => collection p "seq" (.sequence <$> partsUntil .sequenceEnd (build k) [] k)
    | .mappingStart p =>
      collection p "map" (.mapping <$> partsUntil .mappingEnd (do return (← build k, ← build k)) [] k)
    | _ => throw { kind := .node, problem := "unexpected event" }

def buildSingle : Build (Option Nat) := do
  discard takeEvent
  let bound := 2 * (← get).events.length + 2
  let root ← if (← nextEvent).kind == .streamEnd then pure none else do
    discard takeEvent
    let i ← build bound
    discard takeEvent
    pure (some i)
  let e ← nextEvent
  if e.kind != .streamEnd then
    throw
      { kind := .node, context := some "expected a single document in the stream"
        contextMark := (root.bind ((← get).nodes[·]?)).map (·.start)
        problem := "but found another document", problemMark := some e.start }
  return root

/-- The graph of the only document of a text. -/
def Graph.ofText (text : List Char) : Except Fault Graph :=
  match characterFault? text with
  | some f => .error f
  | none =>
    let (events, fault) := eventsOf text
    match buildSingle { events := events.toList, fault := fault } with
    | .ok root s => .ok ⟨s.nodes, root⟩
    | .error f _ => .error f

end AliasTools.Yaml
