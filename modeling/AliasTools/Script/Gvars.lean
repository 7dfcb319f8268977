import AliasTools.Script.Arguments
import AliasTools.Sheet.Object
import AliasTools.Syntax.Grammar.Statement
import Std.Data.HashMap

/-!
# Shared variables

A store of variables by key, filled from a file and from a service.  A variable can hold a script, which
runs as a module.  A deep copy has new lists, dictionaries and sets throughout; what was shared in the
value is shared in the same way in its copy.
-/

namespace AliasTools.Script

/-! ## 1. Copies -/

abbrev Copies := Std.HashMap Addr Addr

def copyEach (copy : Value → Copies → Eval (Value × Copies)) (acc : Array Value) (cs : Copies) :
    List Value → Eval (Array Value × Copies)
  | [] => pure (acc, cs)
  | v :: vs => do
    let (v, cs) ← copy v cs
    copyEach copy (acc.push v) cs vs

def copyValue : Nat → Value → Copies → Eval (Value × Copies)
  | 0, _, _ => raise .outOfFuel
  | k + 1, v, cs => do
    match v with
    | .tuple xs =>
      let (xs, cs) ← copyEach (copyValue k) #[] cs xs
      return (.tuple xs.toList, cs)
    | .ref a =>
      -- The copy is made empty and filled later, since what it holds may lead back to it.
      let filled (r : Value) (size : Option Int) (parts : List Value)
          (fill : Array Value → Alteration) : Eval (Value × Copies) := do
        let .ref b := r | return (r, cs)
        let (xs, cs) ← copyEach (copyValue k) #[] (cs.insert a b) parts
        alter b (fill xs)
        if let some n := size then alter b (.measure n)
        return (r, cs)
      match cs[a]?, ← cellAt a with
      | some b, _ => return (.ref b, cs)
      | none, some (.list g xs n) => filled (← alloc (.list g #[] none)) n xs.toList fun ys => .arrange ys
      | none, some (.dict g es n) =>
        filled (← alloc (.dict g #[] none)) n (es.toList.map (·.value)) fun ys =>
          .merge ((es.zip ys).map fun (e, y) => { e with value := y }) 0
      | none, _ => return (v, cs)
    | v => return (v, cs)

def deepCopy (v : Value) : Eval Value := do return (← copyValue (Number.twoTo 40) v {}).1

open Number Sheet

/-! ## 2. Data and values -/

mutual

def valueOfJson : Json → Eval Value
  | .null => pure .none
  | .bool b => pure (.bool b)
  | .int n => pure (.int n)
  | .float x => pure (.float x)
  | .str s => pure (.str s false)
  | .arr xs => do alloc (.list false (← valuesOfJson #[] xs) none)
  | .obj fs => do alloc (.dict false (← entriesOfJson #[] fs) none)

def valuesOfJson (acc : Array Value) : List Json → Eval (Array Value)
  | [] => pure acc
  | x :: xs => do valuesOfJson (acc.push (← valueOfJson x)) xs

def entriesOfJson (acc : Entries) : List (String × Json) → Eval Entries
  | [] => pure acc
  | (n, x) :: fs => do entriesOfJson (acc.push ⟨.str n, .str n false, ← valueOfJson x⟩) fs

end

def readJson (text : String) : Eval Value := do
  match Json.parse text with
  | .ok j => valueOfJson j
  | .error f => fail (if f.isForm then .jsonDecode else .valueError) (f.message text)

variable (go : Go) (v : Value)

def isIterable : Eval Bool := do
  match v with
  | .tuple _ | .range _ _ _ | .cls (.str _) | .cls (.list _) => return true
  | _ =>
    match ← cellOf v with
    | some (.list _ _ _) | some (.dict _ _ _) | some (.set _ _ _) | some (.generator _)
    | some (.counter _ _) | some (.view _ _) | some (.arguments _ _) => return true
    | some (.object k _) => return k.innerMethods.contains "__iter__"
    | _ => return false

def orText (act : Eval Value) : Eval Value := .fallback act do return .str (← go (.text v)) false

def dataFor : Eval Value :=
  orText go v do
    match ← go (.attr v "to_dict") with
    | some m => go (.call m [] [])
    | none =>
      if ← isIterable v then alloc (.list false (← collect go v) none)
      else return .str (← go (.text v)) false

def fieldName (k : Value) : Eval String := do
  match k with
  | .str s _ => return s
  | .float x => return Json.floatWord x
  | .bool b => return if b then "true" else "false"
  | .none => return "null"
  | .int n => intWord n
  | _ => typeFault s!"keys must be str, int, float, bool or None, not {← typeName k}"

def notInside (seen : List Addr) (a : Addr) : Eval Unit :=
  if seen.contains a then valueFault "Circular reference detected" else pure ()

def jsonOfValue (seen : List Addr) (v : Value) : Nat → Eval Json
  | 0 => raise .outOfFuel
  | k + 1 => do
    let other : Eval Json := do
      let seen ← match v with
        | .ref a => do
          notInside seen a
          pure (a :: seen)
        | _ => pure seen
      jsonOfValue seen (← dataFor go v) k
    match v with
    | .none => return .null
    | .bool b => return .bool b
    | .int n =>
      discard <| intWord n
      return .int n
    | .float x => return .float x
    | .str s _ => return .str s
    | .tuple xs => return .arr (← xs.mapM fun x => jsonOfValue seen x k)
    | .ref a =>
      match ← cellAt a with
      | some (.list false xs _) =>
        notInside seen a
        return .arr (← xs.toList.mapM fun x => jsonOfValue (a :: seen) x k)
      | some (.dict _ es _) =>
        notInside seen a
        return .obj (← es.toList.mapM fun e => do
          let n ← fieldName e.name
          return (n, ← jsonOfValue (a :: seen) e.value k))
      | _ => other
    | _ => other

def writeJson : Eval String := do return (← jsonOfValue go [] v runLimit).render

open Text Syntax

/-! ## 3. The store -/

def lastSegment (url : String) : String :=
  let path := url.toList.takeWhile fun c => c != '?' && c != '#'
  String.ofList (path.reverse.takeWhile (· != '/')).reverse

def isAddressChar (c : Char) : Bool := isAsciiLetter c || isAsciiDigit c || "-._~!$&'()*+,;=:/[]@?#".toList.contains c

def encodedByte (b : UInt8) : List Char := '%' :: (hexText 2 b.toNat).map Char.toUpper

def encodeAddress : List Char → List Char
  | [] => []
  | '%' :: rest =>
    if (rest.take 2).length == 2 && (rest.take 2).all isHexDigit then '%' :: encodeAddress rest
    else encodedByte 37 ++ encodeAddress rest
  | c :: rest =>
    if isAddressChar c then c :: encodeAddress rest
    else (c.toString.toUTF8.toList.flatMap encodedByte) ++ encodeAddress rest

def Request.encoded (r : Request) : Request := { r with url := String.ofList (encodeAddress r.url.toList) }

def Session.sent (s : Session) (r : Request) : Session := { s with requests := r.encoded :: s.requests }

def Session.answerTo (s : Session) (r : Request) : Answer :=
  (s.answers.lookup (lastSegment r.url)).getD (.failed "no route")

def request (r : Request) : Eval Answer := do
  updateSession (·.sent r)
  return (← read).session.answerTo r

def dropSlashes (url : String) : String := String.ofList (url.toList.reverse.dropWhile (· == '/')).reverse

def Answer.content : Answer → Int × Option Json
  | .data s j => (s, some j)
  | .text s b => (s, (Json.parse b).toOption)
  | .failed _ => (0, none)

def Answer.gvar? (a : Answer) : Option Json :=
  match a.content with
  | (200, some (.obj fs)) =>
    match fs.lookup "value" with
    | none | some .null => none
    | some j => some j
  | _ => none

def Service.canFetch (s : Service) : Bool := s.fetches && !(s.token.getD "").isEmpty

def Service.gvarRequest (s : Service) (key : String) : Request where
  method := "GET"
  url := s!"{dropSlashes s.baseUrl}/customizations/gvars/{key}"
  token := some (s.token.getD "None")
  body := ""

def storedGvars : Eval Names := do return (← read).store

def gvarValue (key : String) : Eval Value := do return ((← storedGvars).get? key).getD .none

def keepGvar (key : String) (v : Value) : Eval Unit := .change (.keep key v)

def missGvar (key : String) : Eval Bool := do
  if (← read).session.service.silent then
    keepGvar key .none
    return true
  return false

def takeGvar (key : String) (a : Answer) : Eval Bool := do
  match a.gvar? with
  | none => missGvar key
  | some j =>
    keepGvar key (← valueOfJson j)
    return true

def ensureGvar (key : String) : Eval Bool := do
  if (← read).stores key then return true
  let service := (← read).session.service
  if !service.canFetch then return ← missGvar key
  takeGvar key (← request (service.gvarRequest key))

abbrev Report := List (String × Bool)

def Report.note (r : Report) (key : String) (there : Bool) : Report :=
  r.map fun p => if p.1 == key then (key, there) else p

def World.report (w : World) (keys : List String) : Report := keys.eraseDups.map fun key => (key, w.stores key)

def World.missing (w : World) (keys : List String) : List String := keys.filter fun key => !w.stores key

def ensureGvars (keys : List String) : Eval Report := do
  let w ← read
  (w.missing keys).foldlM (fun r key => do return r.note key (← ensureGvar key)) (w.report keys)

class Fetching (m : Type → Type 1) where
  stored : m (Option Names)
  /-- Make sure of several variables; gives for each key whether it is there. -/
  ensureMany : List String → m Report
  rounds : m Nat

def World.rounds (w : World) : Nat := w.session.answers.length + 2

instance : Fetching Eval where
  stored := do return (← read).gvars
  ensureMany := ensureGvars
  rounds := do return (← read).rounds

def gvarPairs (go : Go) (v : Value) : Eval (List (String × Value)) := do
  if !(← go (.truth v)) then return []
  (← itemPairs go v).mapM fun (k, x) => do return (← go (.text k), x)

def readScript (text : String) : Eval (List Stmt) :=
  match parseScript text false with
  | .ok body => pure body
  | .error f => raise (.form f)

def refuseLoopControl (flow : Flow) : Eval Unit :=
  match flow with
  | .brk sp | .cont sp => failForm "Loop control outside loop" sp
  | _ => pure ()

variable (go : Go) (addr : String)

/-- Execute a text as a module: it cannot return, the counters go on, and the source is afterwards what
    it was before. -/
def executeModule (text name : String) : Eval Unit :=
  .wrapped (.context name) (.inText text do
    let flow ← go (.body (← readScript text))
    refuseLoopControl flow
    match flow with
    | .ret _ sp => failForm "'return' outside function" sp
    | _ => pure ())

def noSuchModule {α : Type} (addr : String) : Eval α := fail .moduleNotFound s!"No gvar named {quote addr}"

def obtainGvar : Eval Value := do
  let v ← gvarValue addr
  if v.isNone then
    discard <| ensureGvar addr
    gvarValue addr
  else return v

def moduleContents : Eval Value := do
  if (← read).gvars.isNone then noSuchModule addr
  let v ← obtainGvar addr
  if v.isNone then noSuchModule addr
  return v

def moduleText : Eval String := do go (.text (← moduleContents addr))

def runModule (text addr : String) : Eval Value := do
  let names ← .inModule (.wrapped (.module addr) do
    executeModule go text addr
    scopeNames)
  alloc (.namespace names)

def loadModule : Eval Value := do runModule go (← moduleText go addr) addr

def importAs (name : String) (address : Value) : Eval Unit := do
  let addr ← go (.text address)
  let m ← .importing addr (loadModule go addr)
  .assign none name m

end AliasTools.Script
