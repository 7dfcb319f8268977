import AliasTools.Script.Engine
import AliasTools.Syntax.Node

/-!
# Running an alias

The text of an alias is a script, or the body of a function.

A server works on several jobs at a time, and only one of them moves at a time.  A job goes on until it
waits for shared variables; each variable it waits for is then looked for by itself, asked for if it is
not there, and taken when the answer comes.  Once no variable is left, the job can go on.  The order of
all these moves is free, and so are the answers.  All jobs have one store and one heap.  What else is in
the world each has for itself.
-/

namespace AliasTools.Script

open Syntax Text Sheet

/-! ## 1. Running -/

variable (text : String)

def wrapAlias : String :=
  "def __alias_main__():\n" ++
    String.intercalate "\n" ((lineTexts text).map fun l => "    " ++ l) ++ "\n__alias_main__()"

def parseAlias? : Option (List Stmt) :=
  match parseScript text false with
  | .ok body => some body
  | .error _ => (parseScript (wrapAlias text) false).toOption

def writtenText? : Expr → Option String
  | .constant _ (.str s _) => some s
  | _ => none

def gvarsNamedBy : Node → List String
  | .expr (.call _ (.name _ "get_gvar" _) (a :: _) _) => (writtenText? a).toList
  | .expr (.call _ (.name _ "using" _) _ ks) => ks.filterMap fun | .mk _ _ v => writtenText? v
  | _ => []

def literalGvars : List String :=
  match parseAlias? text with
  | some body => ((walkScript body).flatMap gvarsNamedBy).eraseDups
  | none => []

section Prefetch

variable {m : Type → Type 1} [Monad m] [Fetching m]

def fetchNamedIn (stored : Names) (fetched : List String) (text : String) : m (List String) :=
  (literalGvars text).foldlM (fun got key => do
    if stored.has key || got.contains key then return got
    let results ← Fetching.ensureMany [key]
    return if results.any (·.2) then got ++ [key] else got) fetched

def fetchNested (seen : List String) : Nat → m Unit
  | 0 => pure ()
  | k + 1 => do
    let stored := (← Fetching.stored).getD []
    let fresh := stored.filter fun p => !seen.contains p.1
    let fetched ← fresh.foldlM (fun got p => do
      match p.2 with
      | .str s _ => fetchNamedIn stored got s
      | _ => return got) []
    if fetched.isEmpty then return ()
    fetchNested (seen ++ fresh.map (·.1)) k

def fetchAllNested : m Unit := do fetchNested [] (← Fetching.rounds)

def prefetch (keys : List String) : m Unit := do
  if (← Fetching.stored (m := m)).isSome then
    discard (Fetching.ensureMany keys : m _)
    fetchAllNested
    fetchAllNested

end Prefetch

def sessionNames : Names :=
  [("int", .cls .int), ("float", .cls .float), ("str", .cls (.str false)), ("time", .fn .time),
   ("roll", .fn .roll), ("vroll", .fn .vroll), ("rand", .fn .rand), ("randint", .fn .randint),
   ("randchoice", .fn .randchoice), ("randchoices", .fn .randchoices),
   ("parse_coins", .fn .parseCoins), ("load_json", .fn .loadJson), ("dump_json", .fn .dumpJson),
   ("load_yaml", .fn .loadYaml), ("dump_yaml", .fn .dumpYaml)]

def placeNames : Names :=
  [("print", .fn .print), ("combat", .fn .combat), ("character", .fn .character),
   ("get_gvar", .fn .getGvar), ("get_svar", .fn .getSvar), ("get_uvar", .fn .getUvar),
   ("get_uvars", .fn .getUvars), ("set_uvar", .fn .setUvar), ("set_uvar_nx", .fn .setUvarNx),
   ("delete_uvar", .fn .deleteUvar), ("uvar_exists", .fn .uvarExists), ("argparse", .fn .argparse),
   ("err", .fn .err), ("exists", .fn .exists), ("get", .fn .get), ("using", .fn .using),
   ("signature", .fn .signature), ("verify_signature", .fn .verifySignature)]

def storeNames (a : Addr) : Eval Names := do
  return (← storeAt a).toList.filterMap fun e => e.name.asText?.map (·, e.value)

def initialNames : Eval Names := do
  let s := (← read).session
  return (Names.putAll [] (← storeNames s.uvars)).putAll (← storeNames s.cvars)

def availableNames : Eval (List String) := do
  let fixed := (commonNames ++ sessionNames ++ placeNames).map (·.1) ++ ["ctx"]
  return (fixed ++ (← initialNames).map (·.1)).eraseDups

/-- What a run begins with: the place it is called from, the fight if there is one, and its names. -/
structure Opening where
  ctx : Value
  combat : Value
  names : Names

def makeOpening : Eval Opening := do
  let s := (← read).session
  let ctx ← makeOf perform .aliasContext s.ctx
  let combat ← if ← perform (.truth s.combat) then makeOf perform .combat s.combat else pure .none
  return { ctx := ctx, combat := combat, names := ← initialNames }

def World.opened (w : World) (o : Opening) : World :=
  { w with
    builtins := (((defaultNames.putAll commonNames).putAll sessionNames).putAll placeNames).put "ctx" o.ctx
    scopes := #[o.names], scope := 0, callers := [], layers := #[], inForce := []
    statements := 0, loops := 0, depth := 1, suspended := [], modules := [], importing := []
    session := { w.session with
      stdout := "", combatObject := o.combat, characterObject := none, verified := none } }

def runStatements (last : Value) : List Stmt → Eval Value
  | [] => pure last
  | s :: rest => do
    let flow ← perform (.stmt s)
    refuseLoopControl flow
    match flow with
    | .ret v _ => return v
    | .value v => runStatements v rest
    | _ => runStatements .none rest

def runText : Eval Value := do
  let body ← readScript text
  prefetch (literalGvars text)
  runStatements .none body

def aliasText : String :=
  match parseScript text false with
  | .ok _ => text
  | .error _ => wrapAlias text

def runAlias : Run Value := do
  let o ← makeOpening
  modify fun w => (w.opened o).inText (aliasText text)
  runText (aliasText text)

/-! ## 2. Work that waits -/

def seedGvars (v : Value) : Run Unit := do
  let pairs ← gvarPairs perform v
  modify fun w => pairs.foldl (fun w p => w.putGvar p.1 p.2) w

def resetGvars (v : Value) : Run Unit := do
  modify fun w => { w with gvars := some [] }
  seedGvars v

inductive Job (α : Type) : Type 1 where
  | finished (r : Except Failure α)
  | now {β : Type} (x : Eval β) (next : Except Failure β → Job α)
  | anew (vars : Value) (next : Except Failure Unit → Job α)
  | ready (o : Opening) (text : String) (next : Job α)
  | carry (body : List Stmt) (next : Except Failure Value → Job α)
  | fetch (keys : List String) (next : Report → Job α)
  | rounds (next : Nat → Job α)

namespace Job

def follow {α β : Type} (f : Except Failure α → Job β) : Job α → Job β
  | .finished r => f r
  | .now x next => .now x fun r => (next r).follow f
  | .anew vars next => .anew vars fun r => (next r).follow f
  | .ready o text next => .ready o text (next.follow f)
  | .carry body next => .carry body fun r => (next r).follow f
  | .fetch keys next => .fetch keys fun rs => (next rs).follow f
  | .rounds next => .rounds fun n => (next n).follow f

instance : Monad Job where
  pure a := .finished (.ok a)
  bind x f := x.follow fun
    | .ok a => f a
    | .error e => .finished (.error e)

instance : MonadLift Eval Job where
  monadLift x := .now x .finished

instance : MonadReaderOf World Job where
  read := .now read .finished

instance : Fetching Job where
  stored := do return (← read).gvars
  ensureMany keys := .fetch keys pure
  rounds := .rounds pure

def attempt {α : Type} (x : Job α) : Job (Except Failure α) := x.follow fun r => .finished (.ok r)

def ensure (key : String) : Job Bool := .fetch [key] fun rs => pure (rs.any (·.2))

def statements (keys : List String) (body : List Stmt) : Job Value := do
  prefetch keys
  .carry body .finished

def runAlias (text : String) : Job Value := do
  let o ← makeOpening
  .ready o (aliasText text) do
    let body ← readScript (aliasText text)
    statements (literalGvars (aliasText text)) body

def ended {α : Type} (x : Run α) (w : World) : Except Failure α × World :=
  match x w with
  | .ok a w => (.ok a, w)
  | .error e w => (.error e, w)

def alone {α : Type} : Job α → Run α
  | .finished (.ok a), w => .ok a w
  | .finished (.error e), w => .error e w
  | .now x next, w =>
    let (r, w) := ended x w
    (next r).alone w
  | .anew vars next, w =>
    let (r, w) := ended (resetGvars vars) w
    (next r).alone w
  | .ready o text next, w => next.alone ((w.opened o).inText text)
  | .carry body next, w =>
    let (r, w) := ended (runStatements .none body) w
    (next r).alone w
  | .fetch keys next, w =>
    match (ensureGvars keys).run w with
    | .ok r w => (next r).alone w
    | .error e w => .error e w
  | .rounds next, w => (next w.rounds).alone w

end Job

/-! ## 3. Jobs side by side -/

structure Shared where
  heap : Array Cell
  dice : Dice.Source
  requests : List Request
  gvars : Option Names

variable (w : World)

def World.shared : Shared where
  heap := w.heap
  dice := w.dice
  requests := w.session.requests
  gvars := w.gvars

def World.sharing (s : Shared) : World :=
  { w with
    heap := s.heap, dice := s.dice, gvars := s.gvars
    session := { w.session with requests := s.requests } }

def World.waitsFor (keys : List String) : Bool := w.session.service.canFetch && !(w.missing keys).isEmpty

/-- Take the answer to a request for a variable, whatever the store has by then; gives whether the variable
    counts as there. -/
def receive (key : String) (a : Answer) : Run Bool := fun w =>
  match a.gvar? with
  | none => if w.session.service.silent then .ok true (w.putGvar key .none) else .ok false w
  | some j =>
    match (valueOfJson j).run w with
    | .ok v w => .ok true (w.putGvar key v)
    | .error e w => .error e w

structure Fetch where
  key : String
  sent : Bool := false

/-- What is told of jobs: what becomes of the store, and when statements are carried out. -/
inductive Note where
  | opened (store : Names)
  | took (key : String) (v : Value)
  | carried (body : List Stmt) (before after : World)

inductive Stage (α : Type) : Type 1 where
  | going (job : Job α)
  | waiting (r : Report) (fetches : List Fetch) (next : Report → Job α)
  | finished (r : Except Failure α)

def Job.proceed {α : Type} (n : World → Nat) : Job α → World → Stage α × List Note × World
  | .finished r, w => (.finished r, [], w)
  | .now x next, w =>
    let (r, w) := ended x w
    (next r).proceed n w
  | .anew vars next, w =>
    let (r, w) := ended (resetGvars vars) w
    let (stage, notes, w') := (next r).proceed n w
    (stage, .opened w.store :: notes, w')
  | .ready o text next, w => next.proceed n ((w.opened o).inText text)
  | .carry body next, w =>
    let (r, w') := ended (runStatements .none body) w
    let (stage, notes, w'') := (next r).proceed n w'
    (stage, .carried body w w' :: notes, w'')
  | .fetch keys next, w =>
    if w.waitsFor keys then (.waiting (w.report keys) ((w.missing keys).map fun key => { key := key }) next, [], w)
    else
      match (ensureGvars keys).run w with
      | .ok r w => (next r).proceed n w
      | .error e w => (.finished (.error e), [], w)
  | .rounds next, w => (next (n w)).proceed n w

inductive Act where
  | goOn (rounds : World → Nat)
  | start (place : Nat)
  | answer (place : Nat) (a : Answer)

def Stage.act {α : Type} : Stage α → Act → World → Option (Stage α × List Note × World)
  | .going job, .goOn n, w => some (job.proceed n w)
  | .waiting r [] next, .goOn n, w => some ((next r).proceed n w)
  | .waiting r fetches next, .start i, w =>
    match fetches[i]? with
    | some ⟨key, false⟩ =>
      if w.stores key then some (.waiting (r.note key true) (fetches.eraseIdx i) next, [], w)
      else
        some (.waiting r (fetches.set i ⟨key, true⟩) next, [],
          { w with session := w.session.sent (w.session.service.gvarRequest key) })
    | _ => none
  | .waiting r fetches next, .answer i a, w =>
    match fetches[i]? with
    | some ⟨key, true⟩ =>
      match receive key a w with
      | .ok there w =>
        some (.waiting (r.note key there) (fetches.eraseIdx i) next,
          if there then ((w.store.get? key).map (Note.took key)).toList else [], w)
      | .error _ _ => none
    | _ => none
  | _, _, _ => none

structure Party (α : Type) where
  own : World
  stage : Stage α

structure Pool (α : Type) where
  shared : Shared
  parties : List (Party α)

structure Move where
  place : Nat
  act : Act

namespace Pool

variable {α : Type} (pool : Pool α)

def of (shared : Shared) (jobs : List (World × Job α)) : Pool α where
  shared := shared
  parties := jobs.map fun (w, job) => { own := w, stage := .going job }

def step (move : Move) : Option (Pool α × List Note) := do
  let party ← pool.parties[move.place]?
  let (stage, notes, w) ← party.stage.act move.act (party.own.sharing pool.shared)
  return ({ shared := w.shared, parties := pool.parties.set move.place { own := w, stage := stage } }, notes)

def play : Pool α → List Move → Option (Pool α × List Note)
  | pool, [] => some (pool, [])
  | pool, move :: moves => do
    let (pool, notes) ← pool.step move
    let (pool, more) ← pool.play moves
    return (pool, notes ++ more)

def store : Names := pool.shared.gvars.getD []

def result? (place : Nat) : Option (Except Failure α) :=
  match pool.parties[place]? with
  | some { stage := .finished r, .. } => some r
  | _ => none

end Pool

end AliasTools.Script
