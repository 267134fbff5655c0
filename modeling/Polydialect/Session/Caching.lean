import Polydialect.Cache.Codec
import Polydialect.Query.Basic
import Polydialect.Session.Basic

/-! # The cache in a session

An operation first settles what its query asks of the cache: a key to invalidate is removed at once,
whether or not the statement succeeds later. A read through the cache is answered from it when the
entry can be read, and else loads the result and stores it.
-/

namespace Polydialect.Caching

/-- A call of the cache, noted with its result; a cache that refuses fails. -/
def call {α : Type} (c : CacheCall) (work : Nat → Cache.Memory → α × Cache.Memory)
    (event : α → Event) (m : Cache.Memory) : Run α := do
  if (← get).cacheRefuses then
    modify (Session.note (.cacheFailed c))
    throw (.cache (.refused c.name))
  else
    let r := work (← Run.uptime) m
    modify fun s => { s with cache := some r.2 }.note (event r.1)
    return r.1

/-- The text under a key; without a cache there is none. -/
def get (key : String) : Run (Option String) := do
  match (← MonadState.get).cache with
  | none => return none
  | some m => call .get (fun now m => m.lookup now key) (.cacheGet key) m

/-- Stores a text under a key. -/
def set (key text : String) (policy : Cache.Policy) : Run Unit := do
  match (← MonadState.get).cache with
  | none => return ()
  | some m =>
    call .set (fun now m => ((), m.store now key text policy))
      (fun _ => .cacheSet key text policy) m

/-- Removes a key. -/
def remove (key : String) : Run Unit := do
  match (← MonadState.get).cache with
  | none => return ()
  | some m => call .remove (fun _ m => ((), m.remove key)) (fun _ => .cacheRemove key) m

/-- Splits off what a query asks of the cache. A key to invalidate is removed; a read through the
cache is left to `readThrough`. -/
def prepare (q : Query) : Run (Query × Option Cache.Directive) := do
  match q.caching with
  | some ⟨.invalidate, key, _⟩ =>
    remove key
    return (q.clearCaching, none)
  | directive => return (q.clearCaching, directive)

/-- The result under a key, if its entry is there and can be read. -/
def find {α : Type} (codec : Cache.Codec α) (key : String) : Run (Option α) := do
  return (← get key).bind fun text => (codec.decode text).toOption

/-- Stores a result under a key, unless it is not to be cached. -/
def keep {α : Type} (codec : Cache.Codec α) (key : String) (policy : Cache.Policy) (a : α) :
    Run Unit :=
  match codec.encode a with
  | some text => set key text policy
  | none => return ()

/-- Loads a result and stores it. -/
def load {α : Type} (codec : Cache.Codec α) (key : String) (policy : Cache.Policy) (loader : Run α) :
    Run α := do
  let a ← loader
  keep codec key policy a
  return a

/-- The result for a directive, and whether the loader has run. -/
def serve {α : Type} (codec : Cache.Codec α) (directive : Option Cache.Directive)
    (loader : Run α) : Step (Except Error α × Bool) := do
  match directive with
  | some ⟨.readThrough, key, policy⟩ =>
    match ← (find codec key).attempt with
    | .error e => return (.error e, false)
    | .ok (some a) => return (.ok a, false)
    | .ok none => return (← (load codec key policy loader).attempt, true)
  | _ => return (← loader.attempt, true)

/-- The result for a directive. -/
def readThrough {α : Type} (codec : Cache.Codec α) (directive : Option Cache.Directive)
    (loader : Run α) : Run α :=
  ExceptT.mk do return (← serve codec directive loader).1

/-- Settles what a query asks of the cache and reads through it. -/
def cached {α : Type} (codec : Cache.Codec α) (q : Query) (loader : Query → Run α) : Run α := do
  let (q, directive) ← prepare q
  readThrough codec directive (loader q)

end Polydialect.Caching
