import Runesmith.Json.Parser

/-!
# Requests over HTTP

The two kinds of requests that are made, and what comes back. A transport is a record of functions
in some monad, so the same clients run over a network, over a script of replies, or over a model.
-/

namespace Runesmith.Http

/-- A reply with a status and a body. -/
structure Response where
  status : Int
  body : String
deriving DecidableEq, Repr

/-- Statuses from 400 to 599 report a failure. -/
def Response.isOk (response : Response) : Bool :=
  response.status < 400 || 600 ≤ response.status

/-- The body as a document. -/
def Response.json? (response : Response) : Option Json :=
  Json.parse? response.body

/-- A request for a document of the index. -/
structure Query where
  url : String
  /-- The kind of answer that is accepted. -/
  accept : String
  /-- In seconds. -/
  timeout : Nat

/-- A call of a procedure of the node, with the caller's name and password. -/
structure Call where
  url : String
  method : String
  params : Json
  user : Json
  password : Json
  /-- In seconds. -/
  timeout : Nat

/-- The body of a call, under an identifier that the reply repeats. -/
def Call.body (call : Call) (id : String) : Json :=
  .obj [("jsonrpc", .str "1.0"), ("id", .str id), ("method", .str call.method),
    ("params", call.params)]

/-- Something that carries requests; no response means that no connection was made. -/
structure Transport (m : Type → Type) where
  get : Query → m (Option Response)
  post : Call → m (Option Response)
  /-- Waits for so many seconds. -/
  sleep : Binary64 → m Unit

/-- The same transport in a larger monad. -/
def Transport.lift {m n : Type → Type} [MonadLiftT m n] (transport : Transport m) : Transport n :=
  ⟨fun query => liftM (transport.get query), fun call => liftM (transport.post call),
    fun seconds => liftM (transport.sleep seconds)⟩

end Runesmith.Http
