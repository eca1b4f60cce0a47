import SubjectMerge.Http.MediaType
import SubjectMerge.Wire

/-! Requests and responses, as far as the service reads and gives them. -/

namespace SubjectMerge.Http

structure Request where
  method : String
  /-- Path and query as they were sent. -/
  target : String
  contentType : Option String := none
  /-- A text of at most the two mebibytes that the server takes for JSON. Longer bodies, which it refuses where it
  reads them, and bytes that are no text are left out. -/
  body : String := ""
  deriving DecidableEq, Repr

/-- The body read as JSON. It must be declared as JSON and have the right form. -/
def Request.content? {α : Type} (request : Request) (format : Format α) : Option α := do
  let mediaType ← MediaType.ofHeader? (← request.contentType)
  if mediaType.isJson then (format.decode request.body).toOption else none

inductive Body where
  /-- JSON text. -/
  | json (text : String)
  | plain (text : String)
  deriving DecidableEq, Repr

structure Response where
  status : Nat
  body : Body
  deriving DecidableEq, Repr

namespace Response

/-- A refusal that says nothing further. -/
def refusal (status : Nat) : Response := ⟨status, .plain ""⟩

def ok {α : Type} (format : Format α) (a : α) : Response := ⟨200, .json (format.encode a)⟩

def notFound (reason : String) : Response := ⟨404, .plain reason⟩

end Response

end SubjectMerge.Http
