import SubjectMerge.Http.Message
import SubjectMerge.Http.Route
import SubjectMerge.Preview

/-! The service: the registry behind its HTTP hooks, and the background jobs. The two hooks on the way
of a message never hold it back: whatever goes wrong, the recipient is eligible and the message comes
back, if need be as it was. -/

namespace SubjectMerge

open Http (Request Response Route)

structure Service where
  policy : Policy
  registry : Registry := .empty
  board : JobBoard := .empty
  /-- Previews asked for that have not run, by their jobs, oldest first. -/
  waiting : List (String × Preview) := []

namespace Service

structure Reply where
  response : Response
  service : Service
  lookups : Nat := 0

/-- Starts a campaign under a fresh id. -/
def start (service : Service) (around : Surroundings) (fresh : String) (request : Request) : Reply :=
  match request.content? StartRequest.format with
  | none => { response := .refusal 400, service }
  | some { subject } =>
    match service.registry.start service.policy around.store fresh subject with
    | .error e => { response := ⟨503, .plain e.message⟩, service }
    | .ok (tokens, registry) =>
      { response := .ok StartResponse.format ⟨fresh, tokens⟩, service := { service with registry } }

def jobStatus (service : Service) (job : String) : Reply :=
  match service.board.get? job with
  | none => { response := .notFound "Job ID not found", service }
  | some status => { response := .ok JobStatus.format status, service }

def summary (service : Service) (id : String) : Reply :=
  match service.registry.summary? id with
  | none => { response := .notFound "Campaign ID not found", service }
  | some summary => { response := .ok Summary.format summary, service }

def finish (service : Service) (id : String) : Reply :=
  match service.registry.finish id with
  | .error e => { response := .notFound e.message, service }
  | .ok registry => { response := ⟨204, .plain ""⟩, service := { service with registry } }

def eligible (service : Service) (around : Surroundings) (id recipient : String) : Reply :=
  let eligibility := service.registry.eligible around id recipient
  let eligible := match eligibility.answer with
    | .ok eligible => eligible
    | .error _ => true
  { response := .ok EligibilityResponse.format { eligible }
    service := { service with registry := eligibility.registry }
    lookups := eligibility.lookups }

def finalize (service : Service) (id : String) (request : Request) : Reply :=
  match request.content? Message.format with
  | none => { response := .refusal 400, service }
  | some message => match service.registry.finalize id message with
    | .error _ => { response := .ok Message.format message, service }
    | .ok (message, registry) =>
      { response := .ok Message.format message, service := { service with registry } }

/-- The answer that names a job. -/
def jobTicket (job : String) : Json.Value := .object [("job_id", .text job)]

/-- Puts a preview on the list under a fresh job. -/
def preview (service : Service) (fresh id : String) : Reply :=
  match service.registry.get? id with
  | none => { response := .notFound "Campaign ID not found", service }
  | some campaign =>
    { response := ⟨200, .json (jobTicket fresh).write⟩
      service := { service with
        board := service.board.apply ⟨fresh, .pending⟩
        waiting := service.waiting ++ [(fresh, campaign.preview)] } }

/-- Answers one request. `fresh` is an id that was never given out. -/
def handle (service : Service) (around : Surroundings) (fresh : String) (request : Request) : Reply :=
  match Route.find? request.method request.target with
  | none => { response := .refusal 404, service }
  | some .start => service.start around fresh request
  | some (.jobStatus job) => service.jobStatus job
  | some (.summary id) => service.summary id
  | some (.finish id) => service.finish id
  | some (.eligible id recipient) => service.eligible around id recipient
  | some (.finalize id) => service.finalize id request
  | some (.preview id) => service.preview fresh id

/-- Runs the oldest preview that waits; the answer counts its lookups. -/
def runPreview (service : Service) (around : Surroundings) : Service × Nat :=
  match service.waiting with
  | [] => (service, 0)
  | (job, preview) :: waiting =>
    let (statuses, lookups) := preview.statuses around.store
    let registry := if lookups = 0 then service.registry else around.meanwhile service.registry
    ({ service with
        registry, waiting
        board := service.board.drain (statuses.map fun status => ⟨job, status⟩) }, lookups)

end Service

end SubjectMerge
