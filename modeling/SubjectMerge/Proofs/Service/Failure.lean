import SubjectMerge.Proofs.Registry.Schedule
import SubjectMerge.Proofs.Service.Requests

/-! What comes to nothing leaves nothing behind. An operation that fails, a lookup that crashes and a request
that is refused leave the campaigns, what is parked for their recipients and the jobs as they were, and no
recipient is looked up for them but the one whose lookup crashes. -/

namespace SubjectMerge

open Http (Request Response Route)

/-- A status that tells of success. -/
def Http.Response.Succeeds (response : Response) : Prop := 200 ≤ response.status ∧ response.status < 300

/-- The operation came to nothing. -/
def Answer.failed : Answer → Bool
  | .started (.error _) | .eligible (.error _) | .finalized (.error _) | .finished (.error _)
  | .summary none => true
  | .started (.ok _) | .eligible (.ok _) | .finalized (.ok _) | .finished (.ok _)
  | .summary (some _) => false

/-- Why an operation comes to nothing: a start for want of a directory that the policy insists on, any other
for want of the campaign. -/
def Operation.Fails (policy : Policy) (store : Store) (registry : Registry) : Operation → Prop
  | .start _ _ => policy = .surface ∧ ∃ e, store.names = .error e
  | .eligible id _ | .finalize id _ | .finish id | .summary id => registry.get? id = none

/-- The same surroundings with other answers to lookups of recipients. -/
def Surroundings.withLookUp (around : Surroundings) (lookUp : String → Lookup) : Surroundings :=
  { around with store := { around.store with lookUp } }

theorem Campaign.directory_eq_error_iff {policy : Policy} {store : Store} {e : StoreError} :
    directory policy store = .error e ↔ policy = .surface ∧ store.names = .error e := by
  unfold directory
  cases store.names <;> cases policy <;> simp

/-- Where a directory is had, none was missing that the policy insists on. -/
theorem Campaign.not_surface_of_directory_eq_ok {policy : Policy} {store : Store} {names : List String}
    (h : directory policy store = .ok names) : ¬ (policy = .surface ∧ ∃ e, store.names = .error e) := by
  rintro ⟨surface, e, failed⟩
  have missing := directory_eq_error_iff.2 ⟨surface, failed⟩
  rw [h] at missing
  cases missing

namespace Registry

variable (policy : Policy) (around : Surroundings) (registry : Registry) (operation : Operation)

theorem failed_carryOut_iff :
    (registry.carryOut policy around operation).answer.failed ↔
      operation.Fails policy around.store registry := by
  cases operation with
  | start id subject =>
    simp only [carryOut, perform, start_eq, Operation.Fails]
    cases hdir : Campaign.directory policy around.store with
    | error e =>
      obtain ⟨hpolicy, hnames⟩ := Campaign.directory_eq_error_iff.1 hdir
      simp [Answer.failed, hpolicy, hnames]
    | ok names =>
      simp only [Answer.failed, Bool.false_eq_true, false_iff]
      exact Campaign.not_surface_of_directory_eq_ok hdir
  | eligible id recipient =>
    simp only [carryOut, eligible_amid_eq, Operation.Fails]
    cases registry.get? id with
    | none => simp [Answer.failed]
    | some campaign =>
      simp only [reduceCtorEq, iff_false]
      split
      · simp [Answer.failed]
      · split <;> simp [Answer.failed]
  | finalize id message =>
    simp only [carryOut, perform, finalize_eq, Operation.Fails]
    cases registry.get? id <;> simp [Answer.failed]
  | finish id =>
    simp only [carryOut, perform, finish_eq, Operation.Fails]
    cases registry.get? id <;> simp [Answer.failed]
  | summary id =>
    simp only [carryOut, perform, summary?, Operation.Fails]
    cases registry.get? id <;> simp [Answer.failed]

variable {policy around registry operation}

/-- What fails changes no campaign and looks no recipient up. -/
theorem carryOut_of_failed (failed : (registry.carryOut policy around operation).answer.failed) :
    (registry.carryOut policy around operation).registry = registry ∧
      (registry.carryOut policy around operation).lookups = 0 := by
  have fails := (failed_carryOut_iff policy around registry operation).1 failed
  cases operation with
  | start id subject =>
    obtain ⟨hpolicy, e, hnames⟩ := fails
    have hdir := Campaign.directory_eq_error_iff.2 ⟨hpolicy, hnames⟩
    simp [carryOut, perform, start_eq, hdir]
  | eligible id recipient =>
    have unknown : registry.get? id = none := fails
    simp [carryOut, eligible_amid_eq, unknown]
  | finalize id message =>
    have unknown : registry.get? id = none := fails
    simp [carryOut, perform, finalize_eq, unknown]
  | finish id =>
    have unknown : registry.get? id = none := fails
    simp [carryOut, perform, finish_eq, unknown]
  | summary id => exact ⟨rfl, rfl⟩

/-- The lookup of another recipient plays no part in an operation, nor does any lookup where the campaign is
unknown. -/
theorem carryOut_withLookUp {lookUp : String → Lookup}
    (agree : ∀ id recipient, operation = .eligible id recipient →
      registry.get? id = none ∨ lookUp recipient = around.store.lookUp recipient) :
    registry.carryOut policy (around.withLookUp lookUp) operation =
      registry.carryOut policy around operation := by
  cases operation with
  | start id subject => rfl
  | eligible id recipient =>
    simp only [carryOut, eligible_amid_eq]
    cases hget : registry.get? id with
    | none => rfl
    | some campaign =>
      have hlook : lookUp recipient = around.store.lookUp recipient := by
        simpa [hget] using agree id recipient rfl
      simp only [Surroundings.withLookUp, Store.resolve, hlook]
  | finalize id message => rfl
  | finish id => rfl
  | summary id => rfl

theorem carryOut_withLookUp_of_failed (failed : (registry.carryOut policy around operation).answer.failed)
    (lookUp : String → Lookup) :
    registry.carryOut policy (around.withLookUp lookUp) operation =
      registry.carryOut policy around operation := by
  refine carryOut_withLookUp ?_
  rintro id recipient rfl
  exact Or.inl ((failed_carryOut_iff policy around registry (.eligible id recipient)).1 failed)

/-- A crashed lookup parks nothing, whatever happens to the registry meanwhile. -/
theorem carryOut_of_crashed {id recipient words : String} {campaign : Campaign}
    (running : registry.get? id = some campaign) (tokens : campaign.table.isEmpty = false)
    (crashed : around.store.lookUp recipient = .crashed words) :
    registry.carryOut policy around (.eligible id recipient) =
      ⟨.eligible (.ok true), around.meanwhile registry, 1⟩ := by
  simp [carryOut, eligible_amid_eq, running, tokens, Store.resolve_eq, crashed]

/-- Carried out alone an operation is a call. -/
theorem carryOut_alone (store : Store) :
    registry.carryOut policy { store } operation = registry.perform policy ⟨store, operation⟩ := by
  cases operation <;> rfl

end Registry

/-- Also among requests that overlap, one that fails leaves all as it was. -/
theorem System.step_of_failed {policy : Policy} {system : System} {move : Move} {answer : Answer}
    (answered : (system.step policy move).1 = some answer) (failed : answer.failed) :
    (system.step policy move).2 = system := by
  have whole {operation : Operation}
      (h : (system.perform policy ⟨move.store, operation⟩).1 = some answer) :
      (system.perform policy ⟨move.store, operation⟩).2 = system := by
    obtain rfl := Option.some.inj h
    rw [← Registry.carryOut_alone] at failed
    have same := (Registry.carryOut_of_failed failed).1
    rw [Registry.carryOut_alone] at same
    simp [perform, same]
  obtain ⟨store, step⟩ := move
  cases step with
  | start id subject => exact whole answered
  | finish id => exact whole answered
  | finalize id message => exact whole answered
  | summary id => exact whole answered
  | snapshot inquiry =>
    simp only [System.step, snapshot] at answered ⊢
    split at answered
    · cases answered
    · rfl
    · split at answered
      · cases answered
        cases failed
      · cases answered
  | lookUp inquiry =>
    simp only [System.step, lookUp] at answered
    repeat' split at answered
    all_goals cases answered
    cases failed
  | park inquiry =>
    simp only [System.step, park] at answered
    split at answered
    all_goals cases answered
    cases failed

namespace Service

/-- Why a request is refused, and what is said to it. -/
inductive Refused (service : Service) (store : Store) (request : Request) : Response → Prop
  | unrouted (route : Route.find? request.method request.target = none) :
    Refused service store request (.refusal 404)
  | unread (route : Route.find? request.method request.target = some .start)
      (read : request.content? StartRequest.format = none) : Refused service store request (.refusal 400)
  | unreadMessage (id : String) (route : Route.find? request.method request.target = some (.finalize id))
      (read : request.content? Message.format = none) : Refused service store request (.refusal 400)
  | undirected (body : StartRequest) (route : Route.find? request.method request.target = some .start)
      (read : request.content? StartRequest.format = some body) (surface : service.policy = .surface)
      (e : StoreError) (names : store.names = .error e) :
    Refused service store request ⟨503, .plain (CampaignError.directory e).message⟩
  | unknownJob (job : String) (route : Route.find? request.method request.target = some (.jobStatus job))
      (unknown : service.board.get? job = none) :
    Refused service store request (.notFound "Job ID not found")
  | unshown (id : String) (route : Route.find? request.method request.target = some (.summary id))
      (unknown : service.registry.get? id = none) :
    Refused service store request (.notFound "Campaign ID not found")
  | unfinished (id : String) (route : Route.find? request.method request.target = some (.finish id))
      (unknown : service.registry.get? id = none) :
    Refused service store request (.notFound (CampaignError.notFound id).message)
  | unpreviewed (id : String) (route : Route.find? request.method request.target = some (.preview id))
      (unknown : service.registry.get? id = none) :
    Refused service store request (.notFound "Campaign ID not found")

variable {service : Service} {around : Surroundings} {fresh : String} {request : Request}

theorem not_succeeds_of_refused {store : Store} {response : Response}
    (h : Refused service store request response) : ¬ response.Succeeds := by
  cases h <;> simp [Response.Succeeds, Response.refusal, Response.notFound]

/-- Of all that a store can be asked, only its directory is a reason for a refusal. -/
theorem Refused.congr {store store' : Store} {response : Response} (h : Refused service store request response)
    (names : store.names = store'.names) : Refused service store' request response := by
  cases h with
  | unrouted route => exact .unrouted route
  | unread route read => exact .unread route read
  | unreadMessage id route read => exact .unreadMessage id route read
  | undirected body route read surface e failed =>
    exact .undirected body route read surface e (names.symm.trans failed)
  | unknownJob job route unknown => exact .unknownJob job route unknown
  | unshown id route unknown => exact .unshown id route unknown
  | unfinished id route unknown => exact .unfinished id route unknown
  | unpreviewed id route unknown => exact .unpreviewed id route unknown

/-- A request that is refused is answered so, and nothing else comes of it. -/
theorem handle_of_refused {response : Response} (h : Refused service around.store request response) :
    service.handle around fresh request = { response, service } := by
  unfold handle
  cases h with
  | unrouted route => rw [route]
  | unread route read => simp [route, start, read]
  | unreadMessage id route read => simp [route, finalize, read]
  | undirected body route read surface e names =>
    have hdir := Campaign.directory_eq_error_iff.2 ⟨surface, names⟩
    simp [route, start, read, Registry.start_eq, hdir]
  | unknownJob job route unknown => simp [route, jobStatus, unknown]
  | unshown id route unknown => simp [route, summary, Registry.summary?, unknown]
  | unfinished id route unknown => simp [route, finish, Registry.finish_eq, unknown]
  | unpreviewed id route unknown => simp [route, preview, unknown]

/-- There are no other reasons not to succeed. -/
theorem exists_refused (h : ¬ (service.handle around fresh request).response.Succeeds) :
    ∃ response, Refused service around.store request response := by
  unfold handle at h
  cases route : Route.find? request.method request.target with
  | none => exact ⟨_, .unrouted route⟩
  | some asked =>
    rw [route] at h
    cases asked with
    | start =>
      simp only [start] at h
      cases read : request.content? StartRequest.format with
      | none => exact ⟨_, .unread route read⟩
      | some body =>
        cases hdir : Campaign.directory service.policy around.store with
        | error e =>
          obtain ⟨surface, names⟩ := Campaign.directory_eq_error_iff.1 hdir
          exact ⟨_, .undirected body route read surface e names⟩
        | ok names => simp [read, Registry.start_eq, hdir, Response.ok, Response.Succeeds] at h
    | jobStatus job =>
      cases unknown : service.board.get? job with
      | none => exact ⟨_, .unknownJob job route unknown⟩
      | some status => simp [jobStatus, unknown, Response.ok, Response.Succeeds] at h
    | summary id =>
      cases unknown : service.registry.get? id with
      | none => exact ⟨_, .unshown id route unknown⟩
      | some campaign => simp [summary, Registry.summary?, unknown, Response.ok, Response.Succeeds] at h
    | finish id =>
      cases unknown : service.registry.get? id with
      | none => exact ⟨_, .unfinished id route unknown⟩
      | some campaign => simp [finish, Registry.finish_eq, unknown, Response.Succeeds] at h
    | eligible id recipient => simp [eligible, Response.ok, Response.Succeeds] at h
    | finalize id =>
      cases read : request.content? Message.format with
      | none => exact ⟨_, .unreadMessage id route read⟩
      | some message =>
        simp only [finalize, read, Registry.finalize_eq] at h
        cases hget : service.registry.get? id <;> simp [hget, Response.ok, Response.Succeeds] at h
    | preview id =>
      cases unknown : service.registry.get? id with
      | none => exact ⟨_, .unpreviewed id route unknown⟩
      | some campaign => simp [preview, unknown, Response.Succeeds] at h

theorem refused_iff {response : Response} :
    Refused service around.store request response ↔
      (service.handle around fresh request).response = response ∧ ¬ response.Succeeds := by
  constructor
  · intro h
    exact ⟨by rw [handle_of_refused h], not_succeeds_of_refused h⟩
  · rintro ⟨rfl, h⟩
    obtain ⟨response, refused⟩ := exists_refused h
    rw [handle_of_refused refused]
    exact refused

/-- What fails leaves the service intact. -/
structure Intact (service : Service) : Prop where
  /-- An operation fails only for its one reason, -/
  fails : ∀ around operation, (service.registry.carryOut service.policy around operation).answer.failed ↔
    operation.Fails service.policy around.store service.registry
  /-- and then it changes no campaign and asks for no recipient's values. -/
  failed : ∀ around operation, (service.registry.carryOut service.policy around operation).answer.failed →
    (service.registry.carryOut service.policy around operation).registry = service.registry ∧
    (service.registry.carryOut service.policy around operation).lookups = 0 ∧
    ∀ lookUp, service.registry.carryOut service.policy (around.withLookUp lookUp) operation =
      service.registry.carryOut service.policy around operation
  /-- The same goes for requests in the midst of others, -/
  failedAmid : ∀ underway move answer,
    (System.step service.policy ⟨service.registry, underway⟩ move).1 = some answer → answer.failed →
      (System.step service.policy ⟨service.registry, underway⟩ move).2 = ⟨service.registry, underway⟩
  /-- and for a lookup that crashes: it ends its inquiry, and there is nothing left to park. -/
  crashedAmid : ∀ underway inquiry table store words, underway inquiry = some (.copied table) →
    (Store.resolve store table inquiry.recipient).bound = .error words →
      (System.step service.policy ⟨service.registry, underway⟩ ⟨store, .lookUp inquiry⟩).2.registry =
        service.registry ∧
      (System.step service.policy ⟨service.registry, underway⟩ ⟨store, .lookUp inquiry⟩).2.underway inquiry =
        none
  /-- A request is refused for one of a few reasons, and told so, -/
  refused : ∀ around fresh request response, Refused service around.store request response ↔
    (service.handle around fresh request).response = response ∧ ¬ response.Succeeds
  /-- and whatever it was, one that does not succeed changes neither campaigns nor jobs and asks for no
  recipient's values. -/
  unsuccessful : ∀ around fresh request, ¬ (service.handle around fresh request).response.Succeeds →
    (service.handle around fresh request).service = service ∧
    (service.handle around fresh request).lookups = 0 ∧
    ∀ lookUp, service.handle (around.withLookUp lookUp) fresh request = service.handle around fresh request
  /-- A message of an unknown campaign comes back unchanged, -/
  unknownFinalize : ∀ around fresh request id message,
    request.operation? fresh = some (.finalize id message) → service.registry.get? id = none →
      service.handle around fresh request = { response := .ok Message.format message, service }
  /-- and a recipient of one is eligible without a lookup. -/
  unknownEligible : ∀ around fresh request id recipient,
    request.operation? fresh = some (.eligible id recipient) → service.registry.get? id = none →
      service.handle around fresh request = { response := .ok EligibilityResponse.format ⟨true⟩, service }
  /-- Where a lookup crashes, nothing changes but what changes meanwhile, and nobody else is looked up. -/
  crashed : ∀ around fresh request id recipient campaign words,
    request.operation? fresh = some (.eligible id recipient) → service.registry.get? id = some campaign →
    campaign.table.isEmpty = false → Store.lookUp around.store recipient = .crashed words →
      service.handle around fresh request =
        { response := .ok EligibilityResponse.format ⟨true⟩
          service := { service with registry := around.meanwhile service.registry }
          lookups := 1 } ∧
      ∀ lookUp, lookUp recipient = Store.lookUp around.store recipient →
        service.handle (around.withLookUp lookUp) fresh request = service.handle around fresh request

/-- The reply to a request is told by the outcome of the operation it asks for. -/
theorem handle_eq_of_outcome {operation : Operation} {outcome : Outcome}
    (asked : request.operation? fresh = some operation)
    (carried : service.registry.carryOut service.policy around operation = outcome) {response : Response}
    (told : ∀ response', Told operation outcome.answer response' → response' = response) :
    service.handle around fresh request =
      { response, service := { service with registry := outcome.registry }, lookups := outcome.lookups } := by
  have carries := service.carries_handle around asked
  rw [← told _ (carried ▸ carries.told), ← carried, ← carries.after, ← carries.lookups]

theorem handle_of_crashed {id recipient words : String} {campaign : Campaign}
    (asked : request.operation? fresh = some (.eligible id recipient))
    (running : service.registry.get? id = some campaign) (tokens : campaign.table.isEmpty = false)
    (crashed : around.store.lookUp recipient = .crashed words) :
    service.handle around fresh request =
      { response := .ok EligibilityResponse.format ⟨true⟩
        service := { service with registry := around.meanwhile service.registry }
        lookups := 1 } := by
  refine handle_eq_of_outcome asked (Registry.carryOut_of_crashed running tokens crashed) ?_
  intro response told
  cases told
  rfl

theorem intact (service : Service) : Intact service where
  fails around operation := service.registry.failed_carryOut_iff service.policy around operation
  failed around operation failed :=
    ⟨(Registry.carryOut_of_failed failed).1, (Registry.carryOut_of_failed failed).2,
      Registry.carryOut_withLookUp_of_failed failed⟩
  failedAmid underway move answer answered failed := System.step_of_failed answered failed
  crashedAmid underway inquiry table store words copied crashed := by
    simp [System.step, System.lookUp, copied, crashed, System.advance]
  refused around fresh request response := refused_iff
  unsuccessful around fresh request h := by
    obtain ⟨response, refused⟩ := exists_refused h
    refine ⟨by rw [handle_of_refused refused], by rw [handle_of_refused refused], fun lookUp => ?_⟩
    have same : Refused service (around.withLookUp lookUp).store request response := refused.congr rfl
    rw [handle_of_refused same, handle_of_refused refused]
  unknownFinalize around fresh request id message asked unknown := by
    have carried : service.registry.carryOut service.policy around (.finalize id message) =
        ⟨.finalized (.error (.notFound id)), service.registry, 0⟩ := by
      simp [Registry.carryOut, Registry.perform, Registry.finalize_eq, unknown]
    refine handle_eq_of_outcome asked carried ?_
    intro response told
    cases told
    rfl
  unknownEligible around fresh request id recipient asked unknown := by
    have carried : service.registry.carryOut service.policy around (.eligible id recipient) =
        ⟨.eligible (.error (.notFound id)), service.registry, 0⟩ := by
      simp [Registry.carryOut, Registry.eligible_amid_eq, unknown]
    refine handle_eq_of_outcome asked carried ?_
    intro response told
    cases told
    rfl
  crashed around fresh request id recipient campaign words asked running tokens crashed := by
    refine ⟨handle_of_crashed asked running tokens crashed, fun lookUp agree => ?_⟩
    have same : (around.withLookUp lookUp).store.lookUp recipient = .crashed words := agree.trans crashed
    rw [handle_of_crashed asked running tokens same, handle_of_crashed asked running tokens crashed]
    rfl

end Service

end SubjectMerge
