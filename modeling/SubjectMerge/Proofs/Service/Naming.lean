import SubjectMerge.Proofs.Http.Routes
import SubjectMerge.Proofs.Service.Kept
import SubjectMerge.Proofs.Wire

/-! One recipient in two spellings. An eligibility request has the ids of a campaign and a recipient in its path, and
the request that finalizes the recipient's message has the recipient's id in its body. Whatever characters the ids
are made of, the table that the one parks is the table that the other finds, and no other id comes to it. -/

namespace SubjectMerge

open Http (Request Response Route)

/-- The values that a lookup gives; one that fails gives none. -/
inductive Lookup.Gives : Lookup → Values → Prop where
  | found (values : Values) : Gives (.found values) values
  | failed (error : StoreError) : Gives (.failed error) .empty

theorem Lookup.exists_gives {lookup : Lookup} (unbroken : ∀ words, lookup ≠ .crashed words) :
    ∃ values, lookup.Gives values := by
  cases lookup with
  | found values => exact ⟨values, .found values⟩
  | failed error => exact ⟨.empty, .failed error⟩
  | crashed words => exact absurd rfl (unbroken words)

theorem Store.resolve_of_gives {store : Store} {table : Table} (tokens : table.isEmpty = false) {recipient : String}
    {values : Values} (gives : (store.lookUp recipient).Gives values) :
    (store.resolve table recipient).bound = .ok (table.bind values) := by
  rw [resolve_eq tokens]
  generalize store.lookUp recipient = lookup at gives
  cases gives <;> rfl

/-- What is kept for one recipient has no say in the messages of others. -/
theorem Campaign.fst_finalize_park {recipient : String} {message : Message} (apart : message.recipientId ≠ recipient)
    (campaign : Campaign) (bound : Table) :
    ((campaign.park recipient bound).finalize message).1 = (campaign.finalize message).1 := by
  have htable : (campaign.park recipient bound).tableFor message.recipientId =
      campaign.tableFor message.recipientId := by
    rw [tableFor, tableFor, get?_parked_park, if_neg apart]
    rfl
  rw [fst_finalize, fst_finalize, htable]
  rfl

namespace Http.Request

/-- The request asks about a recipient of a campaign, with every byte of both ids escaped. -/
structure AsksEligible (request : Request) (id recipient : String) : Prop where
  method : request.method = "POST"
  target : NamesRecipient request.target id recipient

/-- The request gives the campaign a message to finalize. The body may be any JSON that reads as the message. -/
structure AsksFinalize (request : Request) (id : String) (message : Message) : Prop where
  method : request.method = "POST"
  target : NamesFinalize request.target id
  content : request.content? Message.format = some message

variable {request : Request} {id : String} (fresh : String)

theorem AsksEligible.operation?_eq {recipient : String} (asks : request.AsksEligible id recipient) (hid : id ≠ "")
    (hrecipient : recipient ≠ "") : request.operation? fresh = some (.eligible id recipient) := by
  rw [operation?, asks.method, find?_of_namesRecipient asks.target hid hrecipient]

theorem AsksFinalize.operation?_eq {message : Message} (asks : request.AsksFinalize id message) (hid : id ≠ "") :
    request.operation? fresh = some (.finalize id message) := by
  rw [operation?, asks.method, find?_of_namesFinalize asks.target hid]
  simp only [asks.content, Option.map_some]

/-- A message's own JSON reads as the message. -/
theorem content?_of_encode {α : Type} {format : Format α} (faithful : format.Faithful) {a : α}
    (json : request.contentType = some "application/json") (body : request.body = format.encode a) :
    request.content? format = some a := by
  have media : MediaType.ofHeader? "application/json" = some ⟨"application", "json", none⟩ := by decide
  have isJson : MediaType.isJson ⟨"application", "json", none⟩ = true := by decide
  simp [content?, json, media, isJson, body, faithful.roundTrips a, Except.toOption, bind, Option.bind]

theorem exists_asksFinalize (id : String) (message : Message) :
    ∃ request : Request, request.AsksFinalize id message ∧ request.body = Message.format.encode message := by
  obtain ⟨target, htarget⟩ := exists_namesFinalize id
  exact ⟨⟨"POST", target, some "application/json", Message.format.encode message⟩,
    ⟨rfl, htarget, content?_of_encode Message.faithful rfl rfl⟩, rfl⟩

end Http.Request

namespace Service

/-- Two requests agree on a table that is kept for a recipient of a campaign. -/
structure NamesAlike (before : Registry) (id recipient : String) (table : Table) (service : Service) : Prop where
  /-- The table is kept for this recipient of this campaign, -/
  parked : service.registry.parkedFor id recipient = some table
  /-- and it is the only one that was put anywhere. -/
  others : ∀ id' recipient', ¬ (id' = id ∧ recipient' = recipient) →
    service.registry.parkedFor id' recipient' = before.parkedFor id' recipient'
  /-- The recipient's next message is filled in from it, whatever happens to others until then. -/
  finalized : ∀ later, (∀ event ∈ later, Spares id recipient event) → ∀ around fresh (request : Request) text,
    request.operation? fresh = some (.finalize id ⟨recipient, text⟩) →
      ((service.after later).handle around fresh request).response =
        .ok Message.format ⟨recipient, table.fill text⟩
  /-- It may be given at the escaped path, in any JSON that reads as the message, -/
  given : ∀ fresh (request : Request) message, request.AsksFinalize id message →
    request.operation? fresh = some (.finalize id message)
  /-- and for every message there is a request that gives it. -/
  askable : ∀ text, ∃ request : Request, request.AsksFinalize id ⟨recipient, text⟩ ∧
    request.body = Message.format.encode ⟨recipient, text⟩
  /-- The message of another recipient, or of another campaign's, is answered as if the table were not there. -/
  unshared : ∀ around fresh (request : Request) id' (message : Message),
    request.operation? fresh = some (.finalize id' message) → ¬ (id' = id ∧ message.recipientId = recipient) →
      (service.handle around fresh request).response =
        (handle { service with registry := before } around fresh request).response

variable {service : Service} {around : Surroundings} {fresh : String} {request : Request} {id recipient : String}
  {campaign current : Campaign}

/-- However an id is made up, both requests mean the same recipient by it. -/
theorem namedAlike (running : service.registry.get? id = some campaign) (tokens : campaign.table.isEmpty = false)
    (hid : id ≠ "") (hrecipient : recipient ≠ "") (asks : request.AsksEligible id recipient)
    (unbroken : ∀ words, around.store.lookUp recipient ≠ .crashed words)
    (stays : (around.meanwhile service.registry).get? id = some current) (same : campaign.SameCore current) :
    ∃ values, (around.store.lookUp recipient).Gives values ∧
      NamesAlike (around.meanwhile service.registry) id recipient (campaign.table.bind values)
        (service.handle around fresh request).service := by
  obtain ⟨values, gives⟩ := Lookup.exists_gives unbroken
  have asked := asks.operation?_eq fresh hid hrecipient
  have parks : (service.registry.carryOut service.policy around (.eligible id recipient)).registry =
      (around.meanwhile service.registry).park id recipient (campaign.table.bind values) := by
    simp [Registry.carryOut, Registry.eligible_amid_eq, running, tokens, Store.resolve_of_gives tokens gives]
  have keeps := Registry.keeps_park stays (same.table ▸ tokens) recipient (campaign.table.bind values)
  have parked := Registry.parkedFor_park stays recipient (campaign.table.bind values)
  rw [(service.carries_handle around asked).after, parks]
  refine ⟨values, gives, ?_, ?_, ?_, ?_, ?_, ?_⟩
  · rw [parked, if_pos ⟨rfl, rfl⟩]
  · intro id' recipient' apart
    rw [parked, if_neg apart]
  · intro later spares around' fresh' request' text asked'
    exact response_finalize_of_keeps asked' (keeps_after keeps spares)
  · exact fun fresh' request' message asks' => asks'.operation?_eq fresh' hid
  · exact fun text => Request.exists_asksFinalize id ⟨recipient, text⟩
  · intro around' fresh' request' id' message asked' apart
    rw [response_finalize asked', response_finalize asked', Registry.get?_park]
    split_ifs with hid'
    · have hmessage : message.recipientId ≠ recipient := fun h => apart ⟨hid', h⟩
      simp only [hid', stays, Option.map_some, Campaign.fst_finalize_park hmessage]
    · rfl

/-- The ids have a slash, a percent sign, a plus sign and a letter that is no ASCII in them. -/
theorem namedAlike_fiftyPercent :
    let eligible : Request :=
      { method := "POST", target := "/api/campaigns/%63%2F%31/recipients/%35%30%25%2B%C3%A9/eligible" }
    let finalize : Request :=
      { method := "POST", target := "/api/campaigns/%63%2F%31/finalize", contentType := some "application/json"
        body := "\x7b\"recipient_id\": \"50%\\u002b\u00e9\", \"subject\": \"Hi [NAME]\"\x7d" }
    let campaign := Campaign.opened "c/1" "Hi [NAME]" ["Name"]
    let service : Service := { policy := .failOpen, registry := Keyed.empty.insert "c/1" campaign }
    let around : Surroundings := { store := {
      names := .ok ["Name"], ids := .ok ["50%+\u00e9"]
      lookUp := fun _ => .found (Keyed.empty.insert "Name" (some "Ann")) } }
    eligible.AsksEligible "c/1" "50%+\u00e9" ∧ finalize.AsksFinalize "c/1" ⟨"50%+\u00e9", "Hi [NAME]"⟩ ∧
      service.registry.get? "c/1" = some campaign ∧ campaign.table.isEmpty = false ∧
      ((service.handle around "c2" eligible).service.handle around "c2" finalize).response =
        .ok Message.format ⟨"50%+\u00e9", "Hi Ann"⟩ := by
  intro eligible finalize campaign service around
  have asks : eligible.AsksEligible "c/1" "50%+\u00e9" :=
    ⟨rfl, _, _, Text.escapes_escape _, Text.escapes_escape _, [], nofun, by decide +kernel⟩
  have asks' : finalize.AsksFinalize "c/1" ⟨"50%+\u00e9", "Hi [NAME]"⟩ :=
    ⟨rfl, ⟨_, Text.escapes_escape _, [], nofun, by decide +kernel⟩, by decide +kernel⟩
  have running : service.registry.get? "c/1" = some campaign := by simp [service, Keyed.get?_insert]
  have tokens : campaign.table.isEmpty = false := by decide +kernel
  have unbroken (words : String) : around.store.lookUp "50%+\u00e9" ≠ .crashed words := nofun
  obtain ⟨values, gives, alike⟩ :=
    @namedAlike service around "c2" eligible _ _ _ _ running tokens (by decide) (by decide) asks unbroken running
      (.refl campaign)
  cases gives
  have filled : (campaign.table.bind (Keyed.empty.insert "Name" (some "Ann"))).fill "Hi [NAME]" = "Hi Ann" := by
    decide +kernel
  have answered := alike.finalized [] (List.forall_mem_nil _) around "c2" finalize "Hi [NAME]"
    (alike.given "c2" finalize _ asks')
  rw [filled] at answered
  exact ⟨asks, asks', running, tokens, answered⟩

end Service

end SubjectMerge
